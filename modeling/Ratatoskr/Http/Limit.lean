import Mathlib.Data.List.Induction
import Mathlib.Data.List.Nodup
import Mathlib.Data.Nat.Cast.Order.Field
import Ratatoskr.Contracts
import Ratatoskr.Lib.TokenBucket

/-! The allowance of requests per actor. The table of buckets is bounded: buckets that have refilled are
dropped to make room, and without room a new actor is refused. -/
namespace Ratatoskr.Http

open TokenBucket

abbrev ActorId := Nat

/-- `MAX_TRACKED_ACTORS` -/
def maxTrackedActors : Nat := 10000

structure ActorLimiter where
  perMinute : Nat
  buckets : List (ActorId × Bucket Timestamp)

def ActorLimiter.new (perMinute : Nat) : ActorLimiter := ⟨max perMinute 1,[]⟩

/-- The whole seconds between two instants. -/
def elapsed (since now : Timestamp) : Int := max ((now - since).tdiv 1000000000) 0

/-- What a bucket gains for the whole seconds since it was last computed. -/
def gained (perMinute : Nat) (since now : Timestamp) : ℚ := elapsed since now * perMinute / 60

inductive Decision where
  | admitted | refused
deriving DecidableEq

namespace ActorLimiter

def refill (limiter : ActorLimiter) (bucket : Bucket Timestamp) (now : Timestamp) : ℚ :=
  TokenBucket.refill (gained limiter.perMinute) limiter.perMinute bucket now

def bucketOf (limiter : ActorLimiter) (actor : ActorId) : Option (Bucket Timestamp) :=
  (limiter.buckets.find? (·.1 == actor)).map (·.2)

def put (limiter : ActorLimiter) (actor : ActorId) (bucket : Bucket Timestamp) : ActorLimiter :=
  { limiter with buckets := (actor,bucket) :: limiter.buckets.filter (·.1 != actor) }

/-- Reclaims, for an actor that a full table does not track. -/
def reclaim (limiter : ActorLimiter) (actor : ActorId) (now : Timestamp) : ActorLimiter :=
  if (limiter.bucketOf actor).isNone && maxTrackedActors ≤ limiter.buckets.length then
    { limiter with buckets := limiter.buckets.filter fun entry => limiter.refill entry.2 now < limiter.perMinute }
  else limiter

/-- A request of an actor gets no bucket. -/
def isFull (limiter : ActorLimiter) (actor : ActorId) : Bool :=
  (limiter.bucketOf actor).isNone && maxTrackedActors ≤ limiter.buckets.length

def decide (limiter : ActorLimiter) (actor : ActorId) (now : Timestamp) : Decision × ActorLimiter :=
  let limiter := limiter.reclaim actor now
  if limiter.isFull actor then (.refused,limiter)
  else
    let bucket := (limiter.bucketOf actor).getD ⟨limiter.perMinute,now⟩
    let tokens := limiter.refill bucket now
    if tokens < 1 then (.refused,limiter.put actor ⟨tokens,now⟩)
    else (.admitted,limiter.put actor ⟨tokens - 1,now⟩)

end ActorLimiter

section Run

/-- One request, whether it reached a bucket, and how it was decided. -/
structure Entry where
  actor : ActorId
  now : Timestamp
  reached : Bool
  decision : Decision

/-- A limiter with the requests it has decided. -/
structure Served where
  limiter : ActorLimiter
  log : List Entry

def Served.admitRequest (served : Served) (request : ActorId × Timestamp) : Served where
  limiter := (served.limiter.decide request.1 request.2).2
  log := served.log ++ [⟨request.1,request.2,!(served.limiter.reclaim request.1 request.2).isFull request.1,
    (served.limiter.decide request.1 request.2).1⟩]

def serve (perMinute : Nat) (requests : List (ActorId × Timestamp)) : Served :=
  requests.foldl Served.admitRequest ⟨.new perMinute,[]⟩

/-- When the requests of an actor reached a bucket. -/
def Served.charged (served : Served) (actor : ActorId) : List Timestamp :=
  (served.log.filter fun entry => entry.actor == actor && entry.reached).map (·.now)

/-- How many requests of an actor were admitted between two instants. -/
def Served.admittedBetween (served : Served) (actor : ActorId) (first last : Timestamp) : Nat :=
  (served.log.filter fun entry =>
    entry.actor == actor && entry.decision == .admitted && first ≤ entry.now && entry.now ≤ last).length

/-- The bucket of one actor that is never evicted, after requests at these times. -/
def ownBucket (rate : Nat) (times : List Timestamp) : Option (Bucket Timestamp) :=
  times.foldl (fun bucket now => some (spend (gained rate) rate (bucket.getD (full rate now)) now).2) none

/-- What that bucket holds. -/
def ownTokens (rate : Nat) (times : List Timestamp) (now : Timestamp) : ℚ :=
  TokenBucket.refill (gained rate) rate ((ownBucket rate times).getD (full rate now)) now

/-- Requests at nondecreasing times -/
def InOrder (requests : List (ActorId × Timestamp)) : Prop := requests.Pairwise fun first later => first.2 ≤ later.2

end Run

section Meter

theorem elapsed_nonneg (since now : Timestamp) : 0 ≤ elapsed since now := le_max_right _ _

def seconds (now : Timestamp) : ℚ := (now : ℚ) / 1000000000

theorem elapsed_mono {now later : Timestamp} (since : Timestamp) (order : now ≤ later) :
    elapsed since now ≤ elapsed since later :=
  max_le_max_right _ (Int.tdiv_le_tdiv (by omega) (Int.sub_le_sub_right order since))

theorem elapsed_le {since now : Timestamp} (order : since ≤ now) : (elapsed since now : ℚ) ≤ seconds now - seconds since := by
  have whole : 1000000000 * elapsed since now ≤ now - since := by
    have passed := Int.sub_nonneg.mpr order
    unfold elapsed
    generalize now - since = nanoseconds at passed ⊢
    rw [Int.tdiv_eq_ediv_of_nonneg passed]
    omega
  have cast : (1000000000 : ℚ) * elapsed since now ≤ now - since := by exact_mod_cast whole
  rw [seconds,seconds]
  linarith

/-- The meter of a limiter. -/
theorem gained_meter (rate : Nat) : Meter (gained rate) fun now => seconds now * rate / 60 where
  still now := by simp [gained,elapsed]
  nonneg since now := by
    have passed : (0 : ℚ) ≤ elapsed since now := by exact_mod_cast elapsed_nonneg since now
    have scaled := mul_nonneg passed (Nat.cast_nonneg (α := ℚ) rate)
    rw [gained]
    linarith
  mono since now later order := by
    have more : (elapsed since now : ℚ) ≤ elapsed since later := by exact_mod_cast elapsed_mono since order
    have scaled := mul_le_mul_of_nonneg_right more (Nat.cast_nonneg (α := ℚ) rate)
    rw [gained,gained]
    linarith
  within since now order := by
    have scaled := mul_le_mul_of_nonneg_right (elapsed_le order) (Nat.cast_nonneg (α := ℚ) rate)
    rw [gained]
    linarith

end Meter

section Table

variable {limiter : ActorLimiter} {actor other : ActorId} {bucket : Bucket Timestamp} {now : Timestamp}

namespace ActorLimiter

/-- One bucket for each actor -/
def Distinct (limiter : ActorLimiter) : Prop := (limiter.buckets.map (·.1)).Nodup

theorem bucketOf_eq_some (distinct : limiter.Distinct) :
    limiter.bucketOf actor = some bucket ↔ (actor,bucket) ∈ limiter.buckets := by
  constructor
  · intro found
    obtain ⟨entry,first,rfl⟩ := Option.map_eq_some_iff.mp found
    have own : entry.1 = actor := by simpa using List.find?_some first
    exact own ▸ List.mem_of_find?_eq_some first
  · intro member
    cases found : limiter.buckets.find? (·.1 == actor) with
    | none => exact absurd (List.find?_eq_none.mp found _ member) (by simp)
    | some entry =>
      have own : entry.1 = actor := by simpa using List.find?_some found
      have same := List.inj_on_of_nodup_map distinct (List.mem_of_find?_eq_some found) member own
      rw [bucketOf,found,same]
      rfl

theorem bucketOf_eq_none : limiter.bucketOf actor = none ↔ actor ∉ limiter.buckets.map (·.1) := by
  simp only [bucketOf,Option.map_eq_none_iff,List.find?_eq_none,List.mem_map,not_exists,not_and,beq_iff_eq]

@[simp] theorem bucketOf_put_self : (limiter.put actor bucket).bucketOf actor = some bucket := by
  simp [put,bucketOf]

theorem bucketOf_put_of_ne (different : other ≠ actor) : (limiter.put actor bucket).bucketOf other = limiter.bucketOf other := by
  have apart : (actor == other) = false := by simpa using different.symm
  have kept (entry : ActorId × Bucket Timestamp) :
      Decidable.decide ((entry.1 != actor) = true ∧ (entry.1 == other) = true) = (entry.1 == other) := by
    by_cases own : entry.1 = other <;> simp [own,different]
  simp only [put,bucketOf,List.find?_cons,apart,List.find?_filter,kept]

theorem Distinct.put (distinct : limiter.Distinct) : (limiter.put actor bucket).Distinct := by
  refine List.nodup_cons.mpr ⟨fun member => ?_,(List.filter_sublist.map _).nodup distinct⟩
  obtain ⟨entry,kept,own⟩ := List.mem_map.mp member
  simpa [own] using (List.mem_filter.mp kept).2

theorem length_put_le (distinct : limiter.Distinct) (room : limiter.isFull actor = false)
    (size : limiter.buckets.length ≤ maxTrackedActors) : (limiter.put actor bucket).buckets.length ≤ maxTrackedActors := by
  have fewer := List.length_filter_le (fun entry : ActorId × Bucket Timestamp => entry.1 != actor) limiter.buckets
  simp only [ActorLimiter.put,List.length_cons]
  cases tracked : limiter.bucketOf actor with
  | none =>
    simp only [isFull,tracked,Option.isNone_none,Bool.true_and,decide_eq_false_iff_not] at room
    omega
  | some own =>
    -- the old bucket of the actor goes
    have member := (bucketOf_eq_some distinct).mp tracked
    have less := List.length_filter_lt_length_iff_exists (p := fun entry : ActorId × Bucket Timestamp => entry.1 != actor)
      |>.mpr ⟨_,member,by simp⟩
    omega

variable (limiter actor now)

theorem reclaim_perMinute : (limiter.reclaim actor now).perMinute = limiter.perMinute := by
  unfold reclaim
  split <;> rfl

theorem reclaim_tracked (tracked : (limiter.bucketOf actor).isSome) : limiter.reclaim actor now = limiter := by
  rw [reclaim,if_neg]
  simp [Option.isNone_eq_false_iff.mpr tracked]

/-- What is left of a full table has not refilled. -/
theorem reclaim_full (full : (limiter.reclaim actor now).isFull actor = true) :
    limiter.bucketOf actor = none ∧
      maxTrackedActors ≤ (limiter.buckets.filter fun entry => limiter.refill entry.2 now < limiter.perMinute).length := by
  unfold reclaim at full
  split at full
  · rename_i reclaims
    simp only [isFull,Bool.and_eq_true,decide_eq_true_eq] at full reclaims
    exact ⟨Option.isNone_iff_eq_none.mp reclaims.1,full.2⟩
  · rename_i kept
    exact absurd full kept

variable {limiter}

theorem Distinct.reclaim (distinct : limiter.Distinct) : (limiter.reclaim actor now).Distinct := by
  unfold ActorLimiter.reclaim
  split
  · exact (List.filter_sublist.map _).nodup distinct
  · exact distinct

theorem length_reclaim_le (limiter : ActorLimiter) (actor : ActorId) (now : Timestamp) : (limiter.reclaim actor now).buckets.length ≤ limiter.buckets.length := by
  unfold reclaim
  split
  · exact List.length_filter_le _ _
  · exact Nat.le_refl _

/-- Only a bucket that has refilled is reclaimed. -/
theorem bucketOf_reclaim (distinct : limiter.Distinct) (other : ActorId) :
    (limiter.reclaim actor now).bucketOf other = limiter.bucketOf other ∨
      (limiter.reclaim actor now).bucketOf other = none ∧
        ∃ bucket, limiter.bucketOf other = some bucket ∧ limiter.refill bucket now = limiter.perMinute := by
  have left := distinct.reclaim actor now
  unfold reclaim at left ⊢
  split
  · rename_i reclaims
    rw [if_pos reclaims] at left
    cases held : limiter.bucketOf other with
    | none =>
      refine Or.inl (bucketOf_eq_none.mpr fun member => bucketOf_eq_none.mp held ?_)
      exact (List.filter_sublist.map _).subset member
    | some bucket =>
      have member := (bucketOf_eq_some distinct).mp held
      by_cases refilled : limiter.refill bucket now < limiter.perMinute
      · exact Or.inl ((bucketOf_eq_some left).mpr (List.mem_filter.mpr ⟨member,by simpa using refilled⟩))
      · refine Or.inr ⟨bucketOf_eq_none.mpr fun listed => ?_,bucket,rfl,
          le_antisymm (refill_le _ _ _ _) (not_lt.mp refilled)⟩
        obtain ⟨entry,kept,own⟩ := List.mem_map.mp listed
        obtain ⟨stored,less⟩ := List.mem_filter.mp kept
        obtain rfl := List.inj_on_of_nodup_map distinct stored member own
        exact refilled (by simpa using less)
  · exact Or.inl rfl

/-- A request that reaches a bucket spends from it. -/
theorem decide_reached (reached : (limiter.reclaim actor now).isFull actor = false) :
    limiter.decide actor now =
      let bucket := ((limiter.reclaim actor now).bucketOf actor).getD (full limiter.perMinute now)
      let spent := spend (gained limiter.perMinute) limiter.perMinute bucket now
      (if spent.1 then .admitted else .refused,(limiter.reclaim actor now).put actor spent.2) := by
  simp only [decide,reached,Bool.false_eq_true,if_false,refill,reclaim_perMinute,spend,full]
  split
  · rename_i short
    simp [short]
  · rename_i enough
    simp [enough]

theorem decide_full (full : (limiter.reclaim actor now).isFull actor = true) :
    limiter.decide actor now = (.refused,limiter.reclaim actor now) := by
  simp [decide,full]

end ActorLimiter

end Table

section Keeping

variable {rate : Nat} {served : Served}

theorem ownBucket_append (times : List Timestamp) (now : Timestamp) :
    ownBucket rate (times ++ [now]) =
      some (spend (gained rate) rate ((ownBucket rate times).getD (full rate now)) now).2 := by
  rw [ownBucket,List.foldl_append]
  rfl

/-- The table, beside the buckets that are never evicted: a tracked actor has the same, one that was
evicted had refilled. -/
structure Kept (rate : Nat) (served : Served) (now : Timestamp) : Prop where
  perMinute : served.limiter.perMinute = rate
  distinct : served.limiter.Distinct
  size : served.limiter.buckets.length ≤ maxTrackedActors
  past : ∀ entry ∈ served.log, entry.now ≤ now
  tracked : ∀ actor bucket, served.limiter.bucketOf actor = some bucket →
    ownBucket rate (served.charged actor) = some bucket
  evicted : ∀ actor bucket, served.limiter.bucketOf actor = none → ownBucket rate (served.charged actor) = some bucket →
    TokenBucket.refill (gained rate) rate bucket now = rate

theorem Kept.later {now later : Timestamp} (kept : Kept rate served now) (order : now ≤ later) :
    Kept rate served later where
  perMinute := kept.perMinute
  distinct := kept.distinct
  size := kept.size
  past entry member := (kept.past entry member).trans order
  tracked := kept.tracked
  evicted actor bucket untracked own := refill_stays (gained_meter rate) (kept.evicted actor bucket untracked own) order

/-- The bucket that a request finds or gets is spent from like its actor's own. -/
theorem Kept.spend_own {now : Timestamp} (kept : Kept rate served now) (actor : ActorId) :
    spend (gained rate) rate (((served.limiter.reclaim actor now).bucketOf actor).getD (full rate now)) now =
      spend (gained rate) rate ((ownBucket rate (served.charged actor)).getD (full rate now)) now := by
  have fresh (bucket : Bucket Timestamp) (refilled : TokenBucket.refill (gained rate) rate bucket now = rate) :=
    (spend_refilled (gained_meter rate) refilled).symm
  rcases ActorLimiter.bucketOf_reclaim actor now kept.distinct actor with same | ⟨gone,bucket,held,refilled⟩
  · rw [same]
    cases held : served.limiter.bucketOf actor with
    | some bucket => rw [kept.tracked actor bucket held]
    | none =>
      cases own : ownBucket rate (served.charged actor) with
      | none => rfl
      | some bucket => exact fresh bucket (kept.evicted actor bucket held own)
  · rw [gone,kept.tracked actor bucket held]
    rw [ActorLimiter.refill,kept.perMinute] at refilled
    exact fresh bucket refilled

/-- When the requests of an actor reached a bucket, after one more. -/
theorem charged_admitRequest (request : ActorId × Timestamp) (actor : ActorId) :
    (served.admitRequest request).charged actor = served.charged actor ++
      if request.1 = actor ∧ (served.limiter.reclaim request.1 request.2).isFull request.1 = false then [request.2] else [] := by
  rw [Served.charged,Served.admitRequest,List.filter_append,List.map_append,← Served.charged]
  by_cases own : request.1 = actor <;> by_cases full : (served.limiter.reclaim request.1 request.2).isFull request.1 = true <;>
    simp_all

theorem Kept.admitRequest {now : Timestamp} (kept : Kept rate served now) (actor : ActorId) :
    Kept rate (served.admitRequest (actor,now)) now := by
  have left := kept.distinct.reclaim actor now
  have fewer := (ActorLimiter.length_reclaim_le served.limiter actor now).trans kept.size
  have past : ∀ entry ∈ (served.admitRequest (actor,now)).log, entry.now ≤ now := by
    intro entry member
    rcases List.mem_append.mp member with before | last
    · exact kept.past entry before
    · rw [List.mem_singleton.mp last]
  -- what is reclaimed is as good as new
  have reclaimed (other : ActorId) (bucket : Bucket Timestamp)
      (untracked : (served.limiter.reclaim actor now).bucketOf other = none)
      (own : ownBucket rate (served.charged other) = some bucket) :
      TokenBucket.refill (gained rate) rate bucket now = rate := by
    rcases ActorLimiter.bucketOf_reclaim actor now kept.distinct other with same | ⟨-,held,tracked,refilled⟩
    · exact kept.evicted other bucket (same ▸ untracked) own
    · obtain rfl := Option.some.inj (own.symm.trans (kept.tracked other held tracked))
      rwa [ActorLimiter.refill,kept.perMinute] at refilled
  have tracked (other : ActorId) (bucket : Bucket Timestamp)
      (held : (served.limiter.reclaim actor now).bucketOf other = some bucket) :
      ownBucket rate (served.charged other) = some bucket := by
    rcases ActorLimiter.bucketOf_reclaim actor now kept.distinct other with same | ⟨gone,-⟩
    · exact kept.tracked other bucket (same ▸ held)
    · exact absurd (held.symm.trans gone) (by simp)
  cases full : (served.limiter.reclaim actor now).isFull actor with
  | true =>
    have same (other : ActorId) : (served.admitRequest (actor,now)).charged other = served.charged other := by
      simp [charged_admitRequest,full]
    have after : (served.admitRequest (actor,now)).limiter = served.limiter.reclaim actor now := by
      simp [Served.admitRequest,ActorLimiter.decide_full actor now full]
    exact ⟨by rw [after,ActorLimiter.reclaim_perMinute,kept.perMinute],after ▸ left,after ▸ fewer,past,
      fun other bucket held => same other ▸ tracked other bucket (after ▸ held),
      fun other bucket untracked own => reclaimed other bucket (after ▸ untracked) (same other ▸ own)⟩
  | false =>
    have spent := kept.spend_own actor
    have after : (served.admitRequest (actor,now)).limiter = (served.limiter.reclaim actor now).put actor
        (spend (gained rate) rate ((ownBucket rate (served.charged actor)).getD (TokenBucket.full rate now)) now).2 := by
      simp [Served.admitRequest,ActorLimiter.decide_reached actor now full,kept.perMinute,spent]
    have charged (other : ActorId) : (served.admitRequest (actor,now)).charged other =
        served.charged other ++ if actor = other then [now] else [] := by
      simp [charged_admitRequest,full]
    refine ⟨?_,after ▸ left.put,after ▸ ActorLimiter.length_put_le left full fewer,past,
      fun other bucket held => ?_,fun other bucket untracked own => ?_⟩
    · rw [after]
      exact (ActorLimiter.reclaim_perMinute _ _ _).trans kept.perMinute
    · rw [after] at held
      rw [charged]
      by_cases same : other = actor
      · subst same
        rw [ActorLimiter.bucketOf_put_self] at held
        rw [if_pos rfl,ownBucket_append,held]
      · rw [ActorLimiter.bucketOf_put_of_ne same] at held
        rw [if_neg (Ne.symm same),List.append_nil]
        exact tracked other bucket held
    · rw [after] at untracked
      by_cases same : other = actor
      · subst same
        simp at untracked
      · rw [ActorLimiter.bucketOf_put_of_ne same] at untracked
        rw [charged,if_neg (Ne.symm same),List.append_nil] at own
        exact reclaimed other bucket untracked own

theorem serve_append (perMinute : Nat) (requests : List (ActorId × Timestamp)) (request : ActorId × Timestamp) :
    serve perMinute (requests ++ [request]) = (serve perMinute requests).admitRequest request := by
  rw [serve,List.foldl_append]
  rfl

theorem kept_new (perMinute : Nat) (now : Timestamp) : Kept (max perMinute 1) (serve perMinute []) now where
  perMinute := rfl
  distinct := List.nodup_nil
  size := Nat.zero_le _
  past _ member := by cases member
  tracked _ _ held := by cases held
  evicted _ _ _ own := by cases own

/-- Every run keeps the table beside the buckets that are never evicted. -/
theorem kept_serve (perMinute : Nat) (requests : List (ActorId × Timestamp)) (now : Timestamp)
    (ordered : InOrder requests) (latest : ∀ request ∈ requests, request.2 ≤ now) :
    Kept (max perMinute 1) (serve perMinute requests) now := by
  induction requests using List.reverseRecOn generalizing now with
  | nil => exact kept_new perMinute now
  | append_singleton requests request ih =>
    obtain ⟨before,-,across⟩ := List.pairwise_append.mp ordered
    rw [serve_append]
    exact ((ih request.2 before fun earlier member => across earlier member request (List.mem_singleton_self _)).admitRequest
      request.1).later (latest request (by simp))

/-- A request that reaches a bucket is decided by its actor's own. -/
theorem Kept.decided {now : Timestamp} (kept : Kept rate served now) (actor : ActorId)
    (reached : (served.limiter.reclaim actor now).isFull actor = false) :
    (served.limiter.decide actor now).1 = .admitted ↔ 1 ≤ ownTokens rate (served.charged actor) now := by
  simp only [ActorLimiter.decide_reached actor now reached,kept.perMinute,kept.spend_own actor,ownTokens,← spend_fst]
  simp

/-- What an actor's own bucket holds later, after a request at some time. -/
theorem Kept.ownTokens_admitRequest_le {now later : Timestamp} (kept : Kept rate served now) (order : now ≤ later) (actor : ActorId) :
    ownTokens rate ((served.admitRequest (actor,now)).charged actor) later +
        (if (served.limiter.decide actor now).1 = .admitted then 1 else 0) ≤
      max (ownTokens rate (served.charged actor) later)
        (ownTokens rate (served.charged actor) now + (seconds later * rate / 60 - seconds now * rate / 60)) := by
  cases full : (served.limiter.reclaim actor now).isFull actor with
  | true => simp [charged_admitRequest,full,ActorLimiter.decide_full actor now full]
  | false =>
    refine le_max_of_le_right ?_
    have spent := refill_spend_le (gained_meter rate) rate
      ((ownBucket rate (served.charged actor)).getD (TokenBucket.full rate now)) order
    have charged : (served.admitRequest (actor,now)).charged actor = served.charged actor ++ [now] := by
      simp [charged_admitRequest,full]
    have own : (served.limiter.decide actor now).1 = .admitted ↔
        (spend (gained rate) rate ((ownBucket rate (served.charged actor)).getD (TokenBucket.full rate now)) now).1 = true := by
      rw [kept.decided actor full,spend_fst]
      rfl
    rw [charged,ownTokens,ownBucket_append,Option.getD_some,ownTokens]
    simp only [own]
    linarith

end Keeping

section Windows

/-- How many requests of an actor were admitted from an instant on. -/
def Served.admittedSince (served : Served) (actor : ActorId) (first : Timestamp) : Nat :=
  (served.log.filter fun entry => entry.actor == actor && entry.decision == .admitted && first ≤ entry.now).length

variable {rate : Nat} {served : Served}

theorem ownTokens_le (rate : Nat) (times : List Timestamp) (now : Timestamp) : ownTokens rate times now ≤ rate := refill_le _ _ _ _

theorem ownBucket_nonneg (times : List Timestamp) (now : Timestamp) :
    0 ≤ ((ownBucket rate times).getD (full rate now)).tokens := by
  induction times using List.reverseRecOn generalizing now with
  | nil => exact Nat.cast_nonneg rate
  | append_singleton times last ih =>
    rw [ownBucket_append,Option.getD_some]
    exact spend_nonneg (gained_meter rate) (Nat.cast_nonneg rate) (ih last) last

theorem ownTokens_nonneg (rate : Nat) (times : List Timestamp) (now : Timestamp) : 0 ≤ ownTokens rate times now :=
  refill_nonneg (gained_meter rate) (Nat.cast_nonneg rate) (ownBucket_nonneg times now) now

theorem admittedSince_admitRequest (served : Served) (request : ActorId × Timestamp) (actor : ActorId) (first : Timestamp) :
    (served.admitRequest request).admittedSince actor first = served.admittedSince actor first +
      if request.1 = actor ∧ (served.limiter.decide request.1 request.2).1 = .admitted ∧ first ≤ request.2 then 1 else 0 := by
  rw [Served.admittedSince,Served.admitRequest,List.filter_append,List.length_append,← Served.admittedSince]
  congr 1
  by_cases own : request.1 = actor <;>
    by_cases admitted : (served.limiter.decide request.1 request.2).1 = .admitted <;>
    by_cases since : first ≤ request.2 <;> simp_all

/-- What was admitted since an instant and what the actor's own bucket holds have come from the burst and
the time that passed. -/
def Balanced (rate : Nat) (served : Served) (actor : ActorId) (first now : Timestamp) : Prop :=
  ∀ later, now ≤ later → first ≤ later → (served.admittedSince actor first : ℚ) + ownTokens rate (served.charged actor) later ≤
    rate + (seconds later * rate / 60 - seconds first * rate / 60)

theorem balanced_admitRequest {now : Timestamp} (kept : Kept rate served now) {actor : ActorId} {first : Timestamp}
    (balanced : Balanced rate served actor first now) (other : ActorId) :
    Balanced rate (served.admitRequest (other,now)) actor first now := by
  intro later order since
  by_cases same : other = actor
  · subst same
    have spent := kept.ownTokens_admitRequest_le order other
    rw [admittedSince_admitRequest]
    by_cases inside : first ≤ now
    · -- the request counts when it is admitted
      have here := balanced now (le_refl _) inside
      have there := balanced later order since
      have count : (if other = other ∧ (served.limiter.decide other now).1 = .admitted ∧ first ≤ now then 1 else 0 : Nat) =
          if (served.limiter.decide other now).1 = .admitted then 1 else 0 := by simp [inside]
      rw [count]
      push_cast
      rcases le_max_iff.mp spent with least | least <;> linarith
    · -- all requests so far came before the window
      have none_ : served.admittedSince other first = 0 := by
        rw [Served.admittedSince,List.length_eq_zero_iff,List.filter_eq_nil_iff]
        intro entry member
        have past := lt_of_le_of_lt (kept.past entry member) (not_le.mp inside)
        simp [not_le.mpr past]
      have most := ownTokens_le rate ((served.admitRequest (other,now)).charged other) later
      have forward := (gained_meter rate).forward since
      simp only [none_,inside,and_false,if_false,Nat.add_zero,Nat.cast_zero]
      linarith
  · have counted : (served.admitRequest (other,now)).admittedSince actor first = served.admittedSince actor first := by
      simp [admittedSince_admitRequest,same]
    have charged : (served.admitRequest (other,now)).charged actor = served.charged actor := by simp [charged_admitRequest,same]
    rw [counted,charged]
    exact balanced later order since

theorem balanced_serve (perMinute : Nat) (actor : ActorId) (first : Timestamp) (requests : List (ActorId × Timestamp))
    (now : Timestamp) (ordered : InOrder requests) (latest : ∀ request ∈ requests, request.2 ≤ now) :
    Balanced (max perMinute 1) (serve perMinute requests) actor first now := by
  induction requests using List.reverseRecOn generalizing now with
  | nil =>
    intro later _ since
    have most := ownTokens_le (max perMinute 1) ((serve perMinute []).charged actor) later
    have forward := (gained_meter (max perMinute 1)).forward since
    have none_ : (serve perMinute []).admittedSince actor first = 0 := rfl
    rw [none_,Nat.cast_zero]
    linarith
  | append_singleton requests request ih =>
    obtain ⟨before,-,across⟩ := List.pairwise_append.mp ordered
    have earlier : ∀ other ∈ requests, other.2 ≤ request.2 := fun other member =>
      across other member request (List.mem_singleton_self _)
    intro later order since
    rw [serve_append]
    exact balanced_admitRequest (kept_serve perMinute requests request.2 before earlier) (ih request.2 before earlier) request.1
      later ((latest request (by simp)).trans order) since

theorem admittedBetween_le_since (served : Served) (actor : ActorId) (first last : Timestamp) :
    served.admittedBetween actor first last ≤ served.admittedSince actor first := by
  refine (List.monotone_filter_right served.log fun entry inside => ?_).length_le
  simp only [Bool.and_eq_true] at inside ⊢
  exact inside.1

/-- In a window an actor is admitted no more often than its burst and what refills in the window. -/
theorem admittedBetween_le (perMinute : Nat) (actor : ActorId) {first last : Timestamp} (window : first ≤ last)
    (requests : List (ActorId × Timestamp)) (ordered : InOrder requests) :
    ((serve perMinute requests).admittedBetween actor first last : ℚ) ≤ (max perMinute 1 : Nat) +
      (seconds last * (max perMinute 1 : Nat) / 60 - seconds first * (max perMinute 1 : Nat) / 60) := by
  induction requests using List.reverseRecOn with
  | nil =>
    have forward := (gained_meter (max perMinute 1)).forward window
    have rate := Nat.cast_nonneg (α := ℚ) (max perMinute 1)
    have none_ : (serve perMinute []).admittedBetween actor first last = 0 := rfl
    rw [none_,Nat.cast_zero]
    linarith
  | append_singleton requests request ih =>
    obtain ⟨before,-,across⟩ := List.pairwise_append.mp ordered
    have earlier : ∀ other ∈ requests, other.2 ≤ request.2 := fun other member =>
      across other member request (List.mem_singleton_self _)
    by_cases inside : first ≤ request.2 ∧ request.2 ≤ last
    · -- the last request bounds all that came before it
      have balanced := balanced_serve perMinute actor first (requests ++ [request]) request.2 ordered (by
        intro other member
        rcases List.mem_append.mp member with old | own
        · exact earlier other old
        · rw [List.mem_singleton.mp own]) request.2 (le_refl _) inside.1
      have forward := (gained_meter (max perMinute 1)).forward inside.2
      have since : ((serve perMinute (requests ++ [request])).admittedBetween actor first last : ℚ) ≤
          (serve perMinute (requests ++ [request])).admittedSince actor first := by
        exact_mod_cast admittedBetween_le_since _ actor first last
      have left := ownTokens_nonneg (max perMinute 1)
        ((serve perMinute (requests ++ [request])).charged actor) request.2
      linarith
    · have same : (serve perMinute (requests ++ [request])).admittedBetween actor first last =
          (serve perMinute requests).admittedBetween actor first last := by
        rw [serve_append,Served.admittedBetween,Served.admitRequest,List.filter_append,List.length_append,← Served.admittedBetween]
        simp only [List.filter_cons,List.filter_nil]
        split
        · rename_i counted
          simp only [Bool.and_eq_true,decide_eq_true_eq] at counted
          exact absurd ⟨counted.1.2,counted.2⟩ inside
        · rfl
      rw [same]
      exact ih before

end Windows

/-- What the limiter promises, for requests at nondecreasing times. -/
structure Limits (perMinute : Nat) : Prop where
  /-- In any window an actor is admitted no more often than the burst and what the window refills. -/
  windows : ∀ requests, InOrder requests → ∀ actor first last, first ≤ last →
    ((serve perMinute requests).admittedBetween actor first last : ℚ) ≤ (max perMinute 1 : Nat) +
      (seconds last - seconds first + 1) * (max perMinute 1 : Nat) / 60
  /-- A tracked actor, and whoever is admitted, is decided as by a bucket that is never evicted. -/
  decides : ∀ requests actor now, InOrder (requests ++ [(actor,now)]) →
    (((serve perMinute requests).limiter.bucketOf actor).isSome ∨
      ((serve perMinute requests).limiter.decide actor now).1 = .admitted) →
    (((serve perMinute requests).limiter.decide actor now).1 = .admitted ↔
      1 ≤ ownTokens (max perMinute 1) ((serve perMinute requests).charged actor) now)
  /-- Beside that, only an actor without a bucket is refused, by a full table that has not refilled. -/
  refuses : ∀ requests actor now, InOrder (requests ++ [(actor,now)]) →
    ((serve perMinute requests).limiter.decide actor now).1 = .refused →
    1 ≤ ownTokens (max perMinute 1) ((serve perMinute requests).charged actor) now →
    (serve perMinute requests).limiter.bucketOf actor = none ∧
      maxTrackedActors ≤ ((serve perMinute requests).limiter.buckets.filter fun entry =>
        (serve perMinute requests).limiter.refill entry.2 now < (max perMinute 1 : Nat)).length
  /-- The table is bounded, with one bucket for each actor. -/
  bounded : ∀ requests, InOrder requests → (serve perMinute requests).limiter.Distinct ∧
    (serve perMinute requests).limiter.buckets.length ≤ maxTrackedActors

theorem kept_before (perMinute : Nat) {requests : List (ActorId × Timestamp)} {actor : ActorId} {now : Timestamp}
    (ordered : InOrder (requests ++ [(actor,now)])) : Kept (max perMinute 1) (serve perMinute requests) now := by
  obtain ⟨before,-,across⟩ := List.pairwise_append.mp ordered
  exact kept_serve perMinute requests now before fun request member =>
    across request member (actor,now) (List.mem_singleton_self _)

/-- Evicting refilled buckets changes no decision, and the rate holds across evictions. -/
theorem limits (perMinute : Nat) : Limits perMinute where
  windows requests ordered actor first last window := by
    have most := admittedBetween_le perMinute actor window requests ordered
    have rate := Nat.cast_nonneg (α := ℚ) (max perMinute 1)
    linarith
  decides requests actor now ordered known := by
    have kept := kept_before perMinute ordered
    refine kept.decided actor ?_
    rw [← Bool.not_eq_true]
    intro full
    rcases known with tracked | admitted
    · simp [(ActorLimiter.reclaim_full _ _ _ full).1] at tracked
    · rw [ActorLimiter.decide_full actor now full] at admitted
      cases admitted
  refuses requests actor now ordered refused holds := by
    have kept := kept_before perMinute ordered
    cases full : ((serve perMinute requests).limiter.reclaim actor now).isFull actor with
    | true =>
      obtain ⟨untracked,left⟩ := ActorLimiter.reclaim_full _ _ _ full
      rw [kept.perMinute] at left
      exact ⟨untracked,left⟩
    | false =>
      have admitted := (kept.decided actor full).mpr holds
      exact absurd (admitted.symm.trans refused) (by decide)
  bounded requests ordered := by
    obtain ⟨now,latest⟩ : ∃ now, ∀ request ∈ requests, request.2 ≤ now := by
      cases last : requests.getLast? with
      | none => exact ⟨0,by simp [List.getLast?_eq_none_iff.mp last]⟩
      | some request =>
        obtain ⟨before,rfl⟩ := List.getLast?_eq_some_iff.mp last
        refine ⟨request.2,fun other member => ?_⟩
        rcases List.mem_append.mp member with old | own
        · exact (List.pairwise_append.mp ordered).2.2 other old request (List.mem_singleton_self _)
        · rw [List.mem_singleton.mp own]
    have kept := kept_serve perMinute requests now ordered latest
    exact ⟨kept.distinct,kept.size⟩

end Ratatoskr.Http
