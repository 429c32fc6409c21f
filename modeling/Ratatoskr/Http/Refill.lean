import Ratatoskr.Http.Limit

/-! How the allowance of a key comes back between its requests. The bucket is refilled by the whole seconds
since the last request, refused ones included, so what a second lacks is lost with every request. -/
namespace Ratatoskr.Http

open TokenBucket

/-- What a bucket gains when every part of a second counts. -/
def flow (rate : Nat) (since now : Timestamp) : ℚ := max (seconds now - seconds since) 0 * rate / 60

theorem seconds_mono {now later : Timestamp} (order : now ≤ later) : seconds now ≤ seconds later := by
  have cast : (now : ℚ) ≤ later := by exact_mod_cast order
  rw [seconds,seconds]
  linarith

theorem flow_meter (rate : Nat) : Meter (flow rate) fun now => seconds now * rate / 60 where
  still now := by simp [flow]
  nonneg since now := by
    have scaled := mul_nonneg (le_max_right (seconds now - seconds since) 0) (Nat.cast_nonneg (α := ℚ) rate)
    rw [flow]
    linarith
  mono since now later order := by
    have more := mul_le_mul_of_nonneg_right (max_le_max_right 0 (sub_le_sub_right (seconds_mono order) (seconds since)))
      (Nat.cast_nonneg (α := ℚ) rate)
    rw [flow,flow]
    linarith
  within since now order := by
    rw [flow,max_eq_left (sub_nonneg.mpr (seconds_mono order))]
    linarith

/-- The meter of the seconds adds up. -/
theorem flow_adds (rate : Nat) (since now later : Timestamp) (before : since ≤ now) (after : now ≤ later) :
    flow rate since now + flow rate now later = flow rate since later := by
  have first := sub_nonneg.mpr (seconds_mono before)
  have second := sub_nonneg.mpr (seconds_mono after)
  have whole := sub_nonneg.mpr (seconds_mono (before.trans after))
  rw [flow,flow,flow,max_eq_left first,max_eq_left second,max_eq_left whole]
  linarith

/-- A gap of whole seconds is counted in full, and no other. -/
theorem gained_eq_flow_iff {rate : Nat} (positive : 1 ≤ rate) {since now : Timestamp} (order : since ≤ now) :
    gained rate since now = flow rate since now ↔ (1000000000 : Int) ∣ now - since := by
  have rated : (rate : ℚ) ≠ 0 := Nat.cast_ne_zero.mpr (by omega)
  have passed := Int.sub_nonneg.mpr order
  have counted : (elapsed since now : ℚ) = seconds now - seconds since ↔ elapsed since now * 1000000000 = now - since := by
    rw [seconds,seconds,← sub_div,eq_div_iff (by norm_num)]
    exact_mod_cast Iff.rfl
  rw [gained,flow,max_eq_left (sub_nonneg.mpr (seconds_mono order)),div_left_inj' (by norm_num : (60 : ℚ) ≠ 0),
    mul_left_inj' rated,counted,elapsed]
  generalize now - since = nanoseconds at passed
  rw [Int.tdiv_eq_ediv_of_nonneg passed,max_eq_left (Int.ediv_nonneg passed (by omega))]
  omega

theorem gained_le_flow (rate : Nat) {since now : Timestamp} (order : since ≤ now) :
    gained rate since now ≤ flow rate since now := by
  have scaled := mul_le_mul_of_nonneg_right (elapsed_le order) (Nat.cast_nonneg (α := ℚ) rate)
  rw [gained,flow,max_eq_left (sub_nonneg.mpr (seconds_mono order))]
  linarith

/-- What the lost part of a second is worth is missed unless the whole seconds fill the bucket. -/
theorem refill_eq_flow_iff {rate : Nat} (positive : 1 ≤ rate) {bucket : Bucket Timestamp} {now : Timestamp}
    (order : bucket.instant ≤ now) :
    TokenBucket.refill (gained rate) rate bucket now = TokenBucket.refill (flow rate) rate bucket now ↔
      (1000000000 : Int) ∣ now - bucket.instant ∨ (rate : ℚ) ≤ bucket.tokens + gained rate bucket.instant now := by
  have less := gained_le_flow rate order
  rw [← gained_eq_flow_iff positive order,TokenBucket.refill,TokenBucket.refill]
  constructor
  · intro same
    by_contra neither
    obtain ⟨apart,short⟩ := not_or.mp neither
    rw [min_eq_left (not_le.mp short).le] at same
    rcases le_total (bucket.tokens + flow rate bucket.instant now) rate with under | above
    · rw [min_eq_left under] at same
      exact apart (by linarith)
    · rw [min_eq_right above] at same
      exact short same.ge
  · rintro (same | filled)
    · rw [same]
    · rw [min_eq_right filled,min_eq_right (by linarith)]

section Key

/-- The limiter after requests of one key at these times. -/
def afterRequests (perMinute : Nat) (actor : ActorId) (times : List Timestamp) : ActorLimiter :=
  (serve perMinute (times.map fun now => (actor,now))).limiter

/-- What a request of the actor finds in its bucket. -/
def ActorLimiter.found (limiter : ActorLimiter) (actor : ActorId) (now : Timestamp) : ℚ :=
  limiter.refill ((limiter.bucketOf actor).getD ⟨limiter.perMinute,now⟩) now

/-- The refill of a key's bucket is continuous along its requests. -/
structure RefillsContinuously (perMinute : Nat) (actor : ActorId) (times : List Timestamp) : Prop where
  /-- A request finds what the time since the first one gave, however often the key asked in it. -/
  elapsed : ∀ before now, before ++ [now] <+: times →
    (afterRequests perMinute actor before).found actor now = tokensAt (flow (max perMinute 1)) (max perMinute 1 : Nat) before now
  /-- A key that was only refused since a request is admitted once the time of one token has passed. -/
  again : ∀ before since between now, before ++ since :: between ++ [now] <+: times →
    (∀ asked then_ rest, between = asked ++ then_ :: rest →
      ((afterRequests perMinute actor (before ++ since :: asked)).decide actor then_).1 = .refused) →
    60 ≤ (seconds now - seconds since) * (max perMinute 1 : Nat) →
    ((afterRequests perMinute actor (before ++ since :: between)).decide actor now).1 = .admitted

/-- From each request to the next a whole number of seconds passes, or so many that they fill the bucket. -/
def WholeGaps (perMinute : Nat) (actor : ActorId) (times : List Timestamp) : Prop :=
  ∀ before now, before ++ [now] <+: times → ∀ bucket, (afterRequests perMinute actor before).bucketOf actor = some bucket →
    (1000000000 : Int) ∣ now - bucket.instant ∨
      ((max perMinute 1 : Nat) : ℚ) ≤ bucket.tokens + gained (max perMinute 1) bucket.instant now

section Single

variable {rate : Nat} {actor : ActorId} {bucket : Bucket Timestamp}

@[simp] theorem bucketOf_toList (held : Option (Bucket Timestamp)) :
    ActorLimiter.bucketOf ⟨rate,(held.map fun bucket => (actor,bucket)).toList⟩ actor = held := by
  cases held <;> simp [ActorLimiter.bucketOf]

/-- A table of one bucket has room for its actor. -/
theorem decide_toList (held : Option (Bucket Timestamp)) (now : Timestamp) :
    ActorLimiter.decide ⟨rate,(held.map fun bucket => (actor,bucket)).toList⟩ actor now =
      (if (spend (gained rate) rate (held.getD (full rate now)) now).1 then .admitted else .refused,
        ⟨rate,[(actor,(spend (gained rate) rate (held.getD (full rate now)) now).2)]⟩) := by
  have whole : ActorLimiter.reclaim ⟨rate,(held.map fun bucket => (actor,bucket)).toList⟩ actor now =
      ⟨rate,(held.map fun bucket => (actor,bucket)).toList⟩ := by
    cases held <;> simp [ActorLimiter.reclaim,ActorLimiter.bucketOf,maxTrackedActors]
  have room : ActorLimiter.isFull ⟨rate,(held.map fun bucket => (actor,bucket)).toList⟩ actor = false := by
    cases held <;> simp [ActorLimiter.isFull,ActorLimiter.bucketOf,maxTrackedActors]
  rw [ActorLimiter.decide_reached actor now (whole.symm ▸ room),whole,bucketOf_toList]
  cases held <;> simp [ActorLimiter.put]

end Single

variable (perMinute : Nat) (actor : ActorId)

/-- One key has one bucket, which is never evicted. -/
theorem afterRequests_eq (times : List Timestamp) :
    afterRequests perMinute actor times =
      ⟨max perMinute 1,((bucketAfter (gained (max perMinute 1)) (max perMinute 1 : Nat) times).map fun bucket => (actor,bucket)).toList⟩ := by
  induction times using List.reverseRecOn with
  | nil => rfl
  | append_singleton times now ih =>
    rw [afterRequests,List.map_append,List.map_singleton,serve_append,Served.admitRequest,← afterRequests,ih,bucketAfter_append]
    exact congrArg Prod.snd (decide_toList _ now)

/-- What the actor finds is what its bucket gained. -/
theorem found_eq (times : List Timestamp) (now : Timestamp) :
    (afterRequests perMinute actor times).found actor now =
      tokensAt (gained (max perMinute 1)) (max perMinute 1 : Nat) times now := by
  rw [ActorLimiter.found,afterRequests_eq,bucketOf_toList]
  rfl

theorem decided_iff (times : List Timestamp) (now : Timestamp) :
    ((afterRequests perMinute actor times).decide actor now).1 = .admitted ↔
      1 ≤ tokensAt (gained (max perMinute 1)) (max perMinute 1 : Nat) times now := by
  rw [afterRequests_eq,decide_toList,tokensAt,← spend_fst]
  dsimp only
  split <;> simp_all

variable {perMinute actor}

/-- The last request is the instant of the bucket. -/
theorem instant_le {gain : Timestamp → Timestamp → ℚ} {burst : ℚ} {before times : List Timestamp} {now : Timestamp}
    {bucket : Bucket Timestamp} (ordered : times.Pairwise (· ≤ ·)) (there : before ++ [now] <+: times)
    (held : bucketAfter gain burst before = some bucket) : bucket.instant ≤ now := by
  obtain ⟨first,shape⟩ := bucketAfter_instant _ _ held
  have sorted := ordered.sublist there.sublist
  exact (List.pairwise_append.mp sorted).2.2 bucket.instant (by simp [shape]) now (List.mem_singleton_self _)

theorem rate_pos : 1 ≤ max perMinute 1 := le_max_right _ _

/-- Whole gaps are what makes every request find what flowed in. -/
theorem elapsed_iff {times : List Timestamp} (ordered : times.Pairwise (· ≤ ·)) :
    (∀ before now, before ++ [now] <+: times →
      (afterRequests perMinute actor before).found actor now =
        tokensAt (flow (max perMinute 1)) (max perMinute 1 : Nat) before now) ↔
      WholeGaps perMinute actor times := by
  simp only [found_eq,WholeGaps]
  rw [tokensAt_eq_iff fun now => by rw [refill_full (gained_meter _),refill_full (flow_meter _)]]
  constructor
  · intro same before now there bucket held
    rw [afterRequests_eq,bucketOf_toList] at held
    exact (refill_eq_flow_iff rate_pos (instant_le ordered there held)).mp (same before now there bucket held)
  · intro gaps before now there bucket held
    refine (refill_eq_flow_iff rate_pos (instant_le ordered there held)).mpr (gaps before now there bucket ?_)
    rw [afterRequests_eq,bucketOf_toList]
    exact held

/-- What has flowed in since a request is there for the next one that is admitted. -/
theorem flow_again {rate : Nat} (positive : 1 ≤ rate) (before : List Timestamp) {since now : Timestamp} (order : since ≤ now)
    (passed : 60 ≤ (seconds now - seconds since) * rate) : 1 ≤ tokensAt (flow rate) rate (before ++ [since]) now := by
  have burst : (1 : ℚ) ≤ rate := Nat.one_le_cast.mpr positive
  have held := bucketAfter_append (flow rate) rate before since
  have tokens := bucketAfter_nonneg (flow_meter rate) (Nat.cast_nonneg rate) _ held
  rw [tokensAt,held,Option.getD_some,TokenBucket.refill,spend_instant,flow,
    max_eq_left (sub_nonneg.mpr (seconds_mono order))]
  refine le_min ?_ burst
  linarith

/-- What the first minute of a bucket that was emptied at its start gives, when it is asked just before the end. -/
theorem tokens_half_second_early :
    tokensAt (gained 1) (1 : Nat) [0] 59500000000 = 59 / 60 ∧ tokensAt (gained 1) (1 : Nat) [0,59500000000] 60000000000 = 59 / 60 := by
  have first : gained 1 0 59500000000 = 59 / 60 := by
    rw [gained,show elapsed 0 59500000000 = 59 by decide]
    norm_num
  have second : gained 1 59500000000 60000000000 = 0 := by
    rw [gained,show elapsed 59500000000 60000000000 = 0 by decide]
    norm_num
  have still : gained 1 0 0 = 0 := (gained_meter 1).still 0
  norm_num [tokensAt,bucketAfter,spend,full,TokenBucket.refill,first,second,still]

end Key

end Ratatoskr.Http
