import Mathlib.Algebra.Order.Ring.Rat
import Mathlib.Data.List.Induction
import Mathlib.Tactic.Linarith

/-! Token buckets. What a bucket gains between two instants is read off a meter, which may run behind the
time that passed. -/
namespace TokenBucket

structure Bucket (τ : Type) where
  tokens : ℚ
  instant : τ

section Rules

variable {τ : Type} (gain : τ → τ → ℚ) (burst : ℚ)

/-- The tokens of a bucket at an instant. -/
def refill (bucket : Bucket τ) (now : τ) : ℚ := min (bucket.tokens + gain bucket.instant now) burst

def full (now : τ) : Bucket τ := ⟨burst,now⟩

/-- One token is spent, if there is one. -/
def spend (bucket : Bucket τ) (now : τ) : Bool × Bucket τ :=
  let tokens := refill gain burst bucket now
  if tokens < 1 then (false,⟨tokens,now⟩) else (true,⟨tokens - 1,now⟩)

theorem refill_le (bucket : Bucket τ) (now : τ) : refill gain burst bucket now ≤ burst := min_le_right _ _

theorem spend_fst (bucket : Bucket τ) (now : τ) :
    (spend gain burst bucket now).1 = true ↔ 1 ≤ refill gain burst bucket now := by
  unfold spend
  by_cases short : refill gain burst bucket now < 1
  · simp [short]
  · simp [short,not_lt.mp short]

@[simp] theorem spend_instant (bucket : Bucket τ) (now : τ) : (spend gain burst bucket now).2.instant = now := by
  unfold spend
  dsimp only
  split <;> rfl

/-- What a bucket that was spent from holds. -/
theorem spend_tokens (bucket : Bucket τ) (now : τ) :
    (spend gain burst bucket now).2.tokens =
      refill gain burst bucket now - (if (spend gain burst bucket now).1 then 1 else 0) := by
  unfold spend
  dsimp only
  split <;> simp

variable [LinearOrder τ]

/-- A meter that never runs back, and never ahead of the time that passed. -/
structure Meter (measure : τ → ℚ) : Prop where
  still : ∀ now, gain now now = 0
  nonneg : ∀ since now, 0 ≤ gain since now
  mono : ∀ since now later, now ≤ later → gain since now ≤ gain since later
  within : ∀ since now, since ≤ now → gain since now ≤ measure now - measure since

variable {gain burst} {measure : τ → ℚ} (meter : Meter gain measure)
include meter

theorem Meter.forward {since now : τ} (order : since ≤ now) : measure since ≤ measure now := by
  have gained := meter.mono since since now order
  have within := meter.within since now order
  rw [meter.still] at gained
  linarith

theorem refill_nonneg (positive : 0 ≤ burst) {bucket : Bucket τ} (tokens : 0 ≤ bucket.tokens) (now : τ) :
    0 ≤ refill gain burst bucket now :=
  le_min (add_nonneg tokens (meter.nonneg _ _)) positive

theorem spend_nonneg (positive : 0 ≤ burst) {bucket : Bucket τ} (tokens : 0 ≤ bucket.tokens) (now : τ) :
    0 ≤ (spend gain burst bucket now).2.tokens := by
  have held := refill_nonneg meter positive tokens now
  rw [spend_tokens]
  split
  · rename_i spent
    have enough := (spend_fst _ _ _ _).mp spent
    linarith
  · linarith

theorem refill_full (now : τ) : refill gain burst (full burst now) now = burst := by
  simp [refill,full,meter.still]

/-- A bucket that has refilled stays so. -/
theorem refill_stays {bucket : Bucket τ} {now later : τ} (refilled : refill gain burst bucket now = burst)
    (order : now ≤ later) : refill gain burst bucket later = burst := by
  have more := meter.mono bucket.instant now later order
  have enough : burst ≤ bucket.tokens + gain bucket.instant now := by
    rw [← refilled]
    exact min_le_left _ _
  exact min_eq_right (by linarith)

/-- A bucket that has refilled and a new one are spent from alike. -/
theorem spend_refilled {bucket : Bucket τ} {now : τ} (refilled : refill gain burst bucket now = burst) :
    spend gain burst bucket now = spend gain burst (full burst now) now := by
  simp [spend,refilled,refill_full meter]

/-- What a bucket can hold later, after it was spent from. -/
theorem refill_spend_le (burst : ℚ) (bucket : Bucket τ) {now later : τ} (order : now ≤ later) :
    refill gain burst (spend gain burst bucket now).2 later ≤
      refill gain burst bucket now - (if (spend gain burst bucket now).1 then 1 else 0) + (measure later - measure now) := by
  refine (min_le_left _ _).trans ?_
  rw [spend_tokens,spend_instant]
  have gained := meter.within now later order
  linarith

end Rules

section Histories

variable {τ : Type} (gain : τ → τ → ℚ) (burst : ℚ)

/-- The bucket after requests at these times, full before the first of them. -/
def bucketAfter (times : List τ) : Option (Bucket τ) :=
  times.foldl (fun bucket now => some (spend gain burst (bucket.getD (full burst now)) now).2) none

/-- What a request finds after the earlier ones. -/
def tokensAt (times : List τ) (now : τ) : ℚ := refill gain burst ((bucketAfter gain burst times).getD (full burst now)) now

theorem bucketAfter_append (times : List τ) (now : τ) :
    bucketAfter gain burst (times ++ [now]) =
      some (spend gain burst ((bucketAfter gain burst times).getD (full burst now)) now).2 := by
  rw [bucketAfter,List.foldl_append]
  rfl

theorem bucketAfter_instant {times : List τ} {bucket : Bucket τ} (held : bucketAfter gain burst times = some bucket) :
    ∃ before, times = before ++ [bucket.instant] := by
  rcases List.eq_nil_or_concat times with rfl | ⟨before,now,rfl⟩
  · cases held
  · rw [List.concat_eq_append,bucketAfter_append] at held
    obtain rfl := Option.some.inj held
    exact ⟨before,by simp⟩

variable {gain burst} {other : τ → τ → ℚ}

/-- Two meters that let every request find the same leave the same bucket. -/
theorem bucketAfter_congr (times : List τ)
    (same : ∀ before now, before ++ [now] <+: times → tokensAt gain burst before now = tokensAt other burst before now) :
    bucketAfter gain burst times = bucketAfter other burst times := by
  rcases List.eq_nil_or_concat times with rfl | ⟨before,now,rfl⟩
  · rfl
  · rw [List.concat_eq_append] at same ⊢
    have found := same before now (List.prefix_refl _)
    rw [tokensAt,tokensAt] at found
    simp only [bucketAfter_append,spend,found]

/-- Two meters let every request find the same exactly when each gap between two requests, from the bucket
that the first meter left, makes no difference. -/
theorem tokensAt_eq_iff (start : ∀ now, refill gain burst (full burst now) now = refill other burst (full burst now) now)
    (times : List τ) :
    (∀ before now, before ++ [now] <+: times → tokensAt gain burst before now = tokensAt other burst before now) ↔
      ∀ before now, before ++ [now] <+: times → ∀ bucket, bucketAfter gain burst before = some bucket →
        refill gain burst bucket now = refill other burst bucket now := by
  have earlier {before asked : List τ} {now : τ} (there : before ++ [now] <+: times) (part : asked <+: before) : asked <+: times :=
    part.trans ((List.prefix_append _ _).trans there)
  constructor
  · intro same before now there bucket held
    have found := same before now there
    have kept := bucketAfter_congr before fun asked since part => same asked since (earlier there part)
    rw [tokensAt,tokensAt,← kept,held] at found
    exact found
  · intro gaps before now there
    induction size : before.length using Nat.strong_induction_on generalizing before now with
    | _ size ih =>
      have kept := bucketAfter_congr before fun asked since part =>
        ih asked.length (by
          have shorter := part.length_le
          simp only [List.length_append,List.length_singleton] at shorter
          omega) asked since (earlier there part) rfl
      rw [tokensAt,tokensAt,← kept]
      cases held : bucketAfter gain burst before with
      | none => exact start now
      | some bucket => exact gaps before now there bucket held

variable [LinearOrder τ] {measure : τ → ℚ} (meter : Meter gain measure)

include meter

theorem bucketAfter_nonneg (positive : 0 ≤ burst) (times : List τ) {bucket : Bucket τ}
    (held : bucketAfter gain burst times = some bucket) : 0 ≤ bucket.tokens := by
  induction times using List.reverseRecOn generalizing bucket with
  | nil => cases held
  | append_singleton times now ih =>
    rw [bucketAfter_append] at held
    obtain rfl := Option.some.inj held
    refine spend_nonneg meter positive ?_ now
    cases before : bucketAfter gain burst times with
    | none => exact positive
    | some bucket => exact ih before

/-- Where a meter adds up, a request that was refused changes nothing for a later one. -/
theorem refill_refused (adds : ∀ since now later, since ≤ now → now ≤ later → gain since now + gain now later = gain since later)
    {bucket : Bucket τ} {now later : τ} (order : bucket.instant ≤ now) (onward : now ≤ later) (refused : (spend gain burst bucket now).1 = false) :
    refill gain burst (spend gain burst bucket now).2 later = refill gain burst bucket later := by
  have whole := adds bucket.instant now later order onward
  have more := meter.nonneg now later
  rw [refill,spend_tokens,spend_instant,refused]
  simp only [Bool.false_eq_true,if_false,sub_zero,refill]
  rcases le_total (bucket.tokens + gain bucket.instant now) burst with under | above
  · rw [min_eq_left under,← whole,add_assoc]
  · rw [min_eq_right above,min_eq_right (by linarith),min_eq_right (by linarith)]

/-- Requests that were refused leave what a later one finds as it was. -/
theorem tokensAt_refused (adds : ∀ since now later, since ≤ now → now ≤ later → gain since now + gain now later = gain since later)
    (before : List τ) (since : τ) (between : List τ) {now : τ} (ordered : (before ++ since :: (between ++ [now])).Pairwise (· ≤ ·))
    (refused : ∀ asked last rest, between = asked ++ last :: rest → tokensAt gain burst (before ++ since :: asked) last < 1) :
    tokensAt gain burst (before ++ since :: between) now = tokensAt gain burst (before ++ [since]) now := by
  induction between using List.reverseRecOn generalizing now with
  | nil => rfl
  | append_singleton asked last ih =>
    have sooner : before ++ since :: (asked ++ [last] ++ [now]) = (before ++ since :: asked) ++ [last,now] := by simp
    rw [sooner] at ordered
    obtain ⟨asked_ordered,tail,across⟩ := List.pairwise_append.mp ordered
    have onward : last ≤ now := (List.pairwise_cons.mp tail).1 now (List.mem_singleton_self _)
    have without : (before ++ since :: (asked ++ [now])).Pairwise (· ≤ ·) := by
      have fewer : (before ++ since :: asked) ++ [now] = before ++ since :: (asked ++ [now]) := by simp
      rw [← fewer]
      exact ordered.sublist (List.Sublist.append_left (List.sublist_cons_self last [now]) _)
    have whole : before ++ since :: (asked ++ [last]) = (before ++ since :: asked) ++ [last] := by simp
    rw [← ih without fun less middle rest shape => refused less middle (rest ++ [last]) (by simp [shape]),whole]
    have short := refused asked last [] rfl
    cases held : bucketAfter gain burst (before ++ since :: asked) with
    | none =>
      rcases List.eq_nil_or_concat (since :: asked) with none_ | ⟨first,final,shape⟩
      · cases none_
      · rw [shape,List.concat_eq_append,← List.append_assoc,bucketAfter_append] at held
        cases held
    | some bucket =>
      obtain ⟨first,shape⟩ := bucketAfter_instant _ _ held
      have order : bucket.instant ≤ last :=
        across bucket.instant (by simp [shape]) last (List.mem_cons_self ..)
      rw [tokensAt,held,Option.getD_some] at short
      have spent : (spend gain burst bucket last).1 = false := by
        rw [← Bool.not_eq_true,spend_fst]
        exact not_le.mpr short
      rw [tokensAt,bucketAfter_append,tokensAt,held]
      exact refill_refused meter adds order onward spent

end Histories

end TokenBucket
