import Ratatoskr.Eventing.Retention

/-! The retention passes of the edge service. Each window is turned into a cutoff of its own, and a window
whose hours are too many for the time library ends the loop. -/
namespace Ratatoskr.Edge

open Eventing

/-- The windows in days -/
structure RetentionConfig where
  inboxDays : Nat
  outboxDays : Nat
  auditDays : Nat
  scheduleOccurrenceDays : Nat

def RetentionConfig.days (windows : RetentionConfig) : List Nat :=
  [windows.inboxDays,windows.outboxDays,windows.auditDays,windows.scheduleOccurrenceDays]

inductive Collected where
  | idempotency | relays | inbox | outbox | audit | occurrences
deriving DecidableEq

/-- What a pass collects, in turn. The first two tables carry their own expiry. -/
def RetentionConfig.collections (windows : RetentionConfig) : List (Collected × Option Nat) :=
  [(.idempotency,none),(.relays,none),(.inbox,some windows.inboxDays),(.outbox,some windows.outboxDays),
    (.audit,some windows.auditDays),(.occurrences,some windows.scheduleOccurrenceDays)]

/-- The cutoffs of the statements a pass came to, and whether it came to its end. -/
structure Pass where
  cutoffs : List (Collected × Timestamp)
  finished : Bool
deriving DecidableEq

def cutoff (now : Timestamp) : Option Nat → Option Timestamp
  | none => some now
  | some days => before now days

/-- Each cutoff is computed for its statement, so a panic leaves the statements before it done. -/
def collect (now : Timestamp) : List (Collected × Option Nat) → Pass
  | [] => ⟨[],true⟩
  | (table,days) :: rest =>
    match cutoff now days with
    | none => ⟨[],false⟩
    | some instant => ⟨(table,instant) :: (collect now rest).cutoffs,(collect now rest).finished⟩

def sweep (windows : RetentionConfig) (now : Timestamp) : Pass := collect now windows.collections

/-- The passes of the loop, which a panic ends. -/
structure RetentionLoop where
  passes : List Pass
  ended : Bool

def RetentionLoop.tick (windows : RetentionConfig) (s : RetentionLoop) (now : Timestamp) : RetentionLoop :=
  if s.ended then s else ⟨s.passes ++ [sweep windows now],!(sweep windows now).finished⟩

/-- `spawn_retention`, for as long as its ticker has ticked. -/
def spawnRetention (windows : RetentionConfig) (ticks : List Timestamp) : RetentionLoop :=
  ticks.foldl (RetentionLoop.tick windows) ⟨[],false⟩

/-- `< $1` of the four deletes, for a column that was written from an instant. -/
def isOlder (cutoff : Timestamp) (column : Option Int) : Bool := column.any (· < toOffset cutoff)

/-- No instant that a row carries is older than the cutoff. -/
def DeletesNothing (cutoff : Timestamp) : Prop :=
  ∀ written, earliest ≤ written → isOlder cutoff (some (toOffset written)) = false

/-- What is meant by the cutoff of a window: it is not after now, no shorter window has an earlier one, and
it deletes nothing when the window begins before all instants. -/
structure CutOff (now : Timestamp) (days : Nat) (instant : Timestamp) : Prop where
  past : instant ≤ now
  monotone : ∀ shorter ≤ days, ∃ later, before now shorter = some later ∧ instant ≤ later
  edge : now - (24 * days : Nat) * hour < earliest → DeletesNothing instant

/-- A pass came to its end with a cutoff for each window. -/
structure Sound (windows : RetentionConfig) (now : Timestamp) : Prop where
  finished : (sweep windows now).finished = true
  cutoffs : ∀ table days, (table,some days) ∈ windows.collections →
    ∃ instant, (table,instant) ∈ (sweep windows now).cutoffs ∧ CutOff now days instant

/-- The loop goes on, and each of its passes is sound. -/
def Retains (windows : RetentionConfig) (ticks : List Timestamp) : Prop :=
  (spawnRetention windows ticks).ended = false ∧ (spawnRetention windows ticks).passes = ticks.map (sweep windows) ∧
    ∀ now ∈ ticks, Sound windows now

/-- The whole days whose seconds an `i64` counts. -/
def mostDays : Nat := 106751991167300

theorem before_isSome_iff (now : Timestamp) (days : Nat) : (before now days).isSome = true ↔ days ≤ mostDays := by
  have long : i64Max = 9223372036854775807 := rfl
  have most : mostDays = 106751991167300 := rfl
  have fits : windowHours days * 3600 ≤ i64Max ↔ days ≤ mostDays := by
    unfold windowHours windowDays
    split <;> omega
  unfold before
  by_cases short : days ≤ mostDays
  · simp [fits.mpr short,short]
  · simp [mt fits.mp short,short]

theorem window_of_short {days : Nat} (short : days ≤ mostDays) : window days = (24 * days : Nat) * hour := by
  have long : i64Max = 9223372036854775807 := rfl
  have most : mostDays = 106751991167300 := rfl
  have exact_ : windowHours days = 24 * days := by
    unfold windowHours windowDays
    split <;> omega
  rw [window,exact_]

theorem before_eq {days : Nat} (short : days ≤ mostDays) (now : Timestamp) :
    before now days = some (max (now - (24 * days : Nat) * hour) earliest) := by
  obtain ⟨instant,there⟩ := Option.isSome_iff_exists.mp ((before_isSome_iff now days).mpr short)
  have same := there
  unfold before at same
  split at same
  · rw [there,← same,window_of_short short]
  · cases same

theorem deletes_nothing_at_edge : DeletesNothing earliest := by
  intro written inRange
  have later := to_offset_mono inRange
  simp only [isOlder,Option.any_some,decide_eq_false_iff_not]
  exact Int.not_lt.mpr later

/-- Such a cutoff leaves the inbox as it is, whichever rows are looked at. -/
theorem collectProcessed_nothing {θ : Type} {ρ : θ → Type} {cutoff : Timestamp} (nothing : DeletesNothing cutoff)
    (chosen : List MessageId) (rows : Transaction.Store (Row ρ))
    (written : ∀ messageId (row : InboxRow), rows (.inl messageId) = some row → ∀ column, row.processedAt = some column →
      ∃ instant, earliest ≤ instant ∧ column = toOffset instant) :
    Inbox.collectProcessed cutoff chosen rows = rows := by
  funext key
  cases key with
  | inr other => rfl
  | inl messageId =>
    refine if_neg fun taken => ?_
    simp only [Bool.and_eq_true,Option.any_eq_true] at taken
    obtain ⟨row,stored,column,processed,older⟩ := taken.2
    obtain ⟨instant,inRange,rfl⟩ := written messageId row stored column processed
    have kept := nothing instant inRange
    simp only [isOlder,Option.any_some] at kept
    simp [kept] at older

theorem cutOff_of_short {days : Nat} (short : days ≤ mostDays) {now : Timestamp} (inRange : earliest ≤ now) :
    CutOff now days (max (now - (24 * days : Nat) * hour) earliest) where
  past := by
    have positive : (0 : Int) ≤ (24 * days : Nat) * hour := Int.mul_nonneg (Int.natCast_nonneg _) (by decide)
    simp only [Timestamp] at *
    omega
  monotone shorter less := by
    have narrower : ((24 * shorter : Nat) : Int) * hour ≤ (24 * days : Nat) * hour :=
      Int.mul_le_mul_of_nonneg_right (by omega) (by decide)
    refine ⟨_,before_eq (Nat.le_trans less short) now,?_⟩
    simp only [Timestamp] at *
    omega
  edge outside := by
    rw [Int.max_eq_right (Int.le_of_lt outside)]
    exact deletes_nothing_at_edge

/-- A pass goes on exactly while each cutoff can be computed. -/
theorem collect_finished_iff (now : Timestamp) (collections : List (Collected × Option Nat)) :
    (collect now collections).finished = true ↔ ∀ entry ∈ collections, (cutoff now entry.2).isSome = true := by
  induction collections with
  | nil => simp [collect]
  | cons entry rest ih =>
    obtain ⟨table,days⟩ := entry
    rw [List.forall_mem_cons,← ih,collect]
    cases cutoff now days <;> simp

theorem mem_collect {now : Timestamp} {collections : List (Collected × Option Nat)}
    (finished : (collect now collections).finished = true) {table : Collected} {days : Option Nat} {instant : Timestamp}
    (listed : (table,days) ∈ collections) (computed : cutoff now days = some instant) :
    (table,instant) ∈ (collect now collections).cutoffs := by
  induction collections with
  | nil => cases listed
  | cons entry rest ih =>
    obtain ⟨first,own⟩ := entry
    rw [collect] at finished ⊢
    cases here : cutoff now own with
    | none => simp [here] at finished
    | some begun =>
      simp only [here] at finished
      rcases List.mem_cons.mp listed with same | later
      · obtain ⟨rfl,rfl⟩ := Prod.mk.inj same
        rw [computed] at here
        obtain rfl := Option.some.inj here
        exact List.mem_cons_self
      · exact List.mem_cons_of_mem _ (ih finished later)

theorem finished_iff (windows : RetentionConfig) (now : Timestamp) :
    (sweep windows now).finished = true ↔ ∀ days ∈ windows.days, days ≤ mostDays := by
  rw [sweep,collect_finished_iff]
  simp [RetentionConfig.collections,RetentionConfig.days,cutoff,before_isSome_iff]

theorem mem_days {windows : RetentionConfig} {table : Collected} {days : Nat}
    (listed : (table,some days) ∈ windows.collections) : days ∈ windows.days := by
  simp only [RetentionConfig.collections,List.mem_cons,Prod.mk.injEq,Option.some.injEq,reduceCtorEq,and_false,
    List.not_mem_nil,false_or,or_false] at listed
  simp only [RetentionConfig.days,List.mem_cons,List.not_mem_nil,or_false]
  exact listed.imp And.right (Or.imp And.right (Or.imp And.right And.right))

theorem sound_iff (windows : RetentionConfig) {now : Timestamp} (inRange : earliest ≤ now) :
    Sound windows now ↔ ∀ days ∈ windows.days, days ≤ mostDays := by
  refine ⟨fun sound => (finished_iff windows now).mp sound.finished,fun short => ?_⟩
  have finished := (finished_iff windows now).mpr short
  refine ⟨finished,fun table days listed => ?_⟩
  have fits := short days (mem_days listed)
  exact ⟨_,mem_collect finished listed (before_eq fits now),cutOff_of_short fits inRange⟩

/-- While every pass comes to its end the loop goes on, with one pass for each tick. -/
theorem spawnRetention_eq {windows : RetentionConfig} {ticks : List Timestamp}
    (finished : ∀ now ∈ ticks, (sweep windows now).finished = true) :
    (spawnRetention windows ticks).ended = false ∧ (spawnRetention windows ticks).passes = ticks.map (sweep windows) := by
  have from_ (s : RetentionLoop) (going : s.ended = false) :
      (ticks.foldl (RetentionLoop.tick windows) s).ended = false ∧
        (ticks.foldl (RetentionLoop.tick windows) s).passes = s.passes ++ ticks.map (sweep windows) := by
    induction ticks generalizing s with
    | nil => simp [going]
    | cons now later ih =>
      have here := finished now List.mem_cons_self
      have ticked : s.tick windows now = ⟨s.passes ++ [sweep windows now],false⟩ := by
        simp [RetentionLoop.tick,going,here]
      rw [List.foldl_cons,ticked]
      obtain ⟨goes,passes⟩ := ih (fun instant member => finished instant (List.mem_cons_of_mem _ member))
        ⟨s.passes ++ [sweep windows now],false⟩ rfl
      refine ⟨goes,?_⟩
      rw [passes]
      simp
  exact from_ ⟨[],false⟩ rfl

/-- The passes of a configuration, whether validation takes it or not, are sound and its loop goes on exactly
when each window counts at most as many days as an `i64` of seconds does. -/
theorem retention_goes_on_iff (windows : RetentionConfig) (ticks : List Timestamp)
    (inRange : ∀ now ∈ ticks, earliest ≤ now) (ticked : ticks ≠ []) :
    Retains windows ticks ↔ ∀ days ∈ windows.days, days ≤ mostDays := by
  constructor
  · rintro ⟨_,_,sound⟩
    obtain ⟨now,first⟩ := List.exists_mem_of_ne_nil ticks ticked
    exact (sound_iff windows (inRange now first)).mp (sound now first)
  · intro short
    have sound now (member : now ∈ ticks) : Sound windows now := (sound_iff windows (inRange now member)).mpr short
    obtain ⟨goes,passes⟩ := spawnRetention_eq fun now member => (sound now member).finished
    exact ⟨goes,passes,sound⟩

/-- The longest windows are kept, although they begin before all instants. -/
theorem longest_windows_go_on : Retains ⟨mostDays,mostDays,mostDays,mostDays⟩ [earliest,0] :=
  (retention_goes_on_iff ⟨mostDays,mostDays,mostDays,mostDays⟩ [earliest,0] (by decide) (by decide)).mpr (by decide)

/-- An audit window that validation takes ends the loop at its first tick, in the middle of the pass. -/
theorem vast_window_ends_loop : ∃ windows : RetentionConfig, retentionViolations windows.inboxDays = [] ∧
    (∀ days ∈ windows.days, days < 2 ^ 64) ∧ (∃ now, earliest ≤ now ∧ (sweep windows now).finished = false ∧
      (spawnRetention windows [now,now]).ended = true ∧ ¬Retains windows [now,now]) := by
  refine ⟨⟨30,30,mostDays + 1,90⟩,rfl,by decide,0,by decide,by decide,by decide,fun retains => ?_⟩
  exact absurd retains.1 (by decide)

end Ratatoskr.Edge
