import Mathlib.Data.List.Basic

/-! Patterns of paths, segment by segment. A segment of a pattern stands for itself, for any one segment that is not
empty, or, as the last one, for all that is left. -/
namespace Patterns

variable {σ : Type}

inductive Slot (σ : Type) where
  | literal (segment : σ)
  | hole
  | rest
deriving DecidableEq

section Matching

variable [DecidableEq σ] (blank : σ)

def Slot.fits (slot : Slot σ) (segment : σ) : Bool :=
  match slot with
  | .literal expected => expected == segment
  | .hole | .rest => segment != blank

/-- The path is one of the pattern. -/
def holds : List (Slot σ) → List σ → Bool
  | [],actual => actual.isEmpty
  | _ :: _,[] => false
  | .rest :: _,segment :: _ => segment != blank
  | .hole :: pattern,segment :: actual => segment != blank && holds pattern actual
  | .literal expected :: pattern,segment :: actual => expected == segment && holds pattern actual

/-- The path is one of the pattern or below it. -/
def under : List (Slot σ) → List σ → Bool
  | [],_ => true
  | _ :: _,[] => false
  | slot :: pattern,segment :: actual => slot.fits blank segment && under pattern actual

/-- Some literal, or the length, tells two patterns apart. -/
def apart : List (Slot σ) → List (Slot σ) → Bool
  | [],[] => false
  | [],_ :: _ | _ :: _,[] => true
  | .rest :: _,_ :: _ | _ :: _,.rest :: _ => false
  | .literal a :: pattern,.literal b :: other => a != b || apart pattern other
  | _ :: pattern,_ :: other => apart pattern other

/-- Some literal, or the length, tells the paths of one pattern from those below another. -/
def misses : List (Slot σ) → List (Slot σ) → Bool
  | [],_ => false
  | _ :: _,[] => true
  | .rest :: _,_ :: _ | _ :: _,.rest :: _ => false
  | .literal a :: pattern,.literal b :: other => a != b || misses pattern other
  | _ :: pattern,_ :: other => misses pattern other

end Matching

section Facts

variable [DecidableEq σ] {blank : σ}

@[simp] theorem fits_literal {expected segment : σ} : (Slot.literal expected).fits blank segment = true ↔ expected = segment :=
  beq_iff_eq

@[simp] theorem fits_hole {segment : σ} : (Slot.hole : Slot σ).fits blank segment = true ↔ segment ≠ blank := bne_iff_ne

theorem holds_cons {slot : Slot σ} {pattern : List (Slot σ)} {path : List σ} (held : holds blank (slot :: pattern) path = true) :
    ∃ segment actual, path = segment :: actual ∧ slot.fits blank segment = true ∧
      (slot = .rest ∨ holds blank pattern actual = true) := by
  cases path with
  | nil => cases held
  | cons segment actual =>
    refine ⟨segment,actual,rfl,?_⟩
    cases slot with
    | rest => exact ⟨held,Or.inl rfl⟩
    | hole | literal =>
      simp only [holds,Bool.and_eq_true] at held
      exact ⟨held.1,Or.inr held.2⟩

/-- No path is of two patterns that are apart. -/
theorem not_holds_of_apart {pattern other : List (Slot σ)} (different : apart pattern other = true) (path : List σ)
    (held : holds blank pattern path = true) : holds blank other path = false := by
  rw [← Bool.not_eq_true]
  intro also
  induction pattern generalizing other path with
  | nil =>
    have empty := List.isEmpty_iff.mp held
    cases other with
    | nil => cases different
    | cons slot other =>
      obtain ⟨segment,actual,shape,_⟩ := holds_cons also
      rw [empty] at shape
      cases shape
  | cons slot pattern ih =>
    obtain ⟨segment,actual,rfl,fits,onward⟩ := holds_cons held
    cases other with
    | nil => cases also
    | cons second other =>
      obtain ⟨_,_,shape,fitted,further⟩ := holds_cons also
      obtain ⟨rfl,rfl⟩ := List.cons.inj shape
      cases slot with
      | rest => cases second <;> cases different
      | hole =>
        cases second with
        | rest => cases different
        | hole | literal => exact ih different actual (onward.resolve_left nofun) (further.resolve_left nofun)
      | literal a =>
        cases second with
        | rest => cases different
        | hole => exact ih different actual (onward.resolve_left nofun) (further.resolve_left nofun)
        | literal b =>
          have equal : a = b := (fits_literal.mp fits).trans (fits_literal.mp fitted).symm
          simp only [apart,equal,bne_self_eq_false,Bool.false_or] at different
          exact ih different actual (onward.resolve_left nofun) (further.resolve_left nofun)

/-- No path of a pattern is below another one that it misses. -/
theorem not_under_of_misses {pattern other : List (Slot σ)} (missed : misses pattern other = true) (path : List σ)
    (held : holds blank other path = true) : under blank pattern path = false := by
  induction pattern generalizing other path with
  | nil => cases missed
  | cons slot pattern ih =>
    cases path with
    | nil => rfl
    | cons segment actual =>
      cases other with
      | nil => cases held
      | cons second other =>
        obtain ⟨_,_,shape,fitted,further⟩ := holds_cons held
        obtain ⟨rfl,rfl⟩ := List.cons.inj shape
        rw [under,Bool.and_eq_false_iff]
        cases slot with
        | rest => cases second <;> cases missed
        | hole =>
          cases second with
          | rest => cases missed
          | hole | literal => exact Or.inr (ih missed actual (further.resolve_left nofun))
        | literal a =>
          cases second with
          | rest => cases missed
          | hole => exact Or.inr (ih missed actual (further.resolve_left nofun))
          | literal b =>
            by_cases equal : a = b
            · simp only [misses,equal,bne_self_eq_false,Bool.false_or] at missed
              exact Or.inr (ih missed actual (further.resolve_left nofun))
            · left
              rw [← fits_literal.mp fitted]
              exact beq_eq_false_iff_ne.mpr equal

/-- A path of a pattern is below each of its beginnings. -/
theorem under_of_holds {pattern more : List (Slot σ)} (path : List σ) (held : holds blank (pattern ++ more) path = true)
    (plain : Slot.rest ∉ pattern) : under blank pattern path = true := by
  induction pattern generalizing path with
  | nil => rfl
  | cons slot pattern ih =>
    obtain ⟨segment,actual,rfl,fits,onward⟩ := holds_cons held
    rw [List.mem_cons,not_or] at plain
    rw [under,fits,ih actual (onward.resolve_left fun last => plain.1 last.symm) plain.2,Bool.true_and]

/-- A path of a pattern that ends in a literal ends in it. -/
theorem literal_last {pattern : List (Slot σ)} {last : σ} (path : List σ)
    (held : holds blank (pattern ++ [.literal last]) path = true) (plain : Slot.rest ∉ pattern) :
    ∃ front, path = front ++ [last] := by
  induction pattern generalizing path with
  | nil =>
    obtain ⟨segment,actual,rfl,fits,onward⟩ := holds_cons held
    have none_ : actual = [] := List.isEmpty_iff.mp (onward.resolve_left nofun)
    exact ⟨[],by rw [none_,fits_literal.mp fits]; rfl⟩
  | cons slot pattern ih =>
    obtain ⟨segment,actual,rfl,fits,onward⟩ := holds_cons held
    rw [List.mem_cons,not_or] at plain
    obtain ⟨front,same⟩ := ih actual (onward.resolve_left fun last => plain.1 last.symm) plain.2
    exact ⟨segment :: front,by rw [same]; rfl⟩

end Facts

end Patterns
