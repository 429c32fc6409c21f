import Mathlib.Data.List.Chain
import Mathlib.Order.Bounds.Basic

/-! Walks over a set of points of a linear order, forwards and backwards, one point at a time. -/
namespace Grid

variable {α : Type} [LinearOrder α] {grid : Set α} {next previous : α → Option α} {a b g : α}

/-- The point after another one, with no point of the grid in between. -/
def After (grid : Set α) (a g : α) : Prop := IsLeast {h | h ∈ grid ∧ a < h} g

def Before (grid : Set α) (a g : α) : Prop := IsGreatest {h | h ∈ grid ∧ h < a} g

theorem After.mem (after : After grid a g) : g ∈ grid := after.1.1

theorem After.lt (after : After grid a g) : a < g := after.1.2

theorem After.le (after : After grid a g) (h : α) (point : h ∈ grid) (later : a < h) : g ≤ h := after.2 ⟨point,later⟩

/-- From anywhere between two neighbours the walk goes to the second one. -/
theorem After.of_between (after : After grid a g) (later : a ≤ b) (before : b < g) : After grid b g :=
  ⟨⟨after.mem,before⟩,fun h ⟨point,above⟩ => after.le h point (lt_of_le_of_lt later above)⟩

theorem After.unique {g' : α} (first : After grid a g) (second : After grid a g') : g = g' :=
  IsLeast.unique first second

/-- Walking back from the next point of a grid point leads to it again. -/
theorem After.before (after : After grid a g) (point : a ∈ grid) : Before grid g a :=
  ⟨⟨point,after.lt⟩,fun h ⟨other,below⟩ => le_of_not_gt fun above => absurd (after.le h other above) (not_le_of_gt below)⟩

theorem Before.unique {g' : α} (first : Before grid a g) (second : Before grid a g') : g = g' :=
  IsGreatest.unique first second

/-- A walk from one place to another, with the places it leaves behind. -/
inductive Walk (grid : Set α) : α → List α → α → Prop where
  | here (a : α) : Walk grid a [] a
  | step {a b c : α} {points : List α} (after : After grid a b) (rest : Walk grid b points c) :
      Walk grid a (a :: points) c

theorem Walk.trans {c : α} {points others : List α} (first : Walk grid a points b) (second : Walk grid b others c) :
    Walk grid a (points ++ others) c := by
  induction first with
  | here => exact second
  | step after _ ih => exact .step after (ih second)

theorem Walk.chain {points : List α} (walk : Walk grid a points b) : (points ++ [b]).IsChain (After grid) := by
  induction walk with
  | here b => exact List.isChain_singleton b
  | step after rest ih =>
    cases rest with
    | here => exact List.isChain_cons_cons.mpr ⟨after,List.isChain_singleton _⟩
    | step => exact List.isChain_cons_cons.mpr ⟨after,ih⟩

/-- A walk that starts at a point visits every point of the grid up to where it ends. -/
theorem mem_of_walk (points : List α) (first last : α) (walk : (first :: points).IsChain (After grid))
    (ends : (first :: points).getLast (List.cons_ne_nil _ _) = last) (h : α) (point : h ∈ grid) (from_ : first ≤ h)
    (to_ : h ≤ last) : h ∈ first :: points := by
  induction points generalizing first with
  | nil =>
    have alone : first = last := ends
    subst alone
    exact List.mem_singleton.mpr (le_antisymm to_ from_)
  | cons second points ih =>
    obtain ⟨step,rest⟩ := List.isChain_cons_cons.mp walk
    rcases eq_or_lt_of_le from_ with here | later
    · exact here ▸ List.mem_cons_self
    · exact List.mem_cons_of_mem _ (ih second rest (by simpa using ends) (step.le h point later))

/-- A walk goes up all the way. -/
theorem pairwise_of_walk (points : List α) (walk : points.IsChain (After grid)) : points.Pairwise (· < ·) :=
  List.isChain_iff_pairwise.mp (walk.imp fun _ _ after => after.lt)

end Grid
