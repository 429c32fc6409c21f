import Ratatoskr.Contracts
import Ratatoskr.Lib.Grid

/-! The UTC grid of a five-field cron expression, walked one instant at a time. -/
namespace Ratatoskr.Scheduling

/-- The cron library, on seconds: `after` is the first instant an iterator gives from the front,
`before` the one it gives from the back. -/
structure CronCrate where
  Schedule : Type
  fromStr : String → Option Schedule
  after : Schedule → Int → Option Int
  before : Schedule → Int → Option Int

/-- The iterator of a schedule gives the instants of its grid in order. -/
structure CronCrate.Lawful (crate : CronCrate) (instants : crate.Schedule → Set Int) : Prop where
  after : ∀ schedule t g, crate.after schedule t = some g ↔ Grid.After (instants schedule) t g
  before : ∀ schedule t g, crate.before schedule t = some g ↔ Grid.Before (instants schedule) t g

def fieldCount (expression : String) : Nat :=
  ((expression.toList.splitOnP isWhiteSpace).filter fun field => !field.isEmpty).length

/-- The instants of the cron library are whole seconds. -/
def ofSecond (second : Int) : Timestamp := second * 1000000000

def asSecond (value : Timestamp) : Int := value.tdiv 1000000000

section Crate

variable (crate : CronCrate)

def parseExpression (expression : String) : Option crate.Schedule :=
  if fieldCount expression = 5 then crate.fromStr ("0 " ++ expression ++ " *") else none

/-- First UTC five-field cron occurrence strictly after `after`. -/
def nextAfter (expression : String) (after : Timestamp) : Option Timestamp := do
  let schedule ← parseExpression crate expression
  let next ← crate.after schedule (asSecond after)
  return ofSecond next

/-- The cron grid point strictly before `due`, at most `maxBack` earlier. -/
def previousBefore (expression : String) (due maxBack : Timestamp) : Option Timestamp := do
  let schedule ← parseExpression crate expression
  let floor := due - maxBack
  match crate.before schedule (asSecond due) with
  | some previous => return max (ofSecond previous) floor
  | none => return floor

end Crate

/-- A column value that holds a whole second -/
def Whole (value : Int) : Prop := ∃ second, value = toOffset (ofSecond second)

theorem to_offset_ofSecond (second : Int) : toOffset (ofSecond second) = second * 1000000 := by
  change (second * 1000000000).tdiv 1000 = _
  rw [show second * 1000000000 = second * 1000000 * 1000 by omega]
  exact Int.mul_tdiv_cancel _ (by decide)

theorem asSecond_ofSecond (second : Int) : asSecond (ofSecond second) = second :=
  Int.mul_tdiv_cancel _ (by decide)

theorem fromOffset_ofSecond (second : Int) : fromOffset (toOffset (ofSecond second)) = ofSecond second := by
  rw [to_offset_ofSecond]
  change second * 1000000 * 1000 = second * 1000000000
  omega

/-- The whole second after the current one lies ahead of the clock. -/
theorem lt_of_asSecond_lt (now : Timestamp) (second : Int) (later : asSecond now < second) :
    toOffset now < toOffset (ofSecond second) := by
  rw [to_offset_ofSecond]
  have cut : Int.tdiv now 1000000000 < second := later
  have kept : toOffset now = Int.tdiv now 1000 := rfl
  rw [kept]
  simp only [Int.tdiv_eq_ediv,show Int.sign 1000000000 = 1 from rfl,show Int.sign 1000 = 1 from rfl] at cut ⊢
  split at cut <;> split <;> omega

/-- Nothing of the grid before the current second counts as ahead of it. -/
theorem asSecond_ge (now : Timestamp) (second : Int) (earlier : toOffset (ofSecond second) ≤ toOffset now) :
    second ≤ asSecond now := by
  rw [to_offset_ofSecond] at earlier
  have kept : toOffset now = Int.tdiv now 1000 := rfl
  rw [kept] at earlier
  change second ≤ Int.tdiv now 1000000000
  simp only [Int.tdiv_eq_ediv,show Int.sign 1000000000 = 1 from rfl,show Int.sign 1000 = 1 from rfl] at earlier ⊢
  split at earlier <;> split <;> omega

/-- From 1970 on, a whole second that the clock has not reached is not the current one. -/
theorem lt_of_offset_lt (now : Timestamp) (second : Int) (era : 0 ≤ now)
    (later : toOffset now < toOffset (ofSecond second)) : asSecond now < second := by
  rw [to_offset_ofSecond] at later
  have kept : toOffset now = Int.tdiv now 1000 := rfl
  rw [kept,Int.tdiv_eq_ediv_of_nonneg era] at later
  change Int.tdiv now 1000000000 < second
  rw [Int.tdiv_eq_ediv_of_nonneg era]
  omega

section Walk

variable (crate : CronCrate) (expression : String)

/-- The step of the publisher's walk, on column values. -/
def dueAfter (due : Int) : Option Int := (nextAfter crate expression (fromOffset due)).map toOffset

/-- The grid of an expression, on column values. -/
def dueGrid (instants : crate.Schedule → Set Int) : Set Int :=
  {due | ∃ schedule second, parseExpression crate expression = some schedule ∧ second ∈ instants schedule ∧
    due = toOffset (ofSecond second)}

variable {crate expression} {instants : crate.Schedule → Set Int}

theorem nextAfter_eq_some {after next : Timestamp} :
    nextAfter crate expression after = some next ↔
      ∃ schedule second, parseExpression crate expression = some schedule ∧
        crate.after schedule (asSecond after) = some second ∧ next = ofSecond second := by
  simp only [nextAfter,Option.bind_eq_bind,Option.bind_eq_some_iff,Option.pure_def,Option.some.injEq]
  constructor
  · rintro ⟨schedule,parsed,second,found,rfl⟩
    exact ⟨schedule,second,parsed,found,rfl⟩
  · rintro ⟨schedule,second,parsed,found,rfl⟩
    exact ⟨schedule,parsed,second,found,rfl⟩

/-- Seconds of one schedule and the column values they are stored as walk alike. -/
theorem after_dueGrid_iff (schedule : crate.Schedule) (parsed : parseExpression crate expression = some schedule)
    (t g : Int) :
    Grid.After (dueGrid crate expression instants) (toOffset (ofSecond t)) (toOffset (ofSecond g)) ↔
      Grid.After (instants schedule) t g := by
  have own (h : Int) : toOffset (ofSecond h) ∈ dueGrid crate expression instants ↔ h ∈ instants schedule := by
    constructor
    · rintro ⟨other,second,parsed',member,same⟩
      obtain rfl := Option.some.inj (parsed.symm.trans parsed')
      rw [to_offset_ofSecond,to_offset_ofSecond] at same
      obtain rfl : h = second := by omega
      exact member
    · exact fun member => ⟨schedule,h,parsed,member,rfl⟩
  have ordered (a b : Int) : toOffset (ofSecond a) < toOffset (ofSecond b) ↔ a < b := by
    rw [to_offset_ofSecond,to_offset_ofSecond]
    omega
  constructor
  · rintro ⟨⟨point,later⟩,least⟩
    refine ⟨⟨(own g).mp point,(ordered t g).mp later⟩,fun h ⟨member,above⟩ => ?_⟩
    have bound := least ⟨(own h).mpr member,(ordered t h).mpr above⟩
    rw [to_offset_ofSecond,to_offset_ofSecond] at bound
    omega
  · rintro ⟨⟨point,later⟩,least⟩
    refine ⟨⟨(own g).mpr point,(ordered t g).mpr later⟩,?_⟩
    rintro _ ⟨⟨other,h,parsed',member,rfl⟩,above⟩
    obtain rfl := Option.some.inj (parsed.symm.trans parsed')
    have bound := least ⟨member,(ordered t h).mp above⟩
    rw [to_offset_ofSecond,to_offset_ofSecond]
    omega

end Walk

end Ratatoskr.Scheduling
