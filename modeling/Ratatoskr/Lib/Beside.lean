import Ratatoskr.Lib.Transaction

/-! Transactions over two families of tables, and those that concern the second one only. -/
namespace Transaction

variable {ι κ : Type} {μ : ι → Type} {ν : κ → Type} {α β γ δ ε : Type}

/-- The constraints of both families -/
def Constraints.beside (first : Constraints μ) (second : Constraints ν) : Constraints (Beside μ ν)
  | .inl key,stored,row => first key stored row
  | .inr key,stored,row => second key stored row

/-- The rows of the second family -/
def Store.second (rows : Store (Beside μ ν)) : Store ν := fun key => rows (.inr key)

/-- Replaces the rows of the second family. -/
def Store.withSecond (rows : Store (Beside μ ν)) (later : Store ν) : Store (Beside μ ν)
  | .inl key => rows (.inl key)
  | .inr key => later key

@[simp] theorem withSecond_second (rows : Store (Beside μ ν)) : rows.withSecond rows.second = rows := by
  funext key
  cases key <;> rfl

@[simp] theorem second_withSecond (rows : Store (Beside μ ν)) (later : Store ν) :
    (rows.withSecond later).second = later := rfl

def Refusal.widen (refusal : Refusal ν) : Refusal (Beside μ ν) := ⟨.inr refusal.key,refusal.stored,refusal.offered⟩

def Outcome.widen (answer : β → γ) (rows : Store (Beside μ ν)) : Outcome ν β α → Outcome (Beside μ ν) γ α
  | .done value later => .done value (rows.withSecond later)
  | .abandoned reason => .abandoned (answer reason)
  | .refused refusal => .refused refusal.widen

namespace Tx

@[simp] theorem widen_done (answer : β → γ) (value : α) : (done value : Tx ν β α).widen (μ := μ) answer = done value := rfl

@[simp] theorem widen_abandon (answer : β → γ) (reason : β) :
    (abandon reason : Tx ν β α).widen (μ := μ) answer = abandon (answer reason) := rfl

theorem widen_bind (answer : β → γ) (body : Tx ν β α) (f : α → Tx ν β δ) :
    (body.bind f).widen (μ := μ) answer = (body.widen answer).bind fun value => (f value).widen answer := by
  induction body with
  | done => rfl
  | abandon => rfl
  | refuse => rfl
  | read key next ih => exact congrArg (read (ν := Beside μ ν) (.inr key)) (funext ih)
  | lock key matching next ih => exact congrArg (lock (ν := Beside μ ν) (.inr key) matching) (funext ih)
  | insert key row next ih => exact congrArg (insert (ν := Beside μ ν) (.inr key) row) (funext ih)
  | write key row next ih => exact congrArg (write (ν := Beside μ ν) (.inr key) row) ih
  | remove key next ih => exact congrArg (remove (ν := Beside μ ν) (.inr key)) ih

theorem bind_adapt (body : Tx ν β α) (f : α → Tx ν β γ) (result : γ → δ) :
    (body.bind f).adapt id result = body.bind fun value => (f value).adapt id result := by
  induction body with
  | done => rfl
  | abandon => rfl
  | refuse => rfl
  | read key next ih => exact congrArg (read key) (funext ih)
  | lock key matching next ih => exact congrArg (lock key matching) (funext ih)
  | insert key row next ih => exact congrArg (insert key row) (funext ih)
  | write key row next ih => exact congrArg (write key row) ih
  | remove key next ih => exact congrArg (remove key) ih

/-- What a body makes of its result can be made of it afterwards. -/
theorem adapt_widen_bind (answer : β → δ) (body : Tx ν β α) (result : α → γ) (f : γ → Tx (Beside μ ν) δ ε) :
    ((body.adapt id result).widen answer).bind f = (body.widen answer).bind fun value => f (result value) := by
  induction body with
  | done => rfl
  | abandon => rfl
  | refuse => rfl
  | read key next ih => exact congrArg (read (ν := Beside μ ν) (.inr key)) (funext ih)
  | lock key matching next ih => exact congrArg (lock (ν := Beside μ ν) (.inr key) matching) (funext ih)
  | insert key row next ih => exact congrArg (insert (ν := Beside μ ν) (.inr key) row) (funext ih)
  | write key row next ih => exact congrArg (write (ν := Beside μ ν) (.inr key) row) ih
  | remove key next ih => exact congrArg (remove (ν := Beside μ ν) (.inr key)) ih

@[simp] theorem widen_insertNew (answer : β → γ) (key : κ) (row : ν key) :
    (insertNew key row : Tx ν β Unit).widen (μ := μ) answer = insertNew (ν := Beside μ ν) (.inr key) row := by
  refine congrArg (insert (ν := Beside μ ν) (.inr key) row) (funext fun fresh => ?_)
  cases fresh <;> rfl

@[simp] theorem widen_insertUnlessConflict (answer : β → γ) (key : κ) (row : ν key) :
    (insertUnlessConflict key row : Tx ν β Bool).widen (μ := μ) answer =
      insertUnlessConflict (ν := Beside μ ν) (.inr key) row := rfl

end Tx

variable [DecidableEq ι] [DecidableEq κ]

theorem withSecond_update (rows : Store (Beside μ ν)) (later : Store ν) (key : κ) (row : Option (ν key)) :
    rows.withSecond (Function.update later key row) =
      Function.update (rows.withSecond later) (.inr key) row := by
  funext other
  cases other with
  | inl other => exact (Function.update_of_ne (fun same => by cases same) _ _).symm
  | inr other =>
    by_cases same : other = key
    · subst same
      simp [Store.withSecond]
    · have different : (Sum.inr other : ι ⊕ κ) ≠ .inr key := fun equal => same (Sum.inr.inj equal)
      rw [Function.update_of_ne different]
      exact Function.update_of_ne same _ _

theorem update_withSecond (rows : Store (Beside μ ν)) (later : Store ν) (key : ι) (row : Option (μ key)) :
    Store.withSecond (Function.update rows (.inl key) row) later =
      Function.update (rows.withSecond later) (.inl key) row := by
  funext other
  cases other with
  | inl other =>
    by_cases same : other = key
    · subst same
      simp [Store.withSecond]
    · have different : (Sum.inl other : ι ⊕ κ) ≠ .inl key := fun equal => same (Sum.inl.inj equal)
      rw [Function.update_of_ne different]
      exact Function.update_of_ne different _ _
  | inr other => exact (Function.update_of_ne (fun same => by cases same) _ _).symm

/-- A body that concerns the second family runs on it as if it were alone. -/
theorem exec_widen (first : Constraints μ) (second : Constraints ν) (answer : β → γ) (body : Tx ν β α)
    (rows : Store (Beside μ ν)) :
    exec (first.beside second) (body.widen answer) rows = (exec second body rows.second).widen answer rows := by
  suffices general : ∀ later : Store ν,
      exec (first.beside second) (body.widen answer) (rows.withSecond later) =
        (exec second body later).widen answer rows by
    have here := general rows.second
    rwa [withSecond_second] at here
  induction body with
  | done => exact fun _ => rfl
  | abandon => exact fun _ => rfl
  | refuse => exact fun _ => rfl
  | read key next ih => exact fun later => ih _ later
  | lock key matching next ih => exact fun later => ih _ later
  | insert key row next ih =>
    intro later
    have sees : rows.withSecond later (.inr key) = later key := rfl
    simp only [Tx.widen,exec,Constraints.beside,sees]
    split
    · cases later key with
      | none => exact (withSecond_update rows later key (some row)) ▸ ih true _
      | some => exact ih false _
    · rfl
  | write key row next ih =>
    intro later
    have sees : rows.withSecond later (.inr key) = later key := rfl
    simp only [Tx.widen,exec,Constraints.beside,sees]
    split
    · exact (withSecond_update rows later key (some row)) ▸ ih _
    · rfl
  | remove key next ih =>
    intro later
    simp only [Tx.widen,exec]
    exact (withSecond_update rows later key none) ▸ ih _

theorem exec_widen_done (first : Constraints μ) (second : Constraints ν) (answer : β → γ) (body : Tx ν β α)
    (rows later : Store (Beside μ ν)) (value : α) :
    exec (first.beside second) (body.widen answer) rows = .done value later ↔
      ∃ own, exec second body rows.second = .done value own ∧ later = rows.withSecond own := by
  rw [exec_widen]
  cases exec second body rows.second with
  | done => simp [Outcome.widen,eq_comm,and_assoc]
  | abandoned | refused => simp [Outcome.widen]

end Transaction
