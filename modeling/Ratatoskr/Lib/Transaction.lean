import Mathlib.Logic.Function.Basic

/-! Transactions as the statements they issue against a store of keyed rows, and the outcome
of running one with nothing else going on. Waiting for another transaction's locks is the
business of `Ratatoskr.Lib.Pool`. -/
namespace Transaction

variable {κ : Type} {ν : κ → Type} {β α γ : Type}

/-- The committed rows: at most one for each key. -/
abbrev Store (ν : κ → Type) := (key : κ) → Option (ν key)

/-- The rows of one family of tables next to those of another. -/
abbrev Beside (μ : ι → Type) (ν : κ → Type) : ι ⊕ κ → Type
  | .inl key => μ key
  | .inr key => ν key

/-- What a transaction has done to a key it holds; writing `none` deletes the row. -/
inductive Draft (ρ : Type) where
  | locked
  | written (row : Option ρ)

/-- The keys a transaction holds, with what it has done to each. -/
abbrev Drafts (ν : κ → Type) := (key : κ) → Option (Draft (ν key))

/-- Whether the constraints and triggers of a schema let a row replace the stored one. -/
abbrev Constraints (ν : κ → Type) := (key : κ) → Option (ν key) → ν key → Bool

/-- A transaction body. `abandon` leaves the transaction without committing it, `lock` is a
`select .. for update` of a row that matches, `insert` does nothing on a conflict and says so,
`refuse` is a statement the database rejects. -/
inductive Tx (ν : κ → Type) (β α : Type) where
  | done (value : α)
  | abandon (answer : β)
  | refuse (key : κ) (row : ν key)
  | read (key : κ) (next : Option (ν key) → Tx ν β α)
  | lock (key : κ) (matching : ν key → Bool) (next : Option (ν key) → Tx ν β α)
  | insert (key : κ) (row : ν key) (next : Bool → Tx ν β α)
  | write (key : κ) (row : ν key) (next : Tx ν β α)
  | remove (key : κ) (next : Tx ν β α)

namespace Tx

def bind : Tx ν β α → (α → Tx ν β γ) → Tx ν β γ
  | done value,f => f value
  | abandon answer,_ => abandon answer
  | refuse key row,_ => refuse key row
  | read key next,f => read key fun row => (next row).bind f
  | lock key matching next,f => lock key matching fun row => (next row).bind f
  | insert key row next,f => insert key row fun fresh => (next fresh).bind f
  | write key row next,f => write key row (next.bind f)
  | remove key next,f => remove key (next.bind f)

instance : Monad (Tx ν β) where
  pure := done
  bind := bind

@[simp] theorem pure_eq (value : α) : (pure value : Tx ν β α) = done value := rfl

@[simp] theorem bind_eq (body : Tx ν β α) (f : α → Tx ν β γ) : (body >>= f) = body.bind f := rfl

@[simp] theorem bind_done (body : Tx ν β α) : body.bind done = body := by
  induction body with
  | done => rfl
  | abandon => rfl
  | refuse => rfl
  | read key next ih => exact congrArg (read key) (funext ih)
  | lock key matching next ih => exact congrArg (lock key matching) (funext ih)
  | insert key row next ih => exact congrArg (insert key row) (funext ih)
  | write key row next ih => exact congrArg (write key row) ih
  | remove key next ih => exact congrArg (remove key) ih

theorem bind_assoc (body : Tx ν β α) (f : α → Tx ν β γ) (g : γ → Tx ν β δ) :
    (body.bind f).bind g = body.bind fun value => (f value).bind g := by
  induction body with
  | done => rfl
  | abandon => rfl
  | refuse => rfl
  | read key next ih => exact congrArg (read key) (funext ih)
  | lock key matching next ih => exact congrArg (lock key matching) (funext ih)
  | insert key row next ih => exact congrArg (insert key row) (funext ih)
  | write key row next ih => exact congrArg (write key row) ih
  | remove key next ih => exact congrArg (remove key) ih

section Statements

def select (key : κ) : Tx ν β (Option (ν key)) := read key done

def selectForUpdate (key : κ) (matching : ν key → Bool) : Tx ν β (Option (ν key)) := lock key matching done

def insertUnlessConflict (key : κ) (row : ν key) : Tx ν β Bool := insert key row done

/-- A plain insert, which a row already there makes an error. -/
def insertNew (key : κ) (row : ν key) : Tx ν β Unit :=
  insert key row fun fresh => if fresh then done () else refuse key row

/-- Says whether a row matched. -/
def updateWhere (key : κ) (matching : ν key → Bool) (change : ν key → ν key) : Tx ν β Bool :=
  lock key matching fun
    | some row => write key (change row) (done true)
    | none => done false

def deleteWhere (key : κ) (matching : ν key → Bool) : Tx ν β Bool :=
  lock key matching fun
    | some _ => remove key (done true)
    | none => done false

end Statements

/-- A body over some tables is one over more tables, with its answer read anew. -/
def widen {μ : ι → Type} (answer : β → γ) : Tx ν β α → Tx (Beside μ ν) γ α
  | done value => done value
  | abandon reason => abandon (answer reason)
  | refuse key row => refuse (.inr key) row
  | read key next => read (.inr key) fun row => (next row).widen answer
  | lock key matching next => lock (.inr key) matching fun row => (next row).widen answer
  | insert key row next => insert (.inr key) row fun fresh => (next fresh).widen answer
  | write key row next => write (.inr key) row (next.widen answer)
  | remove key next => remove (.inr key) (next.widen answer)

/-- The same statements, with its value and its answer read anew. -/
def adapt (answer : β → γ) (result : α → δ) : Tx ν β α → Tx ν γ δ
  | done value => done (result value)
  | abandon reason => abandon (answer reason)
  | refuse key row => refuse key row
  | read key next => read key fun row => (next row).adapt answer result
  | lock key matching next => lock key matching fun row => (next row).adapt answer result
  | insert key row next => insert key row fun fresh => (next fresh).adapt answer result
  | write key row next => write key row (next.adapt answer result)
  | remove key next => remove key (next.adapt answer result)

end Tx

/-- Every statement of the body concerns keys of the given set only. -/
def Within (keys : κ → Prop) : Tx ν β α → Prop
  | .done _ => True
  | .abandon _ => True
  | .refuse key _ => keys key
  | .read key next => keys key ∧ ∀ row, Within keys (next row)
  | .lock key _ next => keys key ∧ ∀ row, Within keys (next row)
  | .insert key _ next => keys key ∧ ∀ fresh, Within keys (next fresh)
  | .write key _ next => keys key ∧ Within keys next
  | .remove key next => keys key ∧ Within keys next

theorem within_bind (keys : κ → Prop) (body : Tx ν β α) (f : α → Tx ν β γ)
    (first : Within keys body) (rest : ∀ value, Within keys (f value)) : Within keys (body.bind f) := by
  induction body with
  | done value => exact rest value
  | abandon => trivial
  | refuse => exact first
  | read key next ih => exact ⟨first.1,fun row => ih row (first.2 row)⟩
  | lock key matching next ih => exact ⟨first.1,fun row => ih row (first.2 row)⟩
  | insert key row next ih => exact ⟨first.1,fun fresh => ih fresh (first.2 fresh)⟩
  | write key row next ih => exact ⟨first.1,ih first.2⟩
  | remove key next ih => exact ⟨first.1,ih first.2⟩

theorem within_mono (keys more : κ → Prop) (body : Tx ν β α) (wider : ∀ key, keys key → more key)
    (within : Within keys body) : Within more body := by
  induction body with
  | done => trivial
  | abandon => trivial
  | refuse key row => exact wider key within
  | read key next ih => exact ⟨wider key within.1,fun row => ih row (within.2 row)⟩
  | lock key matching next ih => exact ⟨wider key within.1,fun row => ih row (within.2 row)⟩
  | insert key row next ih => exact ⟨wider key within.1,fun fresh => ih fresh (within.2 fresh)⟩
  | write key row next ih => exact ⟨wider key within.1,ih within.2⟩
  | remove key next ih => exact ⟨wider key within.1,ih within.2⟩

theorem within_adapt (keys : κ → Prop) (answer : β → γ) (result : α → δ) (body : Tx ν β α)
    (within : Within keys body) : Within keys (body.adapt answer result) := by
  induction body with
  | done => trivial
  | abandon => trivial
  | refuse => exact within
  | read key next ih => exact ⟨within.1,fun row => ih row (within.2 row)⟩
  | lock key matching next ih => exact ⟨within.1,fun row => ih row (within.2 row)⟩
  | insert key row next ih => exact ⟨within.1,fun fresh => ih fresh (within.2 fresh)⟩
  | write key row next ih => exact ⟨within.1,ih within.2⟩
  | remove key next ih => exact ⟨within.1,ih within.2⟩

section

variable (keys : κ → Prop) (key : κ) (own : keys key)

include own

theorem within_select : Within keys (Tx.select key : Tx ν β _) := ⟨own,fun _ => trivial⟩

theorem within_selectForUpdate (matching : ν key → Bool) :
    Within keys (Tx.selectForUpdate key matching : Tx ν β _) := ⟨own,fun _ => trivial⟩

theorem within_insertNew (row : ν key) : Within keys (Tx.insertNew key row : Tx ν β _) := by
  refine ⟨own,fun fresh => ?_⟩
  cases fresh with
  | true => trivial
  | false => exact own

theorem within_insertUnlessConflict (row : ν key) :
    Within keys (Tx.insertUnlessConflict key row : Tx ν β _) := ⟨own,fun _ => trivial⟩

theorem within_deleteWhere (matching : ν key → Bool) : Within keys (Tx.deleteWhere key matching : Tx ν β _) := by
  refine ⟨own,fun found => ?_⟩
  cases found with
  | none => trivial
  | some row => exact ⟨own,trivial⟩

theorem within_updateWhere (matching : ν key → Bool) (change : ν key → ν key) :
    Within keys (Tx.updateWhere key matching change : Tx ν β _) := by
  refine ⟨own,fun found => ?_⟩
  cases found with
  | none => trivial
  | some row => exact ⟨own,trivial⟩

end

/-- Every answer the body may leave the transaction with is one of these. -/
def Leaves (answers : β → Prop) : Tx ν β α → Prop
  | .done _ => True
  | .abandon answer => answers answer
  | .refuse _ _ => True
  | .read _ next => ∀ row, Leaves answers (next row)
  | .lock _ _ next => ∀ row, Leaves answers (next row)
  | .insert _ _ next => ∀ fresh, Leaves answers (next fresh)
  | .write _ _ next => Leaves answers next
  | .remove _ next => Leaves answers next

theorem leaves_any (body : Tx ν β α) : Leaves (fun _ => True) body := by
  induction body with
  | done => trivial
  | abandon => trivial
  | refuse => trivial
  | read key next ih => exact ih
  | lock key matching next ih => exact ih
  | insert key row next ih => exact ih
  | write key row next ih => exact ih
  | remove key next ih => exact ih

theorem leaves_bind {answers : β → Prop} (body : Tx ν β α) (f : α → Tx ν β γ) (first : Leaves answers body)
    (rest : ∀ value, Leaves answers (f value)) : Leaves answers (body.bind f) := by
  induction body with
  | done value => exact rest value
  | abandon => exact first
  | refuse => trivial
  | read key next ih => exact fun row => ih row (first row)
  | lock key matching next ih => exact fun row => ih row (first row)
  | insert key row next ih => exact fun fresh => ih fresh (first fresh)
  | write key row next ih => exact ih first
  | remove key next ih => exact ih first

theorem leaves_insertNew {answers : β → Prop} (key : κ) (row : ν key) :
    Leaves answers (Tx.insertNew key row : Tx ν β _) := by
  intro fresh
  cases fresh <;> trivial

/-- Every row that a statement of the body inserts is one of these. -/
def Inserts (allowed : (key : κ) → ν key → Prop) : Tx ν β α → Prop
  | .done _ => True
  | .abandon _ => True
  | .refuse _ _ => True
  | .read _ next => ∀ row, Inserts allowed (next row)
  | .lock _ _ next => ∀ row, Inserts allowed (next row)
  | .insert key row next => allowed key row ∧ ∀ fresh, Inserts allowed (next fresh)
  | .write _ _ next => Inserts allowed next
  | .remove _ next => Inserts allowed next

theorem inserts_bind (allowed : (key : κ) → ν key → Prop) (body : Tx ν β α) (f : α → Tx ν β γ)
    (first : Inserts allowed body) (rest : ∀ value, Inserts allowed (f value)) : Inserts allowed (body.bind f) := by
  induction body with
  | done value => exact rest value
  | abandon => trivial
  | refuse => trivial
  | read key next ih => exact fun row => ih row (first row)
  | lock key matching next ih => exact fun row => ih row (first row)
  | insert key row next ih => exact ⟨first.1,fun fresh => ih fresh (first.2 fresh)⟩
  | write key row next ih => exact ih first
  | remove key next ih => exact ih first

theorem inserts_adapt (allowed : (key : κ) → ν key → Prop) (answer : β → γ) (result : α → δ) (body : Tx ν β α)
    (inserts : Inserts allowed body) : Inserts allowed (body.adapt answer result) := by
  induction body with
  | done => trivial
  | abandon => trivial
  | refuse => trivial
  | read key next ih => exact fun row => ih row (inserts row)
  | lock key matching next ih => exact fun row => ih row (inserts row)
  | insert key row next ih => exact ⟨inserts.1,fun fresh => ih fresh (inserts.2 fresh)⟩
  | write key row next ih => exact ih inserts
  | remove key next ih => exact ih inserts

theorem inserts_insertNew (allowed : (key : κ) → ν key → Prop) (key : κ) (row : ν key) (own : allowed key row) :
    Inserts allowed (Tx.insertNew key row : Tx ν β _) := by
  refine ⟨own,fun fresh => ?_⟩
  cases fresh <;> trivial

theorem inserts_updateWhere (allowed : (key : κ) → ν key → Prop) (key : κ) (matching : ν key → Bool)
    (change : ν key → ν key) : Inserts allowed (Tx.updateWhere key matching change : Tx ν β _) := by
  intro found
  cases found <;> trivial

/-- Every value the body may end with is one of these. -/
def Returns (values : α → Prop) : Tx ν β α → Prop
  | .done value => values value
  | .abandon _ => True
  | .refuse _ _ => True
  | .read _ next => ∀ row, Returns values (next row)
  | .lock _ _ next => ∀ row, Returns values (next row)
  | .insert _ _ next => ∀ fresh, Returns values (next fresh)
  | .write _ _ next => Returns values next
  | .remove _ next => Returns values next

theorem returns_any (body : Tx ν β α) : Returns (fun _ => True) body := by
  induction body with
  | done => trivial
  | abandon => trivial
  | refuse => trivial
  | read key next ih => exact ih
  | lock key matching next ih => exact ih
  | insert key row next ih => exact ih
  | write key row next ih => exact ih
  | remove key next ih => exact ih

theorem returns_mono {values more : α → Prop} (body : Tx ν β α) (wider : ∀ value, values value → more value)
    (returns : Returns values body) : Returns more body := by
  induction body with
  | done value => exact wider value returns
  | abandon => trivial
  | refuse => trivial
  | read key next ih => exact fun row => ih row (returns row)
  | lock key matching next ih => exact fun row => ih row (returns row)
  | insert key row next ih => exact fun fresh => ih fresh (returns fresh)
  | write key row next ih => exact ih returns
  | remove key next ih => exact ih returns

theorem returns_bind {middle : α → Prop} {values : γ → Prop} (body : Tx ν β α) (f : α → Tx ν β γ)
    (first : Returns middle body) (rest : ∀ value, middle value → Returns values (f value)) :
    Returns values (body.bind f) := by
  induction body with
  | done value => exact rest value first
  | abandon => trivial
  | refuse => trivial
  | read key next ih => exact fun row => ih row (first row)
  | lock key matching next ih => exact fun row => ih row (first row)
  | insert key row next ih => exact fun fresh => ih fresh (first fresh)
  | write key row next ih => exact ih first
  | remove key next ih => exact ih first

/-- Whatever it begins with, a body returns what it ends with. -/
theorem returns_bind_any {values : γ → Prop} (body : Tx ν β α) (f : α → Tx ν β γ)
    (rest : ∀ value, Returns values (f value)) : Returns values (body.bind f) :=
  returns_bind body f (returns_any body) fun value _ => rest value

theorem leaves_widen {μ : ι → Type} (answer : β → γ) (body : Tx ν β α) :
    Leaves (fun reason => ∃ inner, reason = answer inner) (body.widen (μ := μ) answer) := by
  induction body with
  | done => trivial
  | abandon inner => exact ⟨inner,rfl⟩
  | refuse => trivial
  | read key next ih => exact ih
  | lock key matching next ih => exact ih
  | insert key row next ih => exact ih
  | write key row next ih => exact ih
  | remove key next ih => exact ih

theorem within_widen {μ : ι → Type} (answer : β → γ) (body : Tx ν β α) :
    Within (fun key => key.isRight = true) (body.widen (μ := μ) answer) := by
  induction body with
  | done => trivial
  | abandon => trivial
  | refuse => rfl
  | read key next ih => exact ⟨rfl,ih⟩
  | lock key matching next ih => exact ⟨rfl,ih⟩
  | insert key row next ih => exact ⟨rfl,ih⟩
  | write key row next ih => exact ⟨rfl,ih⟩
  | remove key next ih => exact ⟨rfl,ih⟩

/-- The rows a transaction sees: its own writes over the committed ones. Publishing the
drafts makes this the committed store. -/
def overlay (drafts : Drafts ν) (store : Store ν) : Store ν := fun key =>
  match drafts key with
  | some (.written row) => row
  | _ => store key

def Drafts.none : Drafts ν := fun _ => Option.none

@[simp] theorem overlay_none (store : Store ν) : overlay Drafts.none store = store := rfl

theorem overlay_free {drafts : Drafts ν} {key : κ} (free : drafts key = Option.none) (store : Store ν) :
    overlay drafts store key = store key := by
  simp only [overlay,free]

theorem overlay_congr (drafts : Drafts ν) {key : κ} {store later : Store ν} (same : store key = later key) :
    overlay drafts store key = overlay drafts later key := by
  simp only [overlay,same]

/-- A row that is seen and not committed is one the transaction wrote. -/
theorem written_of_overlay {drafts : Drafts ν} {store : Store ν} {key : κ} {row : ν key}
    (absent : store key = none) (seen : overlay drafts store key = some row) :
    drafts key = some (.written (some row)) := by
  simp only [overlay] at seen
  split at seen
  · rename_i stored held
    rw [held,seen]
  · rw [absent] at seen
    cases seen

section Drafts

variable [DecidableEq κ]

def Drafts.put (drafts : Drafts ν) (key : κ) (row : Option (ν key)) : Drafts ν :=
  Function.update drafts key (some (.written row))

/-- Locking keeps what the transaction has already written to the row. -/
def Drafts.lock (drafts : Drafts ν) (key : κ) : Drafts ν :=
  Function.update drafts key (some ((drafts key).getD .locked))

@[simp] theorem overlay_put (drafts : Drafts ν) (key : κ) (row : Option (ν key)) (store : Store ν) :
    overlay (drafts.put key row) store = Function.update (overlay drafts store) key row := by
  funext other
  by_cases same : other = key
  · subst other
    simp [overlay,Drafts.put]
  · simp [overlay,Drafts.put,same]

@[simp] theorem overlay_lock (drafts : Drafts ν) (key : κ) (store : Store ν) :
    overlay (drafts.lock key) store = overlay drafts store := by
  funext other
  by_cases same : other = key
  · subst same
    cases held : drafts other <;> simp [overlay,Drafts.lock,held]
  · simp [overlay,Drafts.lock,same]

@[simp] theorem put_self (drafts : Drafts ν) (key : κ) (row : Option (ν key)) :
    (drafts.put key row) key = some (.written row) := Function.update_self key _ drafts

theorem put_of_ne (drafts : Drafts ν) (key other : κ) (row : Option (ν key)) (different : other ≠ key) :
    (drafts.put key row) other = drafts other := Function.update_of_ne different _ drafts

/-- A row written after it was locked is held as written. -/
@[simp] theorem lock_put (drafts : Drafts ν) (key : κ) (row : Option (ν key)) :
    (drafts.lock key).put key row = drafts.put key row := Function.update_idem _ _ _

theorem lock_of_ne (drafts : Drafts ν) (key other : κ) (different : other ≠ key) :
    (drafts.lock key) other = drafts other := Function.update_of_ne different _ drafts

@[simp] theorem put_isSome (drafts : Drafts ν) (key : κ) (row : Option (ν key)) (other : κ) :
    ((drafts.put key row) other).isSome ↔ other = key ∨ (drafts other).isSome := by
  by_cases same : other = key
  · subst other
    simp [Drafts.put]
  · simp [Drafts.put,same]

@[simp] theorem lock_isSome (drafts : Drafts ν) (key other : κ) :
    ((drafts.lock key) other).isSome ↔ other = key ∨ (drafts other).isSome := by
  by_cases same : other = key
  · subst other
    simp [Drafts.lock]
  · simp [Drafts.lock,same]

theorem put_isSome_of (drafts : Drafts ν) (key : κ) (row : Option (ν key)) (other : κ)
    (held : (drafts other).isSome) : ((drafts.put key row) other).isSome :=
  (put_isSome drafts key row other).mpr (Or.inr held)

/-- What a `for update` select holds after it returned `found`. -/
def Drafts.lockFound (drafts : Drafts ν) (key : κ) (found : Option (ν key)) : Drafts ν :=
  if found.isSome then drafts.lock key else drafts

@[simp] theorem overlay_lockFound (drafts : Drafts ν) (key : κ) (found : Option (ν key)) (store : Store ν) :
    overlay (drafts.lockFound key found) store = overlay drafts store := by
  rw [Drafts.lockFound]
  split
  · exact overlay_lock drafts key store
  · rfl

theorem lockFound_of_ne (drafts : Drafts ν) (key other : κ) (found : Option (ν key))
    (different : other ≠ key) : (drafts.lockFound key found) other = drafts other := by
  rw [Drafts.lockFound]
  split
  · exact lock_of_ne drafts key other different
  · rfl

theorem lockFound_isSome_of (drafts : Drafts ν) (key : κ) (found : Option (ν key)) (other : κ)
    (held : (drafts other).isSome) : ((drafts.lockFound key found) other).isSome := by
  rw [Drafts.lockFound]
  split
  · exact (lock_isSome drafts key other).mpr (Or.inr held)
  · exact held

end Drafts

/-- The statement a constraint refused: the row that was stored and the one offered. -/
structure Refusal (ν : κ → Type) where
  key : κ
  stored : Option (ν key)
  offered : ν key

/-- How a body run alone ends: with the rows it leaves, or with none of its writes kept. -/
inductive Outcome (ν : κ → Type) (β α : Type) where
  | done (value : α) (rows : Store ν)
  | abandoned (answer : β)
  | refused (refusal : Refusal ν)

/-- Runs a body to its end with nothing else going on. -/
@[grind =] def exec [DecidableEq κ] (accepts : Constraints ν) : Tx ν β α → Store ν → Outcome ν β α
  | .done value,rows => .done value rows
  | .abandon answer,_ => .abandoned answer
  | .refuse key row,rows => .refused ⟨key,rows key,row⟩
  | .read key next,rows => exec accepts (next (rows key)) rows
  | .lock key matching next,rows => exec accepts (next ((rows key).filter matching)) rows
  | .insert key row next,rows =>
    if accepts key none row then
      match rows key with
      | none => exec accepts (next true) (Function.update rows key (some row))
      | some _ => exec accepts (next false) rows
    else .refused ⟨key,none,row⟩
  | .write key row next,rows =>
    if accepts key (rows key) row then exec accepts next (Function.update rows key (some row))
    else .refused ⟨key,rows key,row⟩
  | .remove key next,rows => exec accepts next (Function.update rows key none)

/-- Continues a body that ran to its end, and passes on the other outcomes. -/
def Outcome.bind (outcome : Outcome ν β α) (next : α → Store ν → Outcome ν β γ) : Outcome ν β γ :=
  match outcome with
  | .done value rows => next value rows
  | .abandoned answer => .abandoned answer
  | .refused refusal => .refused refusal

@[simp] theorem Outcome.done_bind (value : α) (rows : Store ν) (next : α → Store ν → Outcome ν β γ) :
    (Outcome.done value rows).bind next = next value rows := rfl

@[simp] theorem Outcome.abandoned_bind (answer : β) (next : α → Store ν → Outcome ν β γ) :
    (Outcome.abandoned answer).bind next = .abandoned answer := rfl

@[simp] theorem Outcome.refused_bind (refusal : Refusal ν) (next : α → Store ν → Outcome ν β γ) :
    (Outcome.refused refusal : Outcome ν β α).bind next = .refused refusal := rfl

def Outcome.adapt (answer : β → γ) (result : α → δ) : Outcome ν β α → Outcome ν γ δ
  | .done value rows => .done (result value) rows
  | .abandoned reason => .abandoned (answer reason)
  | .refused refusal => .refused refusal

/-- The committed rows after the body ran alone from begin to commit or rollback. -/
def Outcome.publish (outcome : Outcome ν β α) (store : Store ν) : Store ν :=
  match outcome with
  | .done _ rows => rows
  | _ => store

section Exec

variable [DecidableEq κ] (accepts : Constraints ν) (rows : Store ν)

@[simp] theorem exec_done (value : α) : exec accepts (.done value : Tx ν β α) rows = .done value rows := rfl

@[simp] theorem exec_abandon (answer : β) :
    exec accepts (.abandon answer : Tx ν β α) rows = .abandoned answer := rfl

theorem exec_bind (body : Tx ν β α) (f : α → Tx ν β γ) :
    exec accepts (body.bind f) rows =
      (exec accepts body rows).bind fun value later => exec accepts (f value) later := by
  induction body generalizing rows with
  | done => rfl
  | abandon => rfl
  | refuse => rfl
  | read key next ih => exact ih _ _
  | lock key matching next ih => exact ih _ _
  | insert key row next ih =>
    simp only [Tx.bind,exec]
    split
    · split
      · exact ih _ _
      · exact ih _ _
    · rfl
  | write key row next ih =>
    simp only [Tx.bind,exec]
    split
    · exact ih _
    · rfl
  | remove key next ih => exact ih _

theorem exec_bind_done (body : Tx ν β α) (f : α → Tx ν β γ) (value : γ) (later : Store ν) :
    exec accepts (body.bind f) rows = .done value later ↔
      ∃ first middle, exec accepts body rows = .done first middle ∧ exec accepts (f first) middle = .done value later := by
  rw [exec_bind]
  cases exec accepts body rows with
  | done first middle =>
    constructor
    · exact fun ended => ⟨first,middle,rfl,ended⟩
    · rintro ⟨_,_,same,ended⟩
      obtain ⟨rfl,rfl⟩ := Outcome.done.inj same
      exact ended
  | abandoned | refused => simp

theorem exec_adapt (answer : β → γ) (result : α → δ) (body : Tx ν β α) :
    exec accepts (body.adapt answer result) rows = (exec accepts body rows).adapt answer result := by
  induction body generalizing rows with
  | done => rfl
  | abandon => rfl
  | refuse => rfl
  | read key next ih => exact ih _ _
  | lock key matching next ih => exact ih _ _
  | insert key row next ih =>
    simp only [Tx.adapt,exec]
    split
    · split
      · exact ih _ _
      · exact ih _ _
    · rfl
  | write key row next ih =>
    simp only [Tx.adapt,exec]
    split
    · exact ih _
    · rfl
  | remove key next ih => exact ih _

/-- A body leaves the rows outside its keys as they were. -/
theorem exec_within (keys : κ → Prop) (body : Tx ν β α) (within : Within keys body) (value : α) (later : Store ν)
    (ended : exec accepts body rows = .done value later) (key : κ) (outside : ¬keys key) : later key = rows key := by
  have apart {other : κ} (inside : keys other) : key ≠ other := fun same => outside (same ▸ inside)
  induction body generalizing rows with
  | done => exact (Outcome.done.inj ended).2 ▸ rfl
  | abandon | refuse => cases ended
  | read other next ih => exact ih _ _ (within.2 _) ended
  | lock other matching next ih => exact ih _ _ (within.2 _) ended
  | insert other row next ih =>
    rw [exec] at ended
    split at ended
    · split at ended
      · exact (ih _ _ (within.2 _) ended).trans (Function.update_of_ne (apart within.1) _ _)
      · exact ih _ _ (within.2 _) ended
    · cases ended
  | write other row next ih =>
    rw [exec] at ended
    split at ended
    · exact (ih _ within.2 ended).trans (Function.update_of_ne (apart within.1) _ _)
    · cases ended
  | remove other next ih => exact (ih _ within.2 ended).trans (Function.update_of_ne (apart within.1) _ _)

/-- A body is refused at one of its keys. -/
theorem exec_refused_within (keys : κ → Prop) (body : Tx ν β α) (within : Within keys body) (refusal : Refusal ν)
    (ended : exec accepts body rows = .refused refusal) : keys refusal.key := by
  induction body generalizing rows with
  | done | abandon => cases ended
  | refuse key row => exact Outcome.refused.inj ended ▸ within
  | read other next ih => exact ih _ _ (within.2 _) ended
  | lock other matching next ih => exact ih _ _ (within.2 _) ended
  | insert other row next ih =>
    rw [exec] at ended
    split at ended
    · split at ended
      · exact ih _ _ (within.2 _) ended
      · exact ih _ _ (within.2 _) ended
    · exact Outcome.refused.inj ended ▸ within.1
  | write other row next ih =>
    rw [exec] at ended
    split at ended
    · exact ih _ within.2 ended
    · exact Outcome.refused.inj ended ▸ within.1
  | remove other next ih => exact ih _ within.2 ended

theorem exec_returns {values : α → Prop} (body : Tx ν β α) (returns : Returns values body) (value : α) (later : Store ν)
    (ended : exec accepts body rows = .done value later) : values value := by
  induction body generalizing rows with
  | done => exact (Outcome.done.inj ended).1 ▸ returns
  | abandon | refuse => cases ended
  | read other next ih => exact ih _ _ (returns _) ended
  | lock other matching next ih => exact ih _ _ (returns _) ended
  | insert other row next ih =>
    rw [exec] at ended
    split at ended
    · split at ended
      · exact ih _ _ (returns _) ended
      · exact ih _ _ (returns _) ended
    · cases ended
  | write other row next ih =>
    rw [exec] at ended
    split at ended
    · exact ih _ returns ended
    · cases ended
  | remove other next ih => exact ih _ returns ended

theorem exec_leaves (answers : β → Prop) (body : Tx ν β α) (leaves : Leaves answers body) (answer : β)
    (ended : exec accepts body rows = .abandoned answer) : answers answer := by
  induction body generalizing rows with
  | done | refuse => cases ended
  | abandon => exact Outcome.abandoned.inj ended ▸ leaves
  | read key next ih => exact ih _ _ (leaves _) ended
  | lock key matching next ih => exact ih _ _ (leaves _) ended
  | insert key row next ih =>
    rw [exec] at ended
    split at ended
    · split at ended
      · exact ih _ _ (leaves _) ended
      · exact ih _ _ (leaves _) ended
    · cases ended
  | write key row next ih =>
    rw [exec] at ended
    split at ended
    · exact ih _ leaves ended
    · cases ended
  | remove key next ih => exact ih _ leaves ended

variable (key : κ)

@[simp] theorem exec_select : exec accepts (Tx.select key : Tx ν β _) rows = .done (rows key) rows := rfl

@[simp] theorem exec_selectForUpdate (matching : ν key → Bool) :
    exec accepts (Tx.selectForUpdate key matching : Tx ν β _) rows =
      .done ((rows key).filter matching) rows := rfl

theorem exec_updateWhere_match (matching : ν key → Bool) (change : ν key → ν key) (row : ν key)
    (found : rows key = some row) (matched : matching row = true) :
    exec accepts (Tx.updateWhere key matching change : Tx ν β _) rows =
      if accepts key (some row) (change row) then
        .done true (Function.update rows key (some (change row)))
      else .refused ⟨key,some row,change row⟩ := by
  have filtered : (some row).filter matching = some row := by simp [matched]
  simp only [Tx.updateWhere,exec,found,filtered]

theorem exec_updateWhere_any_done (change : ν key → ν key) (matched : Bool) (later : Store ν) :
    exec accepts (Tx.updateWhere key (fun _ => true) change : Tx ν β _) rows = .done matched later ↔
      (∃ row, rows key = some row ∧ accepts key (some row) (change row) = true ∧ matched = true ∧
        later = Function.update rows key (some (change row))) ∨ rows key = none ∧ matched = false ∧ later = rows := by
  cases found : rows key with
  | none =>
    simp only [Tx.updateWhere,exec,found,Option.filter_none,reduceCtorEq,false_and,exists_false,false_or,true_and,
      Outcome.done.injEq]
    exact ⟨fun ended => ⟨ended.1.symm,ended.2.symm⟩,fun ended => ⟨ended.1.symm,ended.2.symm⟩⟩
  | some row =>
    have moved := exec_updateWhere_match (β := β) accepts rows key (fun _ => true) change row found rfl
    rw [moved]
    simp only [Option.some.injEq,exists_eq_left',reduceCtorEq,false_and,or_false]
    by_cases accepted : accepts key (some row) (change row) = true
    · rw [if_pos accepted]
      constructor
      · intro ended
        obtain ⟨rfl,rfl⟩ := Outcome.done.inj ended
        exact ⟨accepted,rfl,rfl⟩
      · rintro ⟨_,rfl,rfl⟩
        rfl
    · rw [if_neg accepted]
      exact iff_of_false (fun ended => by cases ended) fun ended => accepted ended.1

theorem exec_updateWhere_none (matching : ν key → Bool) (change : ν key → ν key)
    (absent : (rows key).filter matching = none) :
    exec accepts (Tx.updateWhere key matching change : Tx ν β _) rows = .done false rows := by
  simp [Tx.updateWhere,exec,absent]

theorem exec_deleteWhere_any (value : Bool) (later : Store ν)
    (ended : exec accepts (Tx.deleteWhere key (fun _ => true) : Tx ν β _) rows = .done value later) :
    later = Function.update rows key none := by
  simp only [Tx.deleteWhere,exec] at ended
  cases found : rows key with
  | none =>
    simp only [found,Option.filter_none] at ended
    rw [← (Outcome.done.inj ended).2,← found]
    exact (Function.update_eq_self _ _).symm
  | some row =>
    have filtered : (some row).filter (fun _ => true) = some row := rfl
    simp only [found,filtered] at ended
    exact (Outcome.done.inj ended).2.symm

theorem exec_insertNew (row : ν key) :
    exec accepts (Tx.insertNew key row : Tx ν β _) rows =
      if accepts key none row then
        match rows key with
        | none => .done () (Function.update rows key (some row))
        | some stored => .refused ⟨key,some stored,row⟩
      else .refused ⟨key,none,row⟩ := by
  rw [Tx.insertNew,exec]
  cases found : rows key <;> simp [exec,found]

theorem exec_insertNew_done (row : ν key) (value : Unit) (later : Store ν) :
    exec accepts (Tx.insertNew key row : Tx ν β _) rows = .done value later ↔
      accepts key none row = true ∧ rows key = none ∧ later = Function.update rows key (some row) := by
  rw [exec_insertNew]
  by_cases accepted : accepts key none row = true
  · rw [if_pos accepted]
    cases rows key with
    | none => simp [accepted,eq_comm]
    | some => simp
  · rw [if_neg accepted]
    simp [accepted]

theorem exec_insertUnlessConflict_done (row : ν key) (fresh : Bool) (later : Store ν) :
    exec accepts (Tx.insertUnlessConflict key row : Tx ν β _) rows = .done fresh later ↔
      accepts key none row = true ∧ (fresh = true ∧ rows key = none ∧ later = Function.update rows key (some row) ∨
        fresh = false ∧ (rows key).isSome ∧ later = rows) := by
  rw [Tx.insertUnlessConflict,exec]
  by_cases accepted : accepts key none row = true
  · rw [if_pos accepted]
    cases rows key with
    | none => simp [accepted,eq_comm]
    | some => simp [accepted,eq_comm]
  · rw [if_neg accepted]
    simp [accepted]

end Exec

end Transaction
