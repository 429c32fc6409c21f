import Ratatoskr.Lib.Transaction

/-! Pre- and postconditions of a transaction body that runs alone. A body that is abandoned or refused
promises nothing in `Triple`, because none of its writes is kept; `Serves` promises that it is not refused. -/
namespace Transaction

variable {κ : Type} [DecidableEq κ] {ν : κ → Type} {β α γ : Type} {accepts : Constraints ν}

/-- From rows that meet the first condition the body only ends in rows that meet the second. -/
def Triple (accepts : Constraints ν) (before : Store ν → Prop) (body : Tx ν β α) (after : α → Store ν → Prop) : Prop :=
  ∀ rows value later, before rows → exec accepts body rows = .done value later → after value later

variable {before : Store ν → Prop} {body : Tx ν β α} {after : α → Store ν → Prop}

theorem triple_done (value : α) (met : ∀ rows, before rows → after value rows) :
    Triple accepts before (.done value : Tx ν β α) after := by
  intro rows found later holds ended
  obtain ⟨rfl,rfl⟩ := Outcome.done.inj ended
  exact met rows holds

theorem triple_abandon (answer : β) : Triple accepts before (.abandon answer : Tx ν β α) after := by
  intro rows value later _ ended
  cases ended

theorem triple_refuse (key : κ) (row : ν key) : Triple accepts before (.refuse key row : Tx ν β α) after := by
  intro rows value later _ ended
  cases ended

theorem triple_bind {f : α → Tx ν β γ} {last : γ → Store ν → Prop} (middle : α → Store ν → Prop)
    (first : Triple accepts before body middle) (next : ∀ value, Triple accepts (middle value) (f value) last) :
    Triple accepts before (body.bind f) last := by
  intro rows value later holds ended
  obtain ⟨between,stored,begun,rest⟩ := (exec_bind_done accepts rows body f value later).mp ended
  exact next between stored value later (first rows between stored holds begun) rest

theorem Triple.weaken {wider : α → Store ν → Prop} (triple : Triple accepts before body after)
    (weaker : ∀ value rows, after value rows → wider value rows) : Triple accepts before body wider :=
  fun rows value later holds ended => weaker value later (triple rows value later holds ended)

theorem Triple.strengthen {narrower : Store ν → Prop} (triple : Triple accepts before body after)
    (stronger : ∀ rows, narrower rows → before rows) : Triple accepts narrower body after :=
  fun rows value later holds ended => triple rows value later (stronger rows holds) ended

/-- What the rows do not enter may be read off before the body runs. -/
theorem triple_pure {fact : Prop} (triple : fact → Triple accepts before body after) :
    Triple accepts (fun rows => fact ∧ before rows) body after :=
  fun rows value later holds ended => triple holds.1 rows value later holds.2 ended

section Statements

variable (key : κ)

theorem triple_select {after : Option (ν key) → Store ν → Prop} (met : ∀ rows, before rows → after (rows key) rows) :
    Triple accepts before (Tx.select key : Tx ν β _) after := by
  intro rows value later holds ended
  obtain ⟨rfl,rfl⟩ := Outcome.done.inj ended
  exact met rows holds

theorem triple_selectForUpdate (matching : ν key → Bool) {after : Option (ν key) → Store ν → Prop}
    (met : ∀ rows, before rows → after ((rows key).filter matching) rows) :
    Triple accepts before (Tx.selectForUpdate key matching : Tx ν β _) after := by
  intro rows value later holds ended
  obtain ⟨rfl,rfl⟩ := Outcome.done.inj ended
  exact met rows holds

theorem triple_insertNew (row : ν key) {after : Unit → Store ν → Prop}
    (met : ∀ rows, before rows → rows key = none → after () (Function.update rows key (some row))) :
    Triple accepts before (Tx.insertNew key row : Tx ν β _) after := by
  intro rows value later holds ended
  obtain ⟨_,absent,rfl⟩ := (exec_insertNew_done accepts rows key row value later).mp ended
  exact met rows holds absent

theorem triple_insertUnlessConflict (row : ν key) {after : Bool → Store ν → Prop}
    (fresh : ∀ rows, before rows → rows key = none → after true (Function.update rows key (some row)))
    (conflict : ∀ rows, before rows → after false rows) :
    Triple accepts before (Tx.insertUnlessConflict key row : Tx ν β _) after := by
  intro rows value later holds ended
  obtain ⟨_,⟨rfl,absent,rfl⟩ | ⟨rfl,_,rfl⟩⟩ := (exec_insertUnlessConflict_done accepts rows key row value later).mp ended
  · exact fresh rows holds absent
  · exact conflict _ holds

theorem triple_updateWhere (matching : ν key → Bool) (change : ν key → ν key) {after : Bool → Store ν → Prop}
    (matched : ∀ rows row, before rows → rows key = some row → matching row = true →
      after true (Function.update rows key (some (change row))))
    (missed : ∀ rows, before rows → after false rows) :
    Triple accepts before (Tx.updateWhere key matching change : Tx ν β _) after := by
  intro rows value later holds ended
  cases found : (rows key).filter matching with
  | none =>
    rw [exec_updateWhere_none accepts rows key matching change found] at ended
    obtain ⟨rfl,rfl⟩ := Outcome.done.inj ended
    exact missed rows holds
  | some row =>
    obtain ⟨stored,meets⟩ := Option.filter_eq_some_iff.mp found
    rw [exec_updateWhere_match accepts rows key matching change row stored meets] at ended
    split at ended
    · obtain ⟨rfl,rfl⟩ := Outcome.done.inj ended
      exact matched rows row holds stored meets
    · cases ended

theorem triple_write (row : ν key) {next : Tx ν β α} (middle : Store ν → Prop)
    (met : ∀ rows, before rows → middle (Function.update rows key (some row))) (rest : Triple accepts middle next after) :
    Triple accepts before (.write key row next) after := by
  intro rows value later holds ended
  rw [exec] at ended
  split at ended
  · exact rest _ value later (met rows holds) ended
  · cases ended

theorem triple_remove {next : Tx ν β α} (middle : Store ν → Prop)
    (met : ∀ rows, before rows → middle (Function.update rows key none)) (rest : Triple accepts middle next after) :
    Triple accepts before (.remove key next) after :=
  fun rows value later holds ended => rest _ value later (met rows holds) ended

end Statements

section Serving

/-- Run alone the body is not refused, and if it is not abandoned it ends as told. -/
def Serves (accepts : Constraints ν) (body : Tx ν β α) (rows : Store ν) (after : α → Store ν → Prop) : Prop :=
  match exec accepts body rows with
  | .done value later => after value later
  | .abandoned _ => True
  | .refused _ => False

variable {rows : Store ν}

theorem Serves.unrefused (serves : Serves accepts body rows after) (refusal : Refusal ν) :
    exec accepts body rows ≠ .refused refusal := by
  intro refused
  rw [Serves,refused] at serves
  exact serves

theorem Serves.weaken {wider : α → Store ν → Prop} (serves : Serves accepts body rows after)
    (weaker : ∀ value later, after value later → wider value later) : Serves accepts body rows wider := by
  rw [Serves] at *
  cases ended : exec accepts body rows with
  | done value later =>
    rw [ended] at serves
    exact weaker value later serves
  | abandoned answer => trivial
  | refused refusal =>
    rw [ended] at serves
    exact serves

theorem serves_done {value : α} (met : after value rows) : Serves accepts (.done value : Tx ν β α) rows after := met

theorem serves_abandon (answer : β) : Serves accepts (.abandon answer : Tx ν β α) rows after := trivial

theorem serves_bind {f : α → Tx ν β γ} {last : γ → Store ν → Prop} (middle : α → Store ν → Prop)
    (first : Serves accepts body rows middle) (next : ∀ value later, middle value later → Serves accepts (f value) later last) :
    Serves accepts (body.bind f) rows last := by
  rw [Serves,exec_bind]
  rw [Serves] at first
  cases ended : exec accepts body rows with
  | done value later =>
    rw [ended] at first
    exact next value later first
  | abandoned answer => trivial
  | refused refusal =>
    rw [ended] at first
    exact first

theorem serves_insertNew (key : κ) (row : ν key) {after : Unit → Store ν → Prop} (taken : accepts key none row = true)
    (absent : rows key = none) (met : after () (Function.update rows key (some row))) :
    Serves accepts (Tx.insertNew key row : Tx ν β _) rows after := by
  rw [Serves,(exec_insertNew_done accepts rows key row () _).mpr ⟨taken,absent,rfl⟩]
  exact met

theorem serves_updateWhere (key : κ) (matching : ν key → Bool) (change : ν key → ν key) {after : Bool → Store ν → Prop}
    (matched : ∀ row, rows key = some row → matching row = true → accepts key (some row) (change row) = true ∧
      after true (Function.update rows key (some (change row))))
    (missed : after false rows) : Serves accepts (Tx.updateWhere key matching change : Tx ν β _) rows after := by
  rw [Serves]
  cases found : (rows key).filter matching with
  | none =>
    rw [exec_updateWhere_none accepts rows key matching change found]
    exact missed
  | some row =>
    obtain ⟨stored,meets⟩ := Option.filter_eq_some_iff.mp found
    obtain ⟨taken,met⟩ := matched row stored meets
    rw [exec_updateWhere_match accepts rows key matching change row stored meets,if_pos taken]
    exact met

theorem serves_write {key : κ} {row : ν key} {next : Tx ν β α} (taken : accepts key (rows key) row = true)
    (rest : Serves accepts next (Function.update rows key (some row)) after) :
    Serves accepts (.write key row next) rows after := by
  rw [Serves,exec,if_pos taken]
  exact rest

end Serving

end Transaction
