import Ratatoskr.Operations.Interleaving

/-! The operations as a machine: one writer after the other, and passes of the reaper. -/
namespace Ratatoskr.Operations

open Transaction

inductive Action where
  | write (writer : Writer)
  /-- The rows of the table are scanned in the order given. -/
  | pass (table : List OperationId) (staleAfter : Int) (batch : Nat) (now : Timestamp)

def Action.now : Action → Timestamp
  | .write writer => writer.now
  | .pass _ _ _ now => now

def step (rows : Db) : Action → Db
  | .write writer => (exec schema writer.program rows).publish rows
  | .pass table staleAfter batch now => (runOnce table staleAfter batch now rows).1

/-- Every action is enabled: one that fails changes nothing. -/
def serve (rows : Db) (action : Action) : Option Db := some (step rows action)

def noRows : Db := fun _ => none

def Reachable (rows : Db) : Prop := ∃ actions, StateMachine.run serve noRows actions = some rows

/-- The clock does not go back, and starts no earlier than `now`. -/
def Clocked (now : Timestamp) (actions : List Action) : Prop :=
  (actions.map Action.now).Pairwise (· ≤ ·) ∧ ∀ action ∈ actions, now ≤ action.now

/-- No status changed after this instant. -/
def Past (now : Timestamp) (rows : Db) : Prop := ∀ operationId record, rows (.operation operationId) = some record →
  record.operation.statusChangedAt ≤ toOffset now

theorem noRows_valid : Valid noRows := fun _ _ found => nomatch found

theorem noRows_past (now : Timestamp) : Past now noRows := fun _ _ found => nomatch found

theorem Past.moves {now : Timestamp} {rows later : Db} (past : Past now rows) (next : Timestamp) (later_ : now ≤ next)
    (moves : Moves next rows later) : Past next later := by
  intro operationId new found
  rcases moves.dated operationId new found with ⟨old,stored,same⟩ | same
  · exact same ▸ (past operationId old stored).trans (to_offset_mono later_)
  · exact same.le

theorem Moves.trans {now : Timestamp} {a b c : Db} (first : Moves now a b) (second : Moves now b c) :
    Moves now a c := by
  refine ⟨second.valid,first.grows.trans second.grows,fun operationId new found => ?_⟩
  rcases second.dated operationId new found with ⟨middle,stored,same⟩ | same
  · rw [same]
    exact first.dated operationId middle stored
  · exact Or.inr same

/-- A writer alone is one schedule of the interleavings. -/
theorem writer_kept (writer : Writer) (rows : Db) (valid : Valid rows) :
    Kept writer.now writer.call rows (exec schema writer.program rows) := by
  have alone := Protocol.Safe.alone valid (writers_keep (fun _ : Unit => writer) () rows valid)
  rw [overlay_none] at alone
  revert alone
  cases exec schema writer.program rows with
  | done value later =>
    rintro ⟨drafts,rfl,moves⟩
    exact moves
  | abandoned => exact fun _ => trivial
  | refused => exact id

theorem Kept.moves {now : Timestamp} {call : Option StatusCall} {rows : Db}
    {outcome : Transaction.Outcome TableRow β α} (kept : Kept now call rows outcome) (valid : Valid rows) :
    Moves now rows (outcome.publish rows) := by
  cases outcome with
  | done => exact kept
  | abandoned | refused => exact Moves.refl valid now

theorem reconcileAll_moves (cutoff : Int) (now : Timestamp) (operationIds : List OperationId) (report : Report)
    (rows : Db) (valid : Valid rows) : Moves now rows (reconcileAll cutoff now report operationIds rows).1 := by
  induction operationIds generalizing rows report with
  | nil => exact Moves.refl valid now
  | cons operationId operationIds ih =>
    have kept := writer_kept (.reconcile operationId cutoff now) rows valid
    simp only [Writer.program,exec_adapt] at kept
    simp only [reconcileAll]
    cases outcome : exec schema (reconcileOne operationId cutoff now) rows with
    | done value later =>
      rw [outcome] at kept
      have moves : Moves now rows later := kept
      exact moves.trans (ih _ later moves.valid)
    | abandoned answer =>
      cases answer with
      | ok => exact ih _ rows valid
      | error => exact Moves.refl valid now
    | refused => exact Moves.refl valid now

theorem step_moves (rows : Db) (action : Action) (valid : Valid rows) : Moves action.now rows (step rows action) := by
  cases action with
  | write writer => exact (writer_kept writer rows valid).moves valid
  | pass table staleAfter batch now => exact reconcileAll_moves _ now _ _ rows valid

theorem serve_valid (rows : Db) (action : Action) (next : Db) (valid : Valid rows)
    (served : serve rows action = some next) : Valid next := by
  obtain rfl := Option.some.inj served
  exact (step_moves rows action valid).valid

theorem run_valid (rows : Db) (actions : List Action) (later : Db) (valid : Valid rows)
    (ran : StateMachine.run serve rows actions = some later) : Valid later :=
  StateMachine.run_invariant serve Valid serve_valid rows actions later valid ran

theorem Reachable.valid {rows : Db} (reached : Reachable rows) : Valid rows := by
  obtain ⟨actions,ran⟩ := reached
  exact run_valid noRows actions rows noRows_valid ran

theorem run_grows (rows : Db) (actions : List Action) (later : Db) (valid : Valid rows)
    (ran : StateMachine.run serve rows actions = some later) : Grows rows later := by
  refine StateMachine.run_relation serve Valid Grows Grows.refl (fun _ _ _ => Grows.trans) serve_valid ?_
    rows actions later valid ran
  rintro before action _ valid ⟨⟩
  exact (step_moves before action valid).grows

/-- Along a clock that does not go back, no status change lies ahead of it. -/
theorem run_past (start now : Timestamp) (rows : Db) (actions : List Action) (later : Db) (valid : Valid rows)
    (past : Past start rows) (clocked : Clocked start actions) (ended : ∀ action ∈ actions, action.now ≤ now)
    (begun : start ≤ now) (ran : StateMachine.run serve rows actions = some later) : Past now later := by
  induction actions generalizing rows start with
  | nil =>
    obtain rfl := Option.some.inj ran
    exact fun id record found => (past id record found).trans (to_offset_mono begun)
  | cons action actions ih =>
    obtain ⟨next,served,rest⟩ := (StateMachine.run_cons_eq_some _ _ _ _ _).mp ran
    obtain rfl := Option.some.inj served
    obtain ⟨ordered,above⟩ := clocked
    obtain ⟨first,ordered⟩ := List.pairwise_cons.mp ordered
    have moves := step_moves rows action valid
    refine ih action.now (step rows action) moves.valid
      (past.moves action.now (above action List.mem_cons_self) moves) ⟨ordered,fun other member => ?_⟩
      (fun other member => ended other (List.mem_cons_of_mem _ member)) (ended action List.mem_cons_self) rest
    exact first _ (List.mem_map_of_mem member)

end Ratatoskr.Operations
