import Mathlib.Data.List.Sort
import Ratatoskr.Operations.Lifecycle

/-! The writers that end an operation without its service: the stale-operation reaper and the two
failed forwards. Cancellation only leaves a mark. -/
namespace Ratatoskr.Operations

open Transaction

section Reaper

def staleErrorCode : ErrorCode := ⟨"platform.operation.stale",by decide⟩

def staleMessage : String :=
  "No updates were received for this operation, so it was marked failed. You can submit the request again."

def staleError : ErrorEnvelope := ⟨staleErrorCode,⟨staleMessage,by decide⟩,true⟩

theorem staleMessage_short : isShortSafe staleMessage = true := by decide

/-- The newest observed fact about an operation. -/
def liveness (record : OperationRecord) : Int :=
  max record.operation.statusChangedAt
    ((record.progress.map ProgressEntry.observedAt).max?.getD record.operation.statusChangedAt)

/-- The predicate of the candidate query, and again of the locked read. -/
def isStale (cutoff : Int) (record : OperationRecord) : Bool :=
  record.operation.terminatedAt.isNone &&
  (statusStr record.operation.status ∈ ["accepted","queued","running"]) &&
  liveness record < cutoff

/-- Terminates one operation, or finds it alive once it is locked; the answer of an abandoned
transaction is what the function returns. -/
def reconcileOne (operationId : OperationId) (cutoff : Int) (now : Timestamp) :
    Tx TableRow (Except OperationError Bool) Bool := do
  let some _ ← Tx.selectForUpdate (ν := TableRow) (.operation operationId) (isStale cutoff)
    | .abandon (.ok false)
  match ← recordStatus operationId .failed none none (some staleMessage) now with
  | .error error => .abandon (.error error)
  | .ok _ => do
    recordError operationId staleError now
    pure true

structure Report where
  reconciled : Nat
  skipped : Nat
deriving DecidableEq

/-- `order by status_changed_at, operation_id` -/
def olderFirst (a b : Int × OperationId) : Prop := a.1 < b.1 ∨ a.1 = b.1 ∧ a.2 ≤ b.2

instance : DecidableRel olderFirst := fun _ _ => inferInstanceAs (Decidable (_ ∨ _))

/-- The candidate query over the rows of the table, in whatever order it scans them. -/
def candidates (rows : Db) (table : List OperationId) (cutoff : Int) (batch : Nat) : List OperationId :=
  let stale := table.filterMap fun operationId =>
    ((rows (.operation operationId)).filter (isStale cutoff)).map fun record : OperationRecord =>
      (record.operation.statusChangedAt,operationId)
  ((stale.insertionSort olderFirst).take batch).map Prod.snd

/-- One transaction for each candidate; the first one that fails ends the pass. -/
def reconcileAll (cutoff : Int) (now : Timestamp) (report : Report) :
    List OperationId → Db → Db × Option Report
  | [],rows => (rows,some report)
  | operationId :: operationIds,rows =>
    match exec schema (reconcileOne operationId cutoff now) rows with
    | .done _ later => reconcileAll cutoff now { report with reconciled := report.reconciled + 1 } operationIds later
    | .abandoned (.ok _) =>
      reconcileAll cutoff now { report with skipped := report.skipped + 1 } operationIds rows
    | .abandoned (.error _) => (rows,none)
    | .refused _ => (rows,none)

/-- One pass over the operations with no observed fact newer than `staleAfter`. -/
def runOnce (table : List OperationId) (staleAfter : Int) (batch : Nat) (now : Timestamp) (rows : Db) :
    Db × Option Report :=
  let cutoff := toOffset (now - staleAfter)
  reconcileAll cutoff now ⟨0,0⟩ (candidates rows table cutoff batch) rows

end Reaper

/-- The shape of the two forwards: end the operation, and attach the error if that is what it was. -/
def failOperation (operationId : OperationId) (stage message : String)
    (error : Except OperationError ErrorEnvelope) (now : Timestamp) : Tx TableRow OperationError Unit := do
  match ← recordStatus operationId .failed (some stage) none (some message) now with
  | .error refusal => .abandon refusal
  | .ok (.advance _,_) =>
    match error with
    | .error violation => .abandon violation
    | .ok error => recordError operationId error now
  | .ok _ => pure ()

def deliveryFailed : ErrorEnvelope :=
  ⟨⟨"platform.ai_archive.delivery_failed",by decide⟩,⟨"Archive delivery to the importer failed.",by decide⟩,true⟩

/-- Ends an archive operation whose importer refused the delivery. -/
def failAiArchiveDelivery (operationId : OperationId) (now : Timestamp) : Tx TableRow OperationError Unit :=
  failOperation operationId "delivery" deliveryFailed.message.val (.ok deliveryFailed) now

/-- Ends a notes operation whose forward failed. -/
def failNotesForward (operationId : OperationId) (stage message : String) (code : ErrorCode)
    (retryable : Bool) (now : Timestamp) : Tx TableRow OperationError Unit :=
  failOperation operationId stage message
    (match Checked.parse isSafeMessage message with
      | some safe => .ok ⟨code,safe,retryable⟩
      | none => .error (.contractViolation "message"))
    now

/-- The two requests that are forwarded to the notes service. -/
inductive Forward where
  | connect | writeMode
deriving DecidableEq

def Forward.stage : Forward → String
  | connect => "connect"
  | writeMode => "write_mode"

def Forward.message : Forward → String
  | connect => "The connect did not complete."
  | writeMode => "The write-mode change did not complete."

inductive Cancellation where
  | requested (operation : Operation)
  | alreadyRequested (operation : Operation)
  | terminal (operation : Operation)
deriving DecidableEq

/-- Records that the owner asked for the work to stop. -/
def requestCancellation (operationId : OperationId) (ownerUserId : UserId) (now : Timestamp) :
    Tx TableRow OperationError Cancellation := do
  let some record ← Tx.selectForUpdate (ν := TableRow) (.operation operationId)
      (fun record : OperationRecord => record.operation.ownerUserId == ownerUserId)
    | .abandon .notFound
  let operation : Operation := OperationRecord.operation record
  if isTerminal operation.status then pure (.terminal operation)
  else if operation.cancellationRequestedAt.isSome then pure (.alreadyRequested operation)
  else do
    updateRecord operationId fun record =>
      { record with operation := { record.operation with cancellationRequestedAt := some (toOffset now) } }
    pure (.requested { operation with cancellationRequestedAt := some (toOffset now) })

/-- The changes that end an operation as failed with an error. -/
def failChanges (stage : Option String) (message : String) (error : ErrorEnvelope) (now : Timestamp) :
    List (OperationRecord → OperationRecord) :=
  advanceChanges .failed stage none (some message) now ++ errorChanges error now

theorem live_of_stale (cutoff : Int) (record : OperationRecord) (stale : isStale cutoff record = true) :
    isTerminal record.operation.status = false ∧ liveness record < cutoff := by
  simp only [isStale,Bool.and_eq_true,decide_eq_true_eq] at stale
  obtain ⟨⟨_,live⟩,old⟩ := stale
  refine ⟨?_,old⟩
  cases status : record.operation.status <;> rw [status] at live <;> revert live <;> decide

theorem apply_failed (status : OperationStatus) (live : isTerminal status = false) :
    apply status .failed = .advance .failed := by
  cases status <;> revert live <;> decide

section Exec

variable (rows : Db) (operationId : OperationId) (now : Timestamp)

/-- The reaper passes over what is not there or not stale. -/
theorem exec_reconcileOne_skip (cutoff : Int)
    (alive : (rows (.operation operationId)).filter (isStale cutoff) = none) :
    exec schema (reconcileOne operationId cutoff now) rows = .abandoned (.ok false) := by
  simp only [reconcileOne,Tx.bind_eq,exec_bind,exec_selectForUpdate,alive,Outcome.done_bind]
  rfl

theorem exec_fail_absent (absent : rows (.operation operationId) = none) (stage message : String)
    (error : Except OperationError ErrorEnvelope) :
    exec schema (failOperation operationId stage message error now) rows = .abandoned .notFound := by
  simp only [failOperation,Tx.bind_eq,exec_bind,exec_recordStatus_absent rows operationId absent,
    Outcome.done_bind]
  rfl

variable (record : OperationRecord) (found : rows (.operation operationId) = some record)

include found

theorem exec_reconcileOne (cutoff : Int) (stale : isStale cutoff record = true) :
    exec schema (reconcileOne operationId cutoff now) rows =
      match applyChanges record (failChanges none staleMessage staleError now) with
      | .ok final => .done true (Function.update rows (.operation operationId) (some final))
      | .error (stored,offered) => .refused ⟨.operation operationId,some stored,offered⟩ := by
  have matched : (some record).filter (isStale cutoff) = some record := by simp [stale]
  have advances := apply_failed record.operation.status (live_of_stale cutoff record stale).1
  simp only [reconcileOne,Tx.bind_eq,exec_bind,exec_selectForUpdate,found,matched,Outcome.done_bind,
    exec_recordStatus rows operationId record found,advances,failChanges,recordError_eq]
  rw [applyChanges_append]
  cases applyChanges record (advanceChanges .failed none none (some staleMessage) now) with
  | error refused => rfl
  | ok middle =>
    simp only [Outcome.done_bind,exec_bind,
      exec_updateRecords _ operationId middle (Function.update_self _ _ _),Function.update_idem]
    cases applyChanges middle (errorChanges staleError now) <;> rfl

theorem exec_failOperation (stage message : String) (error : ErrorEnvelope) :
    exec schema (failOperation operationId stage message (.ok error) now) rows =
      match apply record.operation.status .failed with
      | .advance _ =>
        match applyChanges record (failChanges (some stage) message error now) with
        | .ok final => .done () (Function.update rows (.operation operationId) (some final))
        | .error (stored,offered) => .refused ⟨.operation operationId,some stored,offered⟩
      | .conflict => .abandoned (.conflictingOutcome (statusStr record.operation.status) (statusStr .failed))
      | _ => .done () rows := by
  simp only [failOperation,Tx.bind_eq,exec_bind,exec_recordStatus rows operationId record found,failChanges,
    recordError_eq]
  cases verdict : apply record.operation.status .failed with
  | conflict => rfl
  | duplicate => rfl
  | stale => rfl
  | advance status =>
    obtain ⟨rfl,_⟩ := (apply_advance_iff _ _ _).mp verdict
    dsimp only
    rw [applyChanges_append]
    cases applyChanges record (advanceChanges .failed (some stage) none (some message) now) with
    | error refused => rfl
    | ok middle =>
      rw [Outcome.done_bind,exec_updateRecords _ operationId middle (Function.update_self _ _ _)]
      dsimp only
      cases applyChanges middle (errorChanges error now) with
      | error refused => rfl
      | ok final => simp only [Function.update_idem]

end Exec

end Ratatoskr.Operations
