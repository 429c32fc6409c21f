import Ratatoskr.Operations.Authority
import Ratatoskr.Schema

/-! The statements that write one operation, and what each does to its record. -/
namespace Ratatoskr.Operations

open Transaction

inductive OperationError where
  | conflictingOutcome (current incoming : String)
  | notFound
  | reporterNotAllowed (kind reporter : String)
  | contractViolation (what : String)
deriving DecidableEq

section Statements

variable {β : Type}

def updateRecord (operationId : OperationId) (change : OperationRecord → OperationRecord) :
    Tx TableRow β Unit := do
  let _ ← Tx.updateWhere (ν := TableRow) (.operation operationId) (fun _ => true) change

/-- The row of a new operation. -/
def newOperation (ownerUserId : UserId) (kind correlationId : String)
    (idempotencyKey reporter : Option String) (now : Timestamp) : Operation where
  ownerUserId
  kind
  status := .accepted
  stage := none
  progressPercent := none
  correlationId
  idempotencyKey
  reporter
  retryable := false
  cancellationRequestedAt := none
  acceptedAt := toOffset now
  statusChangedAt := toOffset now
  terminatedAt := none

def newRecord (operation : Operation) : OperationRecord := ⟨operation,[],[],[]⟩

/-- Accepts an operation under an id nobody has used. -/
def accept (operationId : OperationId) (ownerUserId : UserId) (kind correlationId : String)
    (idempotencyKey reporter : Option String) (now : Timestamp) :
    Tx TableRow β (Except OperationError Operation) :=
  if reporter.any fun reporter => !allows kind reporter then
    pure (.error (.reporterNotAllowed kind (reporter.getD "")))
  else do
    let operation := newOperation ownerUserId kind correlationId idempotencyKey reporter now
    Tx.insertNew (ν := TableRow) (.operation operationId) (newRecord operation)
    if let some key := idempotencyKey then
      Tx.insertNew (ν := TableRow) (.operationKey ownerUserId kind key) operationId
    pure (.ok operation)

def recordAiArchiveAcceptance (operationId : OperationId) (acceptance : AiArchiveAcceptance) :
    Tx TableRow β Unit :=
  Tx.insertNew (ν := TableRow) (.archiveAcceptance operationId) acceptance

def find (operationId : OperationId) : Tx TableRow β (Option Operation) := do
  let row ← Tx.select (ν := TableRow) (.operation operationId)
  pure (row.map fun record : OperationRecord => record.operation)

/-- The update of an advance: an absent stage or percentage keeps the stored one. -/
def statusUpdate (status : OperationStatus) (stage : Option String) (progressPercent : Option Nat)
    (now : Timestamp) (row : Operation) : Operation :=
  { row with
    status
    stage := stage <|> row.stage
    progressPercent := progressPercent <|> row.progressPercent
    statusChangedAt := toOffset now
    terminatedAt := if isTerminal status then some (toOffset now) else none }

def progressEntry (status : OperationStatus) (stage : Option String) (progressPercent : Option Nat)
    (message : Option String) (now : Timestamp) : ProgressEntry :=
  ⟨toOffset now,status,stage,progressPercent,message⟩

/-- The record after the update of an advance. -/
def OperationRecord.withStatus (record : OperationRecord) (status : OperationStatus)
    (stage : Option String) (progressPercent : Option Nat) (now : Timestamp) : OperationRecord :=
  { record with operation := statusUpdate status stage progressPercent now record.operation }

def OperationRecord.withProgress (record : OperationRecord) (entry : ProgressEntry) : OperationRecord :=
  { record with progress := record.progress ++ [entry] }

/-- Applies an incoming status; the row stays locked until the transaction ends. -/
def recordStatus (operationId : OperationId) (incoming : OperationStatus) (stage : Option String)
    (progressPercent : Option Nat) (message : Option String) (now : Timestamp) :
    Tx TableRow β (Except OperationError (Transition × Operation)) := do
  let some _ ← Tx.selectForUpdate (ν := TableRow) (.operation operationId) (fun _ => true)
    | pure (.error .notFound)
  let some current ← find operationId | pure (.error .notFound)
  match apply current.status incoming with
  | .duplicate => pure (.ok (.duplicate,current))
  | .stale => pure (.ok (.stale,current))
  | .conflict => pure (.error (.conflictingOutcome (statusStr current.status) (statusStr incoming)))
  | .advance status => do
    updateRecord operationId fun record => record.withStatus status stage progressPercent now
    updateRecord operationId fun record =>
      record.withProgress (progressEntry status stage progressPercent message now)
    let some updated ← find operationId | pure (.error .notFound)
    pure (.ok (.advance status,updated))

def OperationRecord.withResult (record : OperationRecord) (result : OperationResultRef)
    (now : Timestamp) : OperationRecord :=
  { record with results := record.results ++ [⟨result.resultKind.val,result.target.val,result,toOffset now⟩] }

def recordResult (operationId : OperationId) (result : OperationResultRef) (now : Timestamp) :
    Tx TableRow β Unit :=
  updateRecord operationId fun record => record.withResult result now

/-- The columns are lifted out of the payload; a warning has no `retryable`. -/
def diagnostic (payload : Payload) (now : Timestamp) : Diagnostic :=
  match payload with
  | .error envelope => ⟨envelope.code.val,envelope.message.val,envelope.retryable,payload,toOffset now⟩
  | .warning envelope => ⟨envelope.code.val,envelope.message.val,false,payload,toOffset now⟩

def OperationRecord.withDiagnostic (record : OperationRecord) (payload : Payload)
    (now : Timestamp) : OperationRecord :=
  { record with diagnostics := record.diagnostics ++ [diagnostic payload now] }

def OperationRecord.withRetryable (record : OperationRecord) (retryable : Bool) : OperationRecord :=
  { record with operation := { record.operation with retryable } }

def insertDiagnostic (operationId : OperationId) (payload : Payload) (now : Timestamp) : Tx TableRow β Unit :=
  updateRecord operationId fun record => record.withDiagnostic payload now

/-- Attaches an error and makes the operation as retryable as the error is. -/
def recordError (operationId : OperationId) (error : ErrorEnvelope) (now : Timestamp) :
    Tx TableRow β Unit := do
  updateRecord operationId fun record => record.withRetryable error.retryable
  insertDiagnostic operationId (.error error) now

def recordWarning (operationId : OperationId) (warning : WarningEnvelope) (now : Timestamp) :
    Tx TableRow β Unit :=
  insertDiagnostic operationId (.warning warning) now

end Statements

/-- The changes an advance makes, statement by statement. -/
def advanceChanges (status : OperationStatus) (stage : Option String) (progressPercent : Option Nat)
    (message : Option String) (now : Timestamp) : List (OperationRecord → OperationRecord) :=
  [fun record => record.withStatus status stage progressPercent now,
    fun record => record.withProgress (progressEntry status stage progressPercent message now)]

/-- The changes of `recordError`. -/
def errorChanges (error : ErrorEnvelope) (now : Timestamp) : List (OperationRecord → OperationRecord) :=
  [fun record => record.withRetryable error.retryable,fun record => record.withDiagnostic (.error error) now]

/-- Makes the changes one after the other; an error is the stored record and the one that a
constraint refused to put in its place. -/
def applyChanges (record : OperationRecord) :
    List (OperationRecord → OperationRecord) → Except (OperationRecord × OperationRecord) OperationRecord
  | [] => .ok record
  | change :: changes =>
    if OperationRecord.admits (some record) (change record) then applyChanges (change record) changes
    else .error (record,change record)

theorem applyChanges_ok (record final : OperationRecord) (changes : List (OperationRecord → OperationRecord))
    (applied : applyChanges record changes = .ok final) :
    final = changes.foldl (fun record change => change record) record := by
  induction changes generalizing record with
  | nil => exact (Except.ok.inj applied).symm
  | cons change changes ih =>
    simp only [applyChanges] at applied
    split at applied
    · exact ih _ applied
    · cases applied

theorem applyChanges_append (record : OperationRecord) (first second : List (OperationRecord → OperationRecord)) :
    applyChanges record (first ++ second) =
      match applyChanges record first with
      | .ok middle => applyChanges middle second
      | .error refused => .error refused := by
  induction first generalizing record with
  | nil => rfl
  | cons change changes ih =>
    simp only [List.cons_append,applyChanges]
    split
    · exact ih _
    · rfl

section Exec

variable {β : Type}

def updateRecords (operationId : OperationId) : List (OperationRecord → OperationRecord) → Tx TableRow β Unit
  | [] => .done ()
  | change :: changes => (updateRecord operationId change).bind fun _ => updateRecords operationId changes

theorem updateRecords_append (operationId : OperationId)
    (first second : List (OperationRecord → OperationRecord)) :
    (updateRecords operationId (first ++ second) : Tx TableRow β Unit) =
      (updateRecords operationId first).bind fun _ => updateRecords operationId second := by
  induction first with
  | nil => rfl
  | cons change changes ih =>
    simp only [List.cons_append,updateRecords,ih]
    exact (Tx.bind_assoc _ _ _).symm

theorem recordError_eq (operationId : OperationId) (error : ErrorEnvelope) (now : Timestamp) :
    (recordError operationId error now : Tx TableRow β Unit) =
      updateRecords operationId (errorChanges error now) := by
  refine congrArg (Tx.bind (updateRecord operationId _)) (funext fun _ => ?_)
  exact (Tx.bind_done _).symm

variable (rows : Db) (operationId : OperationId)

@[simp] theorem exec_find :
    exec schema (find operationId : Tx TableRow β _) rows =
      .done ((rows (.operation operationId)).map OperationRecord.operation) rows := rfl

theorem exec_recordStatus_absent (absent : rows (.operation operationId) = none) (incoming : OperationStatus)
    (stage : Option String) (progressPercent : Option Nat) (message : Option String) (now : Timestamp) :
    exec schema (recordStatus operationId incoming stage progressPercent message now : Tx TableRow β _) rows =
      .done (.error .notFound) rows := by
  have unmatched : (none : Option OperationRecord).filter (fun _ => true) = none := rfl
  simp only [recordStatus,Tx.bind_eq,exec_bind,exec_selectForUpdate,absent,unmatched,Outcome.done_bind]
  rfl

variable (record : OperationRecord) (found : rows (.operation operationId) = some record)

include found

theorem exec_updateRecord (change : OperationRecord → OperationRecord) :
    exec schema (updateRecord operationId change : Tx TableRow β Unit) rows =
      if OperationRecord.admits (some record) (change record) then
        .done () (Function.update rows (.operation operationId) (some (change record)))
      else .refused ⟨.operation operationId,some record,change record⟩ := by
  rw [updateRecord,Tx.bind_eq,exec_bind,exec_updateWhere_match _ _ _ _ _ record found rfl]
  split
  · rename_i admitted
    exact (if_pos admitted).symm
  · rename_i refused
    exact (if_neg refused).symm

theorem exec_updateRecords (changes : List (OperationRecord → OperationRecord)) :
    exec schema (updateRecords operationId changes : Tx TableRow β Unit) rows =
      match applyChanges record changes with
      | .ok final => .done () (Function.update rows (.operation operationId) (some final))
      | .error (stored,offered) => .refused ⟨.operation operationId,some stored,offered⟩ := by
  induction changes generalizing rows record with
  | nil =>
    simp only [updateRecords,applyChanges,exec_done]
    rw [← found,Function.update_eq_self]
  | cons change changes ih =>
    rw [updateRecords,exec_bind,exec_updateRecord rows operationId record found,applyChanges]
    split
    · rw [Outcome.done_bind,ih _ (change record) (Function.update_self _ _ _)]
      simp only [Function.update_idem]
    · rfl

/-- The outcome of an incoming status is the transition table's, or a constraint refuses one of
the two statements of an advance. -/
theorem exec_recordStatus (incoming : OperationStatus) (stage : Option String)
    (progressPercent : Option Nat) (message : Option String) (now : Timestamp) :
    exec schema (recordStatus operationId incoming stage progressPercent message now : Tx TableRow β _) rows =
      match apply record.operation.status incoming with
      | .duplicate => .done (.ok (.duplicate,record.operation)) rows
      | .stale => .done (.ok (.stale,record.operation)) rows
      | .conflict =>
        .done (.error (.conflictingOutcome (statusStr record.operation.status) (statusStr incoming))) rows
      | .advance status =>
        match applyChanges record (advanceChanges status stage progressPercent message now) with
        | .ok final => .done (.ok (.advance status,final.operation))
            (Function.update rows (.operation operationId) (some final))
        | .error (stored,offered) => .refused ⟨.operation operationId,some stored,offered⟩ := by
  have matched : (some record).filter (fun _ => true) = some record := rfl
  simp only [recordStatus,Tx.bind_eq,exec_bind,exec_selectForUpdate,found,matched,Outcome.done_bind,exec_find,
    Option.map_some]
  cases apply record.operation.status incoming with
  | duplicate => rfl
  | stale => rfl
  | conflict => rfl
  | advance status =>
    have body (rest : Tx TableRow β (Except OperationError (Transition × Operation))) :
        ((updateRecord operationId fun record => record.withStatus status stage progressPercent now).bind
          fun _ => (updateRecord operationId fun record =>
            record.withProgress (progressEntry status stage progressPercent message now)).bind fun _ => rest) =
          (updateRecords operationId (advanceChanges status stage progressPercent message now)).bind
            fun _ => rest := by
      simp only [advanceChanges,updateRecords,Tx.bind_assoc]
      rfl
    refine (congrArg (exec schema · rows) (body _)).trans ?_
    rw [exec_bind,exec_updateRecords rows operationId record found]
    dsimp only
    cases applyChanges record (advanceChanges status stage progressPercent message now) with
    | ok final =>
      simp only [Outcome.done_bind,exec_bind,exec_find,Function.update_self]
      rfl
    | error refused => rfl

end Exec

end Ratatoskr.Operations
