import Ratatoskr.Eventing.Inbox
import Ratatoskr.Operations.Lifecycle

/-! Applying an inbound progress report to the operation it names. -/
namespace Ratatoskr.Operations

open Transaction Eventing

/-- The contract's `OperationReported`. -/
structure OperationReported where
  operationId : OperationId
  status : OperationStatus
  stage : Option OperationStage
  progressPercent : Option ProgressPercent
  results : List OperationResultRef
  error : Option ErrorEnvelope
  warnings : List WarningEnvelope

/-- A failure carries an error, a success none, a partial success a warning or an error. -/
def OperationReported.validate (report : OperationReported) : Bool :=
  match report.status with
  | .failed => report.error.isSome
  | .succeeded => report.error.isNone
  | .partiallySucceeded => !report.warnings.isEmpty || report.error.isSome
  | _ => true

/-- What the payload of a message parses to: the envelope's tenant text, and the report unless the
body is not one. -/
structure Envelope where
  tenantId : Option String
  payload : Option OperationReported

def ProgressReport.read (envelope : Envelope) : Option OperationReported :=
  envelope.payload.filter OperationReported.validate

variable {ε : Type}

def findAiArchiveAcceptance (operationId : OperationId) : Tx TableRow ε (Option AiArchiveAcceptance) :=
  Tx.select (ν := TableRow) (.archiveAcceptance operationId)

/-- The subject and producer of a provider's own reports. -/
def providerLane (provider : String) : Option (String × String) :=
  if provider = "chatgpt" then
    some ("evt.ai-archive.chatgpt.operation.reported.v1","ratatoskr-chatgpt")
  else if provider = "claude" then
    some ("evt.ai-archive.claude.operation.reported.v1","ratatoskr-claude")
  else none

/-- The acceptance counts as a binding only when it names the operation's owner. -/
def binding (operation : Operation) (acceptance : Option AiArchiveAcceptance) : Option AiArchiveAcceptance :=
  acceptance.filter fun binding => binding.ownerUserId == operation.ownerUserId

/-- The checks of `bound_to_its_operation` on what it read. -/
def isBound (message : Incoming Envelope) (operation : Operation)
    (acceptance : Option AiArchiveAcceptance) : Bool :=
  let binding := binding operation acceptance
  authorize operation.kind message.producer message.payload.tenantId operation.ownerUserId operation.reporter
      binding.isSome &&
    match binding with
    | some binding =>
      match providerLane binding.provider with
      | some (subject,producer) => message.subject == subject && message.producer == producer
      | none => false
    | none => !"evt.ai-archive.".toList.isPrefixOf message.subject.toList

def boundToItsOperation (message : Incoming Envelope) (operationId : OperationId) : Tx TableRow ε Bool := do
  let some operation ← find operationId | pure false
  let acceptance ← findAiArchiveAcceptance operationId
  pure (isBound message operation acceptance)

/-- The results, the error and the warnings of a report, in the order they are written. -/
def attach (report : OperationReported) (now : Timestamp) : Tx TableRow ε Unit := do
  forM report.results fun result => recordResult report.operationId result now
  forM report.error fun error => recordError report.operationId error now
  forM report.warnings fun warning => recordWarning report.operationId warning now

/-- The part of `handle` after its checks: the attachments are written whatever the status came to,
short of a conflict. -/
def project (report : OperationReported) (now : Timestamp) : Tx TableRow ε Outcome := do
  match ← recordStatus report.operationId report.status (report.stage.map Subtype.val)
      (report.progressPercent.map ProgressPercent.value) none now with
  | .error _ => pure .rejected
  | .ok (transition,_) => do
    attach report now
    pure (match transition with
      | .advance _ => .applied
      | .duplicate => .duplicate
      | .stale => .stale
      | .conflict => .rejected)

/-- `ProgressProjection::handle` -/
def handle : Handler TableRow Envelope ε := fun message now => do
  let some report := ProgressReport.read message.payload | pure .rejected
  if !(← boundToItsOperation message report.operationId) then return .rejected
  project report now

/-- The changes the attachments of a report make, statement by statement. -/
def attachments (report : OperationReported) (now : Timestamp) : List (OperationRecord → OperationRecord) :=
  (report.results.map fun result record => record.withResult result now) ++
  ((report.error.toList.flatMap fun error => errorChanges error now) ++
  report.warnings.map fun warning record => record.withDiagnostic (.warning warning) now)

theorem forM_updateRecord (operationId : OperationId) (items : List α) (body : α → Tx TableRow ε Unit)
    (change : α → OperationRecord → OperationRecord)
    (one : ∀ item, body item = updateRecord operationId (change item)) :
    forM items body = updateRecords operationId (items.map change) := by
  induction items with
  | nil => rfl
  | cons item items ih =>
    rw [List.forM_cons,ih,one]
    rfl

theorem attach_eq (report : OperationReported) (now : Timestamp) :
    (attach report now : Tx TableRow ε Unit) = updateRecords report.operationId (attachments report now) := by
  have results := forM_updateRecord (ε := ε) report.operationId report.results
    (fun result => recordResult report.operationId result now)
    (fun result record => record.withResult result now) fun _ => rfl
  have warnings := forM_updateRecord (ε := ε) report.operationId report.warnings
    (fun warning => recordWarning report.operationId warning now)
    (fun warning record => record.withDiagnostic (.warning warning) now) fun _ => rfl
  have errors : (forM report.error fun error => (recordError report.operationId error now : Tx TableRow ε Unit)) =
      updateRecords report.operationId (report.error.toList.flatMap fun error => errorChanges error now) := by
    cases report.error with
    | none => rfl
    | some error => exact recordError_eq report.operationId error now
  rw [attachments,updateRecords_append,updateRecords_append,attach,results,errors,warnings]
  rfl

/-- What `handle` makes of a report bound to the stored operation: its outcome and the record it
leaves, or the stored and the refused record of a statement. -/
def handled (record : OperationRecord) (report : OperationReported) (now : Timestamp) :
    Except (OperationRecord × OperationRecord) (Outcome × OperationRecord) :=
  match apply record.operation.status report.status with
  | .conflict => .ok (.rejected,record)
  | .duplicate => (applyChanges record (attachments report now)).map fun final => (.duplicate,final)
  | .stale => (applyChanges record (attachments report now)).map fun final => (.stale,final)
  | .advance status =>
    (applyChanges record (advanceChanges status (report.stage.map Subtype.val)
      (report.progressPercent.map ProgressPercent.value) none now ++ attachments report now)).map
        fun final => (.applied,final)

section Exec

variable (rows : Db) (message : Incoming Envelope) (now : Timestamp)

theorem exec_handle_unread (unread : ProgressReport.read message.payload = none) :
    exec schema (handle message now : Tx TableRow ε _) rows = .done .rejected rows := by
  simp only [handle,unread]
  rfl

/-- Whether the message may be applied to the operation it names, as the rows stand. -/
def boundAt (operationId : OperationId) : Bool :=
  match rows (.operation operationId) with
  | some record => isBound message record.operation (rows (.archiveAcceptance operationId))
  | none => false

theorem exec_boundToItsOperation (operationId : OperationId) :
    exec schema (boundToItsOperation message operationId : Tx TableRow ε _) rows =
      .done (boundAt rows message operationId) rows := by
  simp only [boundToItsOperation,boundAt,Tx.bind_eq,exec_bind,exec_find,Outcome.done_bind]
  cases rows (.operation operationId) <;> rfl

variable (report : OperationReported) (read : ProgressReport.read message.payload = some report)

include read

/-- A report that is not bound to a stored operation is rejected, and nothing is written. -/
theorem exec_handle_unbound (unbound : boundAt rows message report.operationId = false) :
    exec schema (handle message now : Tx TableRow ε _) rows = .done .rejected rows := by
  simp only [handle,read,Tx.bind_eq,exec_bind,exec_boundToItsOperation,unbound,Outcome.done_bind]
  rfl

theorem exec_handle_bound (bound : boundAt rows message report.operationId = true) :
    exec schema (handle message now : Tx TableRow ε _) rows = exec schema (project report now) rows := by
  simp only [handle,read,Tx.bind_eq,exec_bind,exec_boundToItsOperation,bound,Outcome.done_bind]
  rfl

omit read

theorem exec_project_absent (absent : rows (.operation report.operationId) = none) :
    exec schema (project report now : Tx TableRow ε _) rows = .done .rejected rows := by
  simp only [project,Tx.bind_eq,exec_bind,exec_recordStatus_absent rows report.operationId absent,
    Outcome.done_bind]
  rfl

variable (record : OperationRecord) (found : rows (.operation report.operationId) = some record)

include found

theorem exec_project :
    exec schema (project report now : Tx TableRow ε _) rows =
      match handled record report now with
      | .ok (outcome,final) =>
        .done outcome (Function.update rows (.operation report.operationId) (some final))
      | .error (stored,offered) => .refused ⟨.operation report.operationId,some stored,offered⟩ := by
  have kept : Function.update rows (.operation report.operationId) (some record) = rows := by
    rw [← found,Function.update_eq_self]
  simp only [project,Tx.bind_eq,exec_bind,exec_recordStatus rows report.operationId record found,handled,attach_eq]
  cases apply record.operation.status report.status with
  | conflict =>
    dsimp only
    rw [kept]
    rfl
  | duplicate =>
    simp only [Outcome.done_bind,exec_bind,exec_updateRecords rows report.operationId record found]
    cases applyChanges record (attachments report now) <;> rfl
  | stale =>
    simp only [Outcome.done_bind,exec_bind,exec_updateRecords rows report.operationId record found]
    cases applyChanges record (attachments report now) <;> rfl
  | advance status =>
    dsimp only
    rw [applyChanges_append]
    cases applyChanges record (advanceChanges status (report.stage.map Subtype.val)
        (report.progressPercent.map ProgressPercent.value) none now) with
    | error refused => rfl
    | ok middle =>
      simp only [Outcome.done_bind,exec_bind,
        exec_updateRecords _ report.operationId middle (Function.update_self _ _ _),Function.update_idem]
      cases applyChanges middle (attachments report now) <;> rfl

end Exec

end Ratatoskr.Operations
