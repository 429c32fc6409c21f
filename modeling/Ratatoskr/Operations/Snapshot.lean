import Ratatoskr.Operations.SignsOfLife

/-! The snapshot served for an operation, assembled from its rows. -/
namespace Ratatoskr.Operations

open Transaction

/-- The contract's `OperationSnapshot`. -/
structure OperationSnapshot where
  operationId : OperationId
  kind : OperationKind
  status : OperationStatus
  stage : Option OperationStage
  progressPercent : Option ProgressPercent
  results : List OperationResultRef
  errors : List ErrorEnvelope
  warnings : List WarningEnvelope
  retryable : Bool
  correlationId : EntityRef
  tenantId : UserId
  acceptedAt : Int
  statusChangedAt : Int
  terminatedAt : Option Int

/-- The cross-field rules of the snapshot contract. -/
def OperationSnapshot.validate (snapshot : OperationSnapshot) : Bool :=
  (match snapshot.status with
    | .failed => !snapshot.errors.isEmpty
    | .succeeded => snapshot.errors.isEmpty
    | .partiallySucceeded => !snapshot.warnings.isEmpty || !snapshot.errors.isEmpty
    | _ => true) &&
  (isTerminal snapshot.status == snapshot.terminatedAt.isSome)

def ProgressPercent.ofNat (value : Nat) : Option ProgressPercent :=
  if bounded : value ≤ 100 then some ⟨value,bounded⟩ else none

def Payload.toError : Payload → Option ErrorEnvelope
  | .error envelope => some envelope
  | .warning _ => none

def Payload.toWarning : Payload → Option WarningEnvelope
  | .error _ => none
  | .warning envelope => some envelope

section Rows

variable {β : Type}

/-- `order by recorded_at, result_id` -/
def resultPayloads (operationId : OperationId) : Tx TableRow β (List OperationResultRef) := do
  let row ← Tx.select (ν := TableRow) (.operation operationId)
  let rows := (row.map fun record : OperationRecord => record.results).getD []
  pure ((rows.insertionSort fun a b => a.recordedAt ≤ b.recordedAt).map OperationResult.payload)

/-- `order by recorded_at, error_id` -/
def loadDiagnostics (operationId : OperationId) : Tx TableRow β (List ErrorEnvelope × List WarningEnvelope) := do
  let row ← Tx.select (ν := TableRow) (.operation operationId)
  let rows := (row.map fun record : OperationRecord => record.diagnostics).getD []
  let payloads := (rows.insertionSort fun a b => a.recordedAt ≤ b.recordedAt).map Diagnostic.payload
  pure (payloads.filterMap Payload.toError,payloads.filterMap Payload.toWarning)

end Rows

def parsed (what : String) : Option α → Except OperationError α
  | some value => .ok value
  | none => .error (.contractViolation what)

/-- `transpose`: what is absent needs no parsing. -/
def parsedOptional (what : String) (parse : α → Option β) : Option α → Except OperationError (Option β)
  | some raw => (parsed what (parse raw)).map some
  | none => .ok none

/-- The part of `snapshot` after its reads. -/
def assemble (operationId : OperationId) (operation : Operation) (results : List OperationResultRef)
    (errors : List ErrorEnvelope) (warnings : List WarningEnvelope) : Except OperationError OperationSnapshot := do
  let kind ← parsed "kind" (Checked.parse isContractName operation.kind)
  let correlationId ← parsed "correlation_id" (Checked.parse isNamespaced operation.correlationId)
  let stage ← parsedOptional "stage" (Checked.parse isStage) operation.stage
  let progressPercent ← parsedOptional "progress_percent" ProgressPercent.ofNat operation.progressPercent
  let snapshot : OperationSnapshot := {
    operationId
    kind
    status := operation.status
    stage
    progressPercent
    results
    errors
    warnings
    retryable := operation.retryable
    correlationId
    tenantId := operation.ownerUserId
    acceptedAt := operation.acceptedAt
    statusChangedAt := operation.statusChangedAt
    terminatedAt := operation.terminatedAt }
  if snapshot.validate then .ok snapshot else .error (.contractViolation "snapshot")

def snapshot (operationId : OperationId) : Tx TableRow β (Except OperationError OperationSnapshot) := do
  let some operation ← find operationId | pure (.error .notFound)
  let results ← resultPayloads operationId
  let (errors,warnings) ← loadDiagnostics operationId
  pure (assemble operationId operation results errors warnings)

/-- What a snapshot shows of the work itself, as the record has it. -/
structure Findings where
  status : OperationStatus
  retryable : Bool
  results : List OperationResultRef
  errors : List ErrorEnvelope
  warnings : List WarningEnvelope
deriving DecidableEq

def findings (record : OperationRecord) : Findings :=
  let payloads := (record.diagnostics.insertionSort fun a b => a.recordedAt ≤ b.recordedAt).map Diagnostic.payload
  { status := record.operation.status
    retryable := record.operation.retryable
    results := (record.results.insertionSort fun a b => a.recordedAt ≤ b.recordedAt).map OperationResult.payload
    errors := payloads.filterMap Payload.toError
    warnings := payloads.filterMap Payload.toWarning }

/-- The snapshot of a stored operation, run alone. -/
def served (operationId : OperationId) (record : OperationRecord) : Except OperationError OperationSnapshot :=
  assemble operationId record.operation (findings record).results (findings record).errors (findings record).warnings

theorem exec_snapshot (rows : Db) (operationId : OperationId) (record : OperationRecord)
    (found : rows (.operation operationId) = some record) :
    exec schema (snapshot operationId : Tx TableRow β _) rows = .done (served operationId record) rows := by
  simp only [snapshot,resultPayloads,loadDiagnostics,Tx.bind_eq,exec_bind,exec_find,exec_select,found,Option.map_some,
    Outcome.done_bind,Option.getD_some,Tx.pure_eq,exec_done]
  rfl

/-- The report carries nothing to attach. -/
def OperationReported.bare (report : OperationReported) : Prop :=
  report.results = [] ∧ report.error = none ∧ report.warnings = []

/-- Every text of the report fits the column that it would be stored in. -/
def OperationReported.fits (report : OperationReported) : Prop := ∀ message ∈ report.messages, isShortSafe message = true

section Counting

/-- Sorting and splitting keep the count of every kind of row. -/
theorem findings_counts (record : OperationRecord) :
    (findings record).results.length = record.results.length ∧
    (findings record).errors.length = (record.diagnostics.filterMap fun row => row.payload.toError).length ∧
    (findings record).warnings.length = (record.diagnostics.filterMap fun row => row.payload.toWarning).length := by
  have sorted := List.perm_insertionSort (fun a b : Diagnostic => a.recordedAt ≤ b.recordedAt) record.diagnostics
  refine ⟨by simp [findings,List.length_insertionSort],?_,?_⟩
  · simpa [findings,List.filterMap_map,Function.comp_def] using (sorted.filterMap fun row => row.payload.toError).length_eq
  · simpa [findings,List.filterMap_map,Function.comp_def] using (sorted.filterMap fun row => row.payload.toWarning).length_eq

theorem results_foldl (results : List OperationResultRef) (now : Timestamp) (record : OperationRecord) :
    let final := (results.map fun result record => OperationRecord.withResult record result now).foldl
      (fun record change => change record) record
    final.results.length = record.results.length + results.length ∧ final.diagnostics = record.diagnostics := by
  induction results generalizing record with
  | nil => exact ⟨rfl,rfl⟩
  | cons result results ih =>
    obtain ⟨count,kept⟩ := ih (record.withResult result now)
    refine ⟨count.trans ?_,kept⟩
    simp [OperationRecord.withResult]
    omega

theorem warnings_foldl (warnings : List WarningEnvelope) (now : Timestamp) (record : OperationRecord) :
    let final := (warnings.map fun warning record => OperationRecord.withDiagnostic record (.warning warning) now).foldl
      (fun record change => change record) record
    final.results = record.results ∧
      final.diagnostics = record.diagnostics ++ warnings.map fun warning => diagnostic (.warning warning) now := by
  induction warnings generalizing record with
  | nil => exact ⟨rfl,by simp⟩
  | cons warning warnings ih =>
    obtain ⟨kept,grown⟩ := ih (record.withDiagnostic (.warning warning) now)
    refine ⟨kept,grown.trans ?_⟩
    simp [OperationRecord.withDiagnostic]

/-- The rows that the attachments of a report add. -/
theorem attachments_foldl (report : OperationReported) (now : Timestamp) (record : OperationRecord) :
    let final := (attachments report now).foldl (fun record change => change record) record
    final.results.length = record.results.length + report.results.length ∧
      final.diagnostics = record.diagnostics ++
        (report.error.toList.map (fun error => diagnostic (.error error) now) ++
          report.warnings.map fun warning => diagnostic (.warning warning) now) := by
  simp only [attachments,List.foldl_append]
  obtain ⟨results,first⟩ := results_foldl report.results now record
  cases report.error with
  | none =>
    obtain ⟨kept,grown⟩ := warnings_foldl report.warnings now
      ((report.results.map fun result record => OperationRecord.withResult record result now).foldl
        (fun record change => change record) record)
    exact ⟨(congrArg List.length kept).trans results,by simpa [first] using grown⟩
  | some error =>
    obtain ⟨kept,grown⟩ := warnings_foldl report.warnings now
      ((((report.results.map fun result record => OperationRecord.withResult record result now).foldl
        (fun record change => change record) record).withRetryable error.retryable).withDiagnostic (.error error) now)
    refine ⟨(congrArg List.length kept).trans results,grown.trans ?_⟩
    simp only [OperationRecord.withDiagnostic,OperationRecord.withRetryable,first,Option.toList_some,List.map_cons,
      List.map_nil,List.append_assoc]

/-- A report that attaches anything adds a row to one of the three lists. -/
theorem findings_eq_iff (record final : OperationRecord) (report : OperationReported) (now : Timestamp)
    (made : final = (attachments report now).foldl (fun record change => change record) record) :
    findings final = findings record ↔ report.bare := by
  constructor
  · intro same
    obtain ⟨results,diagnostics⟩ := attachments_foldl report now record
    rw [← made] at results diagnostics
    have counts := findings_counts record
    have grown := findings_counts final
    rw [same,diagnostics,List.filterMap_append,List.filterMap_append,List.length_append,List.length_append] at grown
    simp only [List.filterMap_append,List.length_append,List.filterMap_map] at grown
    have errors : (report.error.toList.filterMap ((fun row : Diagnostic => row.payload.toError) ∘
        fun error => diagnostic (.error error) now)).length = report.error.toList.length := by
      cases report.error <;> rfl
    have warnings : (report.warnings.filterMap ((fun row : Diagnostic => row.payload.toWarning) ∘
        fun warning => diagnostic (.warning warning) now)).length = report.warnings.length := by
      rw [show ((fun row : Diagnostic => row.payload.toWarning) ∘ fun warning => diagnostic (.warning warning) now) = some
        from rfl,List.filterMap_some]
    rw [errors,warnings] at grown
    exact ⟨List.length_eq_zero_iff.mp (by omega),Option.toList_eq_nil_iff.mp (List.length_eq_zero_iff.mp (by omega)),
      List.length_eq_zero_iff.mp (by omega)⟩
  · rintro ⟨results,error,warnings⟩
    rw [made,attachments,results,error,warnings]
    rfl

end Counting

/-- What the machine makes of an authorised report. -/
theorem step_report {rows : Db} {message : Eventing.Incoming Envelope} {report : OperationReported} (now : Timestamp)
    (read : ProgressReport.read message.payload = some report)
    (bound : boundAt rows message report.operationId = true) (record : OperationRecord)
    (found : rows (.operation report.operationId) = some record) :
    step rows (.write (.report message now)) =
      match handled record report now with
      | .ok (_,final) => Function.update rows (.operation report.operationId) (some final)
      | .error _ => rows := by
  simp only [step,Writer.program,exec_adapt]
  rw [exec_handle_bound rows message now report read bound,exec_project rows now report record found]
  rcases handled record report now with ⟨stored,offered⟩ | ⟨outcome,final⟩ <;> rfl

/-- A report of a status that is already there, or has been passed, leaves what the snapshot shows
exactly when it carries nothing, or a text that the database refuses together with all the rest. -/
theorem late_report_leaves_findings (rows : Db) (reached : Reachable rows)
    (message : Eventing.Incoming Envelope) (report : OperationReported) (now : Timestamp)
    (read : ProgressReport.read message.payload = some report)
    (bound : boundAt rows message report.operationId = true) (record : OperationRecord)
    (found : rows (.operation report.operationId) = some record)
    (late : apply record.operation.status report.status = .duplicate ∨
      apply record.operation.status report.status = .stale) :
    (∀ final, step rows (.write (.report message now)) (.operation report.operationId) = some final →
      findings final = findings record) ↔ report.bare ∨ ¬report.fits := by
  have consistent := reached.valid _ record found
  have storable := attachments_storable report now record consistent.checks
  have attached : ∃ outcome, handled record report now =
      (applyChanges record (attachments report now)).map fun final => (outcome,final) := by
    rcases late with duplicate | stale
    · exact ⟨.duplicate,by rw [handled,duplicate]⟩
    · exact ⟨.stale,by rw [handled,stale]⟩
  obtain ⟨outcome,attached⟩ := attached
  rw [step_report now read bound record found,attached]
  cases applied : applyChanges record (attachments report now) with
  | ok final =>
    have made := applyChanges_ok record final _ applied
    have fits : report.fits := storable.mp ⟨final,applied⟩
    have kept := findings_eq_iff record final report now made
    constructor
    · exact fun same => Or.inl (kept.mp (same final (Function.update_self _ _ _)))
    · intro either later at_
      dsimp only [Except.map] at at_
      rw [Function.update_self] at at_
      obtain rfl := Option.some.inj at_
      exact kept.mpr (either.resolve_right fun unfit => unfit fits)
  | error refused =>
    have unfit : ¬report.fits := fun fits => by
      obtain ⟨final,made⟩ := storable.mpr fits
      rw [applied] at made
      cases made
    refine iff_of_true (fun later at_ => ?_) (Or.inr unfit)
    exact congrArg findings (Option.some.inj (found.symm.trans at_)).symm

section Late

theorem runningRows_reachable : Reachable runningRows := ⟨runningActions,runningActions_run⟩

/-- Whatever the extractor says of the running capture is bound to it. -/
theorem extractor_bound (report : OperationReported) : boundAt runningRows (reportFrom report) 0 = true := by
  have unbound : runningRows (.archiveAcceptance 0) = none := rfl
  rw [boundAt,runningRows_found,unbound]
  exact (by decide : isBound (reportFrom runningReport) runningRecord.operation none = true)

def slowWarning : WarningEnvelope := ⟨⟨"content.fetch.slow",by decide⟩,⟨"The source answers slowly.",by decide⟩⟩

def warnedReport : OperationReported := ⟨0,.running,none,none,[],none,[slowWarning]⟩

/-- A repeated report of `running` that carries a warning is a duplicate, and its warning is served. -/
theorem late_warning_is_attached : ∃ final, Reachable runningRows ∧
    boundAt runningRows (reportFrom warnedReport) 0 = true ∧
    runningRows (.operation 0) = some runningRecord ∧
    apply runningRecord.operation.status warnedReport.status = .duplicate ∧
    step runningRows (.write (.report (reportFrom warnedReport) 2000)) (.operation 0) = some final ∧
    findings final ≠ findings runningRecord := by
  refine ⟨runningRecord.withDiagnostic (.warning slowWarning) 2000,runningRows_reachable,extractor_bound _,
    runningRows_found,rfl,?_,by decide⟩
  have made : handled runningRecord warnedReport 2000 =
      .ok (.duplicate,runningRecord.withDiagnostic (.warning slowWarning) 2000) := rfl
  rw [step_report 2000 (rfl : ProgressReport.read (reportFrom warnedReport).payload = some warnedReport)
    (extractor_bound _) runningRecord runningRows_found,made]
  exact Function.update_self _ _ _

theorem bare_report_leaves_findings : ∃ final,
    step runningRows (.write (.report (reportFrom runningReport) 2000)) (.operation 0) = some final ∧
    findings final = findings runningRecord := by
  have read : ProgressReport.read (reportFrom runningReport).payload = some runningReport := rfl
  have made : handled runningRecord runningReport 2000 = .ok (.duplicate,runningRecord) := rfl
  have stored : step runningRows (.write (.report (reportFrom runningReport) 2000)) (.operation 0) = some runningRecord := by
    rw [step_report 2000 read (extractor_bound _) runningRecord runningRows_found,made]
    exact Function.update_self _ _ _
  refine ⟨runningRecord,stored,?_⟩
  exact (late_report_leaves_findings runningRows runningRows_reachable (reportFrom runningReport) runningReport 2000 read
    (extractor_bound _) runningRecord runningRows_found (Or.inl rfl)).mpr (Or.inl ⟨rfl,rfl,rfl⟩) runningRecord stored

end Late

end Ratatoskr.Operations
