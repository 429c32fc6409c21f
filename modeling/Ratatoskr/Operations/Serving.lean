import Ratatoskr.Operations.Minting
import Ratatoskr.Operations.Snapshot

/-! When every stored operation has a snapshot to serve. -/
namespace Ratatoskr.Operations

open Transaction

def OperationRecord.errors (record : OperationRecord) : List ErrorEnvelope :=
  record.diagnostics.filterMap fun row => row.payload.toError

def OperationRecord.warnings (record : OperationRecord) : List WarningEnvelope :=
  record.diagnostics.filterMap fun row => row.payload.toWarning

/-- The stored diagnostics are those the snapshot contract asks for with the status. -/
def Agrees (record : OperationRecord) : Prop :=
  match record.operation.status with
  | .failed => record.errors ≠ []
  | .succeeded => record.errors = []
  | .partiallySucceeded => record.warnings ≠ [] ∨ record.errors ≠ []
  | _ => True

/-- The snapshot of the record is not refused. -/
def Servable (operationId : OperationId) (record : OperationRecord) : Prop :=
  ∃ snapshot, served operationId record = .ok snapshot

/-- Every stored operation has its snapshot. -/
def Served (rows : Db) : Prop := ∀ operationId record, rows (.operation operationId) = some record →
  Servable operationId record

theorem isEmpty_of_length {a : List α} {b : List β} (same : a.length = b.length) : a.isEmpty = b.isEmpty := by
  cases a <;> cases b <;> simp_all

/-- Every stored text but the kind parses as the contract has it. -/
theorem stored_parses (record : OperationRecord) (consistent : Consistent record) :
    (∃ correlationId, parsed "correlation_id" (Checked.parse isNamespaced record.operation.correlationId) =
      .ok correlationId) ∧
    (∃ stage, parsedOptional "stage" (Checked.parse isStage) record.operation.stage = .ok stage) ∧
    ∃ value, parsedOptional "progress_percent" ProgressPercent.ofNat record.operation.progressPercent = .ok value := by
  have checks := consistent.checks
  simp only [OperationRecord.checks,Operation.checks,Bool.and_eq_true] at checks
  obtain ⟨⟨⟨⟨⟨⟨⟨⟨⟨⟨⟨_,_⟩,percent⟩,correlation⟩,_⟩,_⟩,_⟩,_⟩,_⟩,_⟩,_⟩,_⟩ := checks
  refine ⟨⟨⟨_,correlation⟩,?_⟩,?_,?_⟩
  · rw [Checked.parse,dif_pos correlation]
    rfl
  · have named := consistent.staged
    cases stage : record.operation.stage with
    | none => exact ⟨none,rfl⟩
    | some text =>
      rw [stage,Option.all_some] at named
      refine ⟨some ⟨text,named⟩,?_⟩
      rw [parsedOptional,Checked.parse,dif_pos named]
      rfl
  · cases stored : record.operation.progressPercent with
    | none => exact ⟨none,rfl⟩
    | some value =>
      rw [stored] at percent
      have small : value ≤ 100 := by simpa [percentIsAPercentage] using percent
      refine ⟨some ⟨value,small⟩,?_⟩
      rw [parsedOptional,ProgressPercent.ofNat,dif_pos small]
      rfl

/-- A stored record parses unless its kind is too long, so the rest is up to its diagnostics. -/
theorem servable_iff (operationId : OperationId) (record : OperationRecord) (consistent : Consistent record) :
    Servable operationId record ↔ record.operation.kind.length ≤ 128 ∧ Agrees record := by
  have counts := findings_counts record
  have errors : (findings record).errors.isEmpty = record.errors.isEmpty := isEmpty_of_length counts.2.1
  have warnings : (findings record).warnings.isEmpty = record.warnings.isEmpty := isEmpty_of_length counts.2.2
  have ended := terminated_iff record consistent.checks
  have dotted : isDottedName record.operation.kind = true := by
    have checks := consistent.checks
    simp only [OperationRecord.checks,Operation.checks,Bool.and_eq_true] at checks
    exact checks.1.1.1.1.1.1.1.1.1.1.1
  obtain ⟨⟨correlationId,correlated⟩,⟨stage,staged⟩,value,bounded⟩ := stored_parses record consistent
  by_cases short : record.operation.kind.length ≤ 128
  · have named : isContractName record.operation.kind = true := by simp [isContractName,dotted,short]
    obtain ⟨snapshot,status,shown,warned,terminated,assembled⟩ : ∃ snapshot : OperationSnapshot,
        snapshot.status = record.operation.status ∧ snapshot.errors = (findings record).errors ∧
        snapshot.warnings = (findings record).warnings ∧ snapshot.terminatedAt = record.operation.terminatedAt ∧
        served operationId record =
          if snapshot.validate then .ok snapshot else .error (.contractViolation "snapshot") := by
      refine ⟨⟨operationId,⟨record.operation.kind,named⟩,record.operation.status,stage,value,(findings record).results,
        (findings record).errors,(findings record).warnings,record.operation.retryable,correlationId,
        record.operation.ownerUserId,record.operation.acceptedAt,record.operation.statusChangedAt,
        record.operation.terminatedAt⟩,rfl,rfl,rfl,rfl,?_⟩
      have kind : parsed "kind" (Checked.parse isContractName record.operation.kind) = .ok ⟨_,named⟩ := by
        rw [Checked.parse,dif_pos named]
        rfl
      simp only [served,assemble,kind,correlated,staged,bounded]
      rfl
    have valid : snapshot.validate = true ↔ Agrees record := by
      simp only [OperationSnapshot.validate,Agrees,status,shown,warned,terminated,errors,warnings,ended,beq_self_eq_true,
        Bool.and_true]
      cases record.operation.status <;> simp
    rw [Servable,assembled,and_iff_right short,← valid]
    cases snapshot.validate <;> simp
  · have unnamed : ¬isContractName record.operation.kind = true := by simp [isContractName,short]
    refine iff_of_false (fun servable => ?_) fun both => short both.1
    obtain ⟨snapshot,ok⟩ := servable
    simp only [served,assemble,Checked.parse,dif_neg unnamed,parsed] at ok
    cases ok

section Reports

variable (record : OperationRecord) (report : OperationReported) (now : Timestamp)

/-- What the database accepts of a report: its texts fit their columns and, for an advance, so does
its stage, and the clock has not gone back. -/
def Storable : Prop :=
  report.fits ∧ (rank record.operation.status < rank report.status →
    stageIsBounded (report.stage.map Subtype.val) = true ∧ record.operation.statusChangedAt ≤ toOffset now)

/-- The report leaves a success with an error: one that was stored before, or one that it brings. -/
def Clashes : Prop :=
  (rank record.operation.status < rank report.status ∧ report.status = .succeeded ∧ record.errors ≠ []) ∨
  (record.operation.status = .succeeded ∧ isTerminal report.status = false ∧ report.error.isSome)

variable (consistent : Consistent record)

include consistent

theorem advance_storable (above : rank record.operation.status < rank report.status) :
    (∃ final, applyChanges record (advanceChanges report.status (report.stage.map Subtype.val)
        (report.progressPercent.map ProgressPercent.value) none now ++ attachments report now) = .ok final) ↔
      Storable record report now := by
  have bounded := report_percent_bounded report now
  have named := report_stage_named report
  rw [applyChanges_append]
  constructor
  · rintro ⟨final,made⟩
    cases first : applyChanges record (advanceChanges report.status (report.stage.map Subtype.val)
        (report.progressPercent.map ProgressPercent.value) none now) with
    | error refused =>
      rw [first] at made
      cases made
    | ok middle =>
      rw [first] at made
      obtain ⟨valid,_,later⟩ :=
        advanceChanges_ok record report.status _ _ now middle none consistent above named first
      have fits := (attachments_storable report now middle valid.checks).mp ⟨final,made⟩
      refine ⟨fits,fun _ => ⟨?_,later⟩⟩
      simp only [advanceChanges,applyChanges] at first
      split at first
      · rename_i admitted
        exact (admits_withStatus_iff record report.status _ _ now consistent.checks above later bounded).mp admitted
      · cases first
  · rintro ⟨fits,advances⟩
    obtain ⟨short,later⟩ := advances above
    have updated := (admits_withStatus_iff record report.status (report.stage.map Subtype.val)
      (report.progressPercent.map ProgressPercent.value) now consistent.checks above later bounded).mpr short
    have entry := admits_withProgress _ (Bool.and_eq_true_iff.mp updated).1
      (progressEntry report.status (report.stage.map Subtype.val) (report.progressPercent.map ProgressPercent.value)
        none now)
    rw [show (progressEntry report.status (report.stage.map Subtype.val)
        (report.progressPercent.map ProgressPercent.value) none now).checks = true by
      simp only [ProgressEntry.checks,progressEntry,short,Bool.true_and,Option.all_none,Bool.and_true]
      exact bounded] at entry
    simp only [advanceChanges,applyChanges]
    rw [if_pos updated,if_pos entry]
    exact (attachments_storable report now _ (Bool.and_eq_true_iff.mp entry).1).mpr fits

/-- Short of a conflict, a report is handled exactly when it can be stored. -/
theorem handled_storable (agrees : apply record.operation.status report.status ≠ .conflict) :
    (∃ outcome final, handled record report now = .ok (outcome,final)) ↔ Storable record report now := by
  have mapped {made : Except (OperationRecord × OperationRecord) OperationRecord} (outcome : Eventing.Outcome) :
      (∃ other final, made.map (fun final => (outcome,final)) = .ok (other,final)) ↔ ∃ final, made = .ok final := by
    cases made with
    | error refused => exact iff_of_false (fun ⟨_,_,same⟩ => nomatch same) fun ⟨_,same⟩ => nomatch same
    | ok final => exact iff_of_true ⟨outcome,final,rfl⟩ ⟨final,rfl⟩
  have attached (low : ¬rank record.operation.status < rank report.status) :
      (∃ final, applyChanges record (attachments report now) = .ok final) ↔ Storable record report now :=
    (attachments_storable report now record consistent.checks).trans
      ⟨fun fits => ⟨fits,fun above => (low above).elim⟩,And.left⟩
  cases verdict : apply record.operation.status report.status with
  | conflict => exact (agrees verdict).elim
  | duplicate =>
    rw [handled,verdict]
    refine (mapped .duplicate).trans (attached ?_)
    rw [(apply_duplicate_iff _ _).mp verdict]
    exact lt_irrefl _
  | stale =>
    rw [handled,verdict]
    exact (mapped .stale).trans (attached ((apply_stale_iff _ _).mp verdict).not_gt)
  | advance status =>
    obtain ⟨rfl,above⟩ := (apply_advance_iff _ _ _).mp verdict
    rw [handled,verdict]
    exact (mapped .applied).trans (advance_storable record report now consistent above)

end Reports

section Diagnostics

variable (record : OperationRecord) (report : OperationReported) (now : Timestamp)

theorem diagnostics_split (final : OperationRecord)
    (grown : final.diagnostics = record.diagnostics ++
      (report.error.toList.map (fun error => diagnostic (.error error) now) ++
        report.warnings.map fun warning => diagnostic (.warning warning) now)) :
    final.errors = record.errors ++ report.error.toList ∧ final.warnings = record.warnings ++ report.warnings := by
  have errors : (report.warnings.filterMap ((fun row : Diagnostic => row.payload.toError) ∘
      fun warning => diagnostic (.warning warning) now)) = [] := List.filterMap_eq_nil_iff.mpr fun _ _ => rfl
  have warnings : (report.warnings.filterMap ((fun row : Diagnostic => row.payload.toWarning) ∘
      fun warning => diagnostic (.warning warning) now)) = report.warnings := List.filterMap_some
  simp only [OperationRecord.errors,OperationRecord.warnings,grown,List.filterMap_append,List.filterMap_map,errors,
    warnings,List.append_nil]
  cases report.error <;> exact ⟨rfl,rfl⟩

/-- Short of a conflict, a handled report adds its diagnostics to those of the record. -/
theorem handled_diagnostics (final : OperationRecord) (outcome : Eventing.Outcome)
    (agrees : apply record.operation.status report.status ≠ .conflict)
    (applied : handled record report now = .ok (outcome,final)) :
    final.errors = record.errors ++ report.error.toList ∧ final.warnings = record.warnings ++ report.warnings := by
  simp only [handled] at applied
  split at applied
  · rename_i conflict
    exact (agrees conflict).elim
  all_goals
    obtain ⟨made,produced,same⟩ := ok_of_map applied
    obtain rfl := (Prod.mk.inj same).2
    have done := applyChanges_ok record made _ produced
    refine diagnostics_split record report now made ?_
    rw [done]
  · exact (attachments_foldl report now record).2
  · exact (attachments_foldl report now record).2
  · rw [List.foldl_append]
    exact (attachments_foldl report now _).2

/-- A valid report that was handled keeps the diagnostics in step with the status, unless it clashes. -/
theorem handled_agrees (final : OperationRecord) (outcome : Eventing.Outcome) (before : Agrees record)
    (valid : report.validate = true) (agrees : apply record.operation.status report.status ≠ .conflict)
    (consistent : Consistent record) (applied : handled record report now = .ok (outcome,final)) : Agrees final ↔ ¬Clashes record report := by
  obtain ⟨errors,warnings⟩ := handled_diagnostics record report now final outcome agrees applied
  rcases handled_status record final consistent applied with ⟨above,status,_⟩ | ⟨below,annotates⟩
  · have live : record.operation.status ≠ .succeeded := by
      rintro ended
      have bound := rank_le_terminal report.status
      rw [ended] at above
      exact absurd above (not_lt.mpr bound)
    simp only [Agrees,Clashes,status,errors,warnings,above,live,true_and,false_and,or_false]
    simp only [OperationReported.validate] at valid
    cases reported : report.status with
    | accepted | queued | running | cancelled => simp
    | failed =>
      obtain ⟨error,found⟩ := Option.isSome_iff_exists.mp (by simpa [reported] using valid)
      simp [found]
    | succeeded =>
      have none_ : report.error = none := by simpa [reported] using valid
      simp [none_]
    | partiallySucceeded =>
      have found : report.warnings ≠ [] ∨ report.error.isSome = true := by simpa [reported] using valid
      refine iff_of_true ?_ (by simp)
      rcases found with warned | found
      · exact Or.inl fun empty => warned (List.append_eq_nil_iff.mp empty).2
      · obtain ⟨error,found⟩ := Option.isSome_iff_exists.mp found
        simp [found]
  · simp only [Agrees] at before
    simp only [Agrees,Clashes,annotates.status,errors,warnings,below,false_and,false_or]
    cases ended : record.operation.status with
    | accepted | queued | running | cancelled => simp
    | failed =>
      rw [ended] at before
      exact iff_of_true (fun empty => before (List.append_eq_nil_iff.mp empty).1) (by simp)
    | partiallySucceeded =>
      rw [ended] at before
      refine iff_of_true (before.imp ?_ ?_) (by simp)
      · exact fun some_ empty => some_ (List.append_eq_nil_iff.mp empty).1
      · exact fun some_ empty => some_ (List.append_eq_nil_iff.mp empty).1
    | succeeded =>
      rw [ended] at before
      rw [before,List.nil_append,Option.toList_eq_nil_iff]
      -- A terminal report that is no conflict repeats the success, and so carries no error.
      cases terminal : isTerminal report.status with
      | false => cases report.error <;> simp
      | true =>
        have repeated : report.status = .succeeded := by
          by_contra different
          exact agrees ((apply_conflict_iff _ _).mpr ⟨fun same => different (same.trans ended),by rw [ended]; rfl,terminal⟩)
        have none_ : report.error = none := by simpa [OperationReported.validate,repeated] using valid
        simp [none_]

end Diagnostics

section Steps

variable {rows : Db} (served_ : Served rows)

include served_

theorem served_update (operationId : OperationId) (final : OperationRecord) :
    Served (Function.update rows (.operation operationId) (some final)) ↔ Servable operationId final := by
  constructor
  · exact fun all => all operationId final (Function.update_self _ _ _)
  · intro servable other record found
    by_cases same : other = operationId
    · subst same
      rw [Function.update_self] at found
      exact Option.some.inj found ▸ servable
    · rw [Function.update_of_ne fun equal => same (Table.operation.inj equal)] at found
      exact served_ other record found

variable (valid : Valid rows)

include valid

/-- A writer that ends the operation as failed leaves the error that this asks for. -/
theorem failed_served (operationId : OperationId) (record final : OperationRecord)
    (found : rows (.operation operationId) = some record) (stage : Option String) (message : String)
    (error : ErrorEnvelope) (now : Timestamp) (live : isTerminal record.operation.status = false)
    (named : stage.all isStage = true) (applied : applyChanges record (failChanges stage message error now) = .ok final) :
    Served (Function.update rows (.operation operationId) (some final)) := by
  have consistent := valid operationId record found
  have above : rank record.operation.status < rank .failed := ((apply_advance_iff _ _ _).mp (apply_failed _ live)).2
  obtain ⟨onward,status,_⟩ := advanced record final consistent now _ _ _ _ _ (errorChanges_annotate error now) above
    named applied
  have made := applyChanges_ok record final _ applied
  have errors : final.errors ≠ [] := by
    rw [made]
    simp [failChanges,advanceChanges,errorChanges,OperationRecord.errors,OperationRecord.withDiagnostic,diagnostic,
      Payload.toError]
  have short := ((servable_iff operationId record consistent).mp (served_ operationId record found)).1
  refine (served_update served_ operationId final).mpr ((servable_iff operationId final onward.consistent).mpr ⟨?_,?_⟩)
  · rwa [onward.grown.kind]
  · simpa only [Agrees,status] using errors

theorem reconcileOne_served (operationId : OperationId) (cutoff : Int) (now : Timestamp) (value : Bool) (later : Db)
    (ended : exec schema (reconcileOne operationId cutoff now) rows = .done value later) : Served later := by
  rcases found : (rows (.operation operationId)).filter (isStale cutoff) with _ | record
  · rw [exec_reconcileOne_skip rows operationId now cutoff found] at ended
    cases ended
  · obtain ⟨stored,stale⟩ := Option.filter_eq_some_iff.mp found
    rw [exec_reconcileOne rows operationId now record stored cutoff stale] at ended
    split at ended
    · rename_i final applied
      obtain ⟨_,rfl⟩ := Outcome.done.inj ended
      exact failed_served served_ valid operationId record final stored none staleMessage staleError now
        (live_of_stale cutoff record stale).1 rfl applied
    · cases ended

theorem failOperation_served (operationId : OperationId) (stage message : String) (error : ErrorEnvelope)
    (now : Timestamp) (named : isStage stage = true) :
    Served ((exec schema (failOperation operationId stage message (.ok error) now) rows).publish rows) := by
  cases found : rows (.operation operationId) with
  | none =>
    rw [exec_fail_absent rows operationId now found]
    exact served_
  | some record =>
    rw [exec_failOperation rows operationId now record found]
    cases verdict : apply record.operation.status .failed with
    | duplicate | stale | conflict => exact served_
    | advance status =>
      dsimp only
      cases applied : applyChanges record (failChanges (some stage) message error now) with
      | error refused => exact served_
      | ok final =>
        have live : isTerminal record.operation.status = false := by
          cases ended : isTerminal record.operation.status
          · rfl
          · exact absurd verdict (apply_terminal _ _ _ ended)
        exact failed_served served_ valid operationId record final found (some stage) message error now live named applied

theorem cancel_served (operationId : OperationId) (ownerUserId : UserId) (now : Timestamp) :
    Served ((exec schema (requestCancellation operationId ownerUserId now) rows).publish rows) := by
  simp only [requestCancellation,Tx.bind_eq,exec_bind,exec_selectForUpdate,Outcome.done_bind]
  split
  · rename_i record locked
    have found := (Option.filter_eq_some_iff.mp locked).1
    have moves := moves_update valid operationId record found now
    split
    · exact served_
    · split
      · exact served_
      · simp only [exec_bind,exec_updateRecord rows operationId record found]
        split
        · rename_i admitted
          have annotates : Annotates record { record with operation :=
              { record.operation with cancellationRequestedAt := some (toOffset now) } } :=
            ⟨rfl,rfl,rfl,rfl,rfl,rfl,rfl,rfl,rfl,List.prefix_rfl,List.prefix_rfl⟩
          have consistent := annotates.consistent (valid _ _ found) (Bool.and_eq_true_iff.mp admitted).1
          have before := (servable_iff operationId record (valid _ _ found)).mp (served_ operationId record found)
          exact (served_update served_ operationId _).mpr ((servable_iff operationId _ consistent).mpr before)
        · exact served_
  · exact served_

omit served_ valid

theorem reconcileAll_served (cutoff : Int) (now : Timestamp) (operationIds : List OperationId) (report : Report)
    (rows : Db) (valid : Valid rows) (served_ : Served rows) :
    Served (reconcileAll cutoff now report operationIds rows).1 := by
  induction operationIds generalizing rows report with
  | nil => exact served_
  | cons operationId operationIds ih =>
    have kept := writer_kept (.reconcile operationId cutoff now) rows valid
    simp only [Writer.program,exec_adapt] at kept
    simp only [reconcileAll]
    cases outcome : exec schema (reconcileOne operationId cutoff now) rows with
    | done value later =>
      rw [outcome] at kept
      have moves : Moves now rows later := kept
      exact ih _ later moves.valid (reconcileOne_served served_ valid operationId cutoff now value later outcome)
    | abandoned answer =>
      cases answer with
      | ok => exact ih _ rows valid served_
      | error => exact served_
    | refused => exact served_

end Steps

/-- What the next action has to meet for every stored operation to stay servable: a minted kind is no
longer than the contract's, and a report that will be stored does not clash with the record. -/
def Composes (rows : Db) : Action → Prop
  | .write (.mint operationId ownerUserId kind correlationId idempotencyKey reporter acceptance now) =>
    Acceptable rows operationId ownerUserId kind correlationId idempotencyKey reporter now →
      Bindable rows operationId acceptance → kind.length ≤ 128
  | .write (.report message now) =>
    ∀ report record, ProgressReport.read message.payload = some report →
      rows (.operation report.operationId) = some record → boundAt rows message report.operationId = true →
      Storable record report now → ¬Clashes record report
  | _ => True

section Exact

variable {rows : Db} (valid : Valid rows) (served_ : Served rows)

include valid served_

theorem mint_served_iff (operationId : OperationId) (ownerUserId : UserId) (kind correlationId : String)
    (idempotencyKey reporter : Option String) (acceptance : Option AiArchiveAcceptance) (now : Timestamp) :
    Served (step rows
        (.write (.mint operationId ownerUserId kind correlationId idempotencyKey reporter acceptance now))) ↔
      (Acceptable rows operationId ownerUserId kind correlationId idempotencyKey reporter now →
        Bindable rows operationId acceptance → kind.length ≤ 128) := by
  have kept := writer_kept (.mint operationId ownerUserId kind correlationId idempotencyKey reporter acceptance now) rows
    valid
  have done := exec_mint_done rows operationId ownerUserId kind correlationId idempotencyKey reporter acceptance now
  simp only [step]
  simp only [Writer.program] at kept ⊢
  cases outcome : exec schema (mint operationId ownerUserId kind correlationId idempotencyKey reporter acceptance now)
      rows with
  | abandoned | refused =>
    have unminted : ¬(Acceptable rows operationId ownerUserId kind correlationId idempotencyKey reporter now ∧
        Bindable rows operationId acceptance) := fun both => by
      have made := (done _).mpr ⟨both,rfl⟩
      rw [outcome] at made
      cases made
    exact iff_of_true served_ fun acceptable bindable => (unminted ⟨acceptable,bindable⟩).elim
  | done value later =>
    rw [outcome] at kept
    have moves : Moves now rows later := kept
    obtain ⟨⟨acceptable,bindable⟩,rfl⟩ := (done later).mp outcome
    have found : mintedRows rows operationId ownerUserId kind correlationId idempotencyKey reporter acceptance now
        (.operation operationId) =
          some (newRecord (newOperation ownerUserId kind correlationId idempotencyKey reporter now)) := by
      cases acceptance <;> cases idempotencyKey <;> simp [mintedRows,acceptedRows]
    have servable := servable_iff operationId _ (moves.valid operationId _ found)
    constructor
    · exact fun all _ _ => (servable.mp (all operationId _ found)).1
    · intro short other record at_
      by_cases same : other = operationId
      · subst same
        obtain rfl := Option.some.inj (found.symm.trans at_)
        exact servable.mpr ⟨short acceptable bindable,trivial⟩
      · refine served_ other record ?_
        rw [← at_]
        exact (exec_within _ _ _ _ (within_mint operationId ownerUserId kind correlationId idempotencyKey reporter
          acceptance now) _ _ outcome _ fun own => same (own other rfl)).symm

theorem report_served_iff (message : Eventing.Incoming Envelope) (now : Timestamp) :
    Served (step rows (.write (.report message now))) ↔ Composes rows (.write (.report message now)) := by
  cases read : ProgressReport.read message.payload with
  | none =>
    have same : step rows (.write (.report message now)) = rows := by
      simp only [step,Writer.program,exec_adapt,exec_handle_unread rows message now read]
      rfl
    rw [same]
    exact iff_of_true served_ fun report record read' => by rw [read] at read'; cases read'
  | some report =>
    by_cases bound : boundAt rows message report.operationId = true
    · obtain ⟨record,found⟩ := found_of_bound bound
      have consistent := valid _ record found
      obtain ⟨short,agrees⟩ := (servable_iff _ record consistent).mp (served_ _ record found)
      have validated : report.validate = true := (Option.filter_eq_some_iff.mp read).2
      have composes : Composes rows (.write (.report message now)) ↔ (Storable record report now → ¬Clashes record report) := by
        constructor
        · exact fun all => all report record read found bound
        · intro one report' record' read' found' _
          obtain rfl := Option.some.inj (read.symm.trans read')
          obtain rfl : record = record' := Option.some.inj (found.symm.trans found')
          exact one
      rw [composes,step_report now read bound record found]
      cases applied : handled record report now with
      | error refused =>
        refine iff_of_true served_ fun storable => ?_
        by_cases conflict : apply record.operation.status report.status = .conflict
        · rw [handled,conflict] at applied
          cases applied
        · obtain ⟨outcome,final,made⟩ := (handled_storable record report now consistent conflict).mpr storable
          rw [applied] at made
          cases made
      | ok result =>
        obtain ⟨outcome,final⟩ := result
        have onward := handled_ok record final consistent now report outcome applied
        have servable := servable_iff report.operationId final onward.consistent
        dsimp only
        rw [served_update served_,servable,onward.grown.kind,and_iff_right short]
        by_cases conflict : apply record.operation.status report.status = .conflict
        · -- A conflict leaves the record, and a terminal report that contradicts it brings no clash.
          have unchanged : final = record := by
            rw [handled,conflict] at applied
            exact (Prod.mk.inj (Except.ok.inj applied)).2.symm
          obtain ⟨_,ended,terminal⟩ := (apply_conflict_iff _ _).mp conflict
          refine iff_of_true (unchanged ▸ agrees) fun _ clash => ?_
          rcases clash with ⟨above,_⟩ | ⟨_,live,_⟩
          · have top := (is_terminal_iff _).mp ended
            have bound := rank_le_terminal report.status
            omega
          · rw [terminal] at live
            cases live
        · have storable := (handled_storable record report now consistent conflict).mp ⟨outcome,final,applied⟩
          rw [handled_agrees record report now final outcome agrees validated conflict consistent applied]
          exact ⟨fun clear _ => clear,fun one => one storable⟩
    · have same : step rows (.write (.report message now)) = rows := by
        simp only [step,Writer.program,exec_adapt]
        rw [exec_handle_unbound rows message now report read (Bool.eq_false_iff.mpr bound)]
        rfl
      rw [same]
      refine iff_of_true served_ fun report' record read' _ bound' => ?_
      obtain rfl := Option.some.inj (read.symm.trans read')
      exact (bound bound').elim

theorem step_served_iff (action : Action) : Served (step rows action) ↔ Composes rows action := by
  cases action with
  | pass table staleAfter batch now => exact iff_of_true (reconcileAll_served _ now _ _ rows valid served_) trivial
  | write writer =>
    cases writer with
    | mint operationId ownerUserId kind correlationId key reporter acceptance now =>
      exact mint_served_iff valid served_ operationId ownerUserId kind correlationId key reporter acceptance now
    | report message now => exact report_served_iff valid served_ message now
    | reconcile operationId cutoff now =>
      refine iff_of_true ?_ trivial
      simp only [step,Writer.program,exec_adapt]
      cases outcome : exec schema (reconcileOne operationId cutoff now) rows with
      | done value later => exact reconcileOne_served served_ valid operationId cutoff now value later outcome
      | abandoned | refused => exact served_
    | archiveDelivery operationId now =>
      refine iff_of_true ?_ trivial
      have kept := failOperation_served served_ valid operationId "delivery" deliveryFailed.message.val deliveryFailed now
        (by decide)
      simp only [step,Writer.program,exec_adapt,failAiArchiveDelivery]
      revert kept
      cases exec schema (failOperation operationId "delivery" deliveryFailed.message.val (.ok deliveryFailed) now) rows
      <;> exact id
    | notesForward operationId forward code retryable now =>
      refine iff_of_true ?_ trivial
      have safe : isSafeMessage forward.message = true := by cases forward <;> decide
      have named : isStage forward.stage = true := by cases forward <;> decide
      have kept := failOperation_served served_ valid operationId forward.stage forward.message
        ⟨code,⟨forward.message,safe⟩,retryable⟩ now named
      simp only [step,Writer.program,exec_adapt,failNotesForward,Checked.parse,safe,dif_pos]
      revert kept
      cases exec schema (failOperation operationId forward.stage forward.message
        (.ok ⟨code,⟨forward.message,safe⟩,retryable⟩) now) rows <;> exact id
    | cancel operationId ownerUserId now =>
      refine iff_of_true ?_ trivial
      have kept := cancel_served served_ valid operationId ownerUserId now
      simp only [step,Writer.program,exec_adapt]
      revert kept
      cases exec schema (requestCancellation operationId ownerUserId now) rows <;> exact id

end Exact

/-- No run ever refuses a stored operation its snapshot, exactly as long as every action composes. -/
theorem snapshots_served_iff (actions : List Action) :
    StateMachine.Throughout serve Served noRows actions ↔ StateMachine.Along serve Composes noRows actions := by
  refine StateMachine.throughout_iff_along serve Valid Served Composes serve_valid (fun _ _ => rfl) ?_ noRows actions
    noRows_valid fun _ _ found => nomatch found
  rintro rows action _ valid served_ ⟨⟩
  exact step_served_iff valid served_ action

section Clash

def fetchError : ErrorEnvelope := ⟨⟨"content.fetch.failed",by decide⟩,⟨"One attempt failed.",by decide⟩,true⟩

/-- Each report is valid by itself: only a failure has to carry an error, only a success must not. -/
def erringReport : OperationReported := ⟨0,.running,none,none,[],some fetchError,[]⟩

def succeededReport : OperationReported := ⟨0,.succeeded,none,none,[],none,[]⟩

def clashingActions : List Action :=
  [.write (.report (reportFrom erringReport) 2000),.write (.report (reportFrom succeededReport) 3000)]

def erringRecord : OperationRecord :=
  (runningRecord.withRetryable true).withDiagnostic (.error fetchError) 2000

def succeededRecord : OperationRecord :=
  (erringRecord.withStatus .succeeded none none 3000).withProgress (progressEntry .succeeded none none none 3000)

/-- An error while the work still runs, then a success: the snapshot of the operation is refused. -/
theorem clashing_reports_refuse_snapshot : ∃ rows,
    StateMachine.run serve noRows (runningActions ++ clashingActions) = some rows ∧
    rows (.operation 0) = some succeededRecord ∧
    served 0 succeededRecord = .error (.contractViolation "snapshot") := by
  have first : step runningRows (.write (.report (reportFrom erringReport) 2000)) =
      Function.update runningRows (.operation 0) (some erringRecord) := by
    have made : handled runningRecord erringReport 2000 = .ok (.duplicate,erringRecord) := rfl
    rw [step_report 2000 (rfl : ProgressReport.read (reportFrom erringReport).payload = some erringReport)
      (extractor_bound _) runningRecord runningRows_found,made]
    rfl
  have second : step (Function.update runningRows (.operation 0) (some erringRecord))
      (.write (.report (reportFrom succeededReport) 3000)) =
      Function.update (Function.update runningRows (.operation 0) (some erringRecord)) (.operation 0)
        (some succeededRecord) := by
    have made : handled erringRecord succeededReport 3000 = .ok (.applied,succeededRecord) := rfl
    have found : Function.update runningRows (.operation 0) (some erringRecord) (.operation 0) = some erringRecord :=
      Function.update_self _ _ _
    have bound : boundAt (Function.update runningRows (.operation 0) (some erringRecord)) (reportFrom succeededReport) 0 =
        true := by
      have same := extractor_bound succeededReport
      rw [boundAt,runningRows_found] at same
      rw [boundAt,found]
      exact same
    rw [step_report 3000 (rfl : ProgressReport.read (reportFrom succeededReport).payload = some succeededReport) bound
      erringRecord found,made]
    rfl
  refine ⟨Function.update (Function.update runningRows (.operation 0) (some erringRecord)) (.operation 0)
    (some succeededRecord),?_,?_,?_⟩
  · refine (StateMachine.run_append_eq_some _ _ _ _ _).mpr ⟨runningRows,runningActions_run,?_⟩
    simp only [clashingActions,StateMachine.run,serve,Option.bind_some,first,second]
  · exact Function.update_self _ _ _
  · rfl

end Clash

end Ratatoskr.Operations
