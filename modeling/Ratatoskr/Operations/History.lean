import Ratatoskr.Operations.Projection
import Ratatoskr.Operations.Termination

/-! What every writer keeps about the record of one operation. -/
namespace Ratatoskr.Operations

/-- The stored facts of one operation agree with each other. -/
structure Consistent (record : OperationRecord) : Prop where
  checks : record.checks = true
  ranks : (record.progress.map fun entry => rank entry.status).Pairwise (· < ·)
  last : match record.progress.getLast? with
    | some entry => entry.status = record.operation.status
    | none => record.operation.status = .accepted
  observed : ∀ entry ∈ record.progress, entry.observedAt ≤ record.operation.statusChangedAt
  /-- The column takes any short text, but only a stage of the contract is ever written to it. -/
  staged : record.operation.stage.all isStage = true

/-- The record has only moved on: its identity and its past are kept. -/
structure Extends (old new : OperationRecord) : Prop where
  owner : new.operation.ownerUserId = old.operation.ownerUserId
  kind : new.operation.kind = old.operation.kind
  reporter : new.operation.reporter = old.operation.reporter
  acceptedAt : new.operation.acceptedAt = old.operation.acceptedAt
  ranks : rank old.operation.status ≤ rank new.operation.status
  terminal : isTerminal old.operation.status = true → new.operation.status = old.operation.status
  changedAt : old.operation.statusChangedAt ≤ new.operation.statusChangedAt
  history : old.progress <+: new.progress
  results : old.results <+: new.results
  diagnostics : old.diagnostics <+: new.diagnostics

theorem Extends.refl (record : OperationRecord) : Extends record record :=
  ⟨rfl,rfl,rfl,rfl,le_rfl,fun _ => rfl,le_rfl,List.prefix_rfl,List.prefix_rfl,List.prefix_rfl⟩

theorem Extends.trans {a b c : OperationRecord} (first : Extends a b) (second : Extends b c) : Extends a c where
  owner := second.owner.trans first.owner
  kind := second.kind.trans first.kind
  reporter := second.reporter.trans first.reporter
  acceptedAt := second.acceptedAt.trans first.acceptedAt
  ranks := first.ranks.trans second.ranks
  terminal ended := by
    have same := first.terminal ended
    exact (second.terminal (same ▸ ended)).trans same
  changedAt := first.changedAt.trans second.changedAt
  history := first.history.trans second.history
  results := first.results.trans second.results
  diagnostics := first.diagnostics.trans second.diagnostics

/-- A change that is no status change: it adds results or diagnostics, or sets a flag of the row. -/
structure Annotates (old new : OperationRecord) : Prop where
  owner : new.operation.ownerUserId = old.operation.ownerUserId
  kind : new.operation.kind = old.operation.kind
  reporter : new.operation.reporter = old.operation.reporter
  acceptedAt : new.operation.acceptedAt = old.operation.acceptedAt
  status : new.operation.status = old.operation.status
  changedAt : new.operation.statusChangedAt = old.operation.statusChangedAt
  stage : new.operation.stage = old.operation.stage
  terminatedAt : new.operation.terminatedAt = old.operation.terminatedAt
  history : new.progress = old.progress
  results : old.results <+: new.results
  diagnostics : old.diagnostics <+: new.diagnostics

theorem Annotates.refl (record : OperationRecord) : Annotates record record :=
  ⟨rfl,rfl,rfl,rfl,rfl,rfl,rfl,rfl,rfl,List.prefix_rfl,List.prefix_rfl⟩

theorem Annotates.trans {a b c : OperationRecord} (first : Annotates a b) (second : Annotates b c) :
    Annotates a c where
  owner := second.owner.trans first.owner
  kind := second.kind.trans first.kind
  reporter := second.reporter.trans first.reporter
  acceptedAt := second.acceptedAt.trans first.acceptedAt
  status := second.status.trans first.status
  changedAt := second.changedAt.trans first.changedAt
  stage := second.stage.trans first.stage
  terminatedAt := second.terminatedAt.trans first.terminatedAt
  history := second.history.trans first.history
  results := first.results.trans second.results
  diagnostics := first.diagnostics.trans second.diagnostics

theorem Annotates.extends {old new : OperationRecord} (annotates : Annotates old new) : Extends old new where
  owner := annotates.owner
  kind := annotates.kind
  reporter := annotates.reporter
  acceptedAt := annotates.acceptedAt
  ranks := (congrArg rank annotates.status).ge
  terminal _ := annotates.status
  changedAt := annotates.changedAt.ge
  history := annotates.history ▸ List.prefix_rfl
  results := annotates.results
  diagnostics := annotates.diagnostics

theorem Annotates.consistent {old new : OperationRecord} (annotates : Annotates old new)
    (consistent : Consistent old) (checks : new.checks = true) : Consistent new where
  checks
  ranks := annotates.history ▸ consistent.ranks
  last := by
    rw [annotates.history,annotates.status]
    exact consistent.last
  observed := by
    rw [annotates.history,annotates.changedAt]
    exact consistent.observed
  staged := annotates.stage ▸ consistent.staged

section Changes

theorem applyChanges_annotates (record final : OperationRecord)
    (changes : List (OperationRecord → OperationRecord))
    (annotate : ∀ change ∈ changes, ∀ record, Annotates record (change record))
    (applied : applyChanges record changes = .ok final) : Annotates record final := by
  induction changes generalizing record with
  | nil => exact Except.ok.inj applied ▸ Annotates.refl record
  | cons change changes ih =>
    simp only [applyChanges] at applied
    split at applied
    · have rest := ih (change record) (fun other member => annotate other (List.mem_cons_of_mem _ member)) applied
      exact (annotate change List.mem_cons_self record).trans rest
    · cases applied

/-- Whatever was stored passed its CHECKs. -/
theorem applyChanges_checks (record final : OperationRecord) (changes : List (OperationRecord → OperationRecord))
    (checks : record.checks = true) (applied : applyChanges record changes = .ok final) :
    final.checks = true := by
  induction changes generalizing record with
  | nil => exact Except.ok.inj applied ▸ checks
  | cons change changes ih =>
    simp only [applyChanges] at applied
    split at applied
    · rename_i admitted
      exact ih (change record) (Bool.and_eq_true_iff.mp admitted).1 applied
    · cases applied

theorem applyChanges_error (record stored offered : OperationRecord)
    (changes : List (OperationRecord → OperationRecord)) (checks : record.checks = true)
    (refused : applyChanges record changes = .error (stored,offered)) :
    stored.checks = true ∧ OperationRecord.admits (some stored) offered = false := by
  induction changes generalizing record with
  | nil => cases refused
  | cons change changes ih =>
    simp only [applyChanges] at refused
    split at refused
    · rename_i admitted
      exact ih (change record) (Bool.and_eq_true_iff.mp admitted).1 refused
    · rename_i inadmissible
      obtain ⟨rfl,rfl⟩ := Prod.mk.inj (Except.error.inj refused)
      exact ⟨checks,Bool.not_eq_true _ ▸ inadmissible⟩

theorem errorChanges_annotate (error : ErrorEnvelope) (now : Timestamp) :
    ∀ change ∈ errorChanges error now, ∀ record, Annotates record (change record) := by
  intro change member record
  simp only [errorChanges,List.mem_cons,List.not_mem_nil,or_false] at member
  rcases member with rfl | rfl
  · exact ⟨rfl,rfl,rfl,rfl,rfl,rfl,rfl,rfl,rfl,List.prefix_rfl,List.prefix_rfl⟩
  · exact ⟨rfl,rfl,rfl,rfl,rfl,rfl,rfl,rfl,rfl,List.prefix_rfl,List.prefix_append _ _⟩

theorem attachments_annotate (report : OperationReported) (now : Timestamp) :
    ∀ change ∈ attachments report now, ∀ record, Annotates record (change record) := by
  intro change member record
  simp only [attachments,List.mem_append,List.mem_map,List.mem_flatMap] at member
  rcases member with ⟨result,_,rfl⟩ | ⟨error,_,inside⟩ | ⟨warning,_,rfl⟩
  · exact ⟨rfl,rfl,rfl,rfl,rfl,rfl,rfl,rfl,rfl,List.prefix_append _ _,List.prefix_rfl⟩
  · exact errorChanges_annotate error now change inside record
  · exact ⟨rfl,rfl,rfl,rfl,rfl,rfl,rfl,rfl,rfl,List.prefix_rfl,List.prefix_append _ _⟩

end Changes

/-- The guard lets an update pass that keeps the status. -/
theorem admits_same_status (record offered : OperationRecord)
    (same : offered.operation.status = record.operation.status) :
    OperationRecord.admits (some record) offered = offered.checks := by
  have guarded : guardStatusTransition record.operation offered.operation = true :=
    (guard_status_transition_iff _ _).mpr (Or.inl same)
  simp [OperationRecord.admits,guarded]

section Annotations

variable (record : OperationRecord) (checks : record.checks = true)

include checks

theorem admits_withProgress (entry : ProgressEntry) :
    OperationRecord.admits (some record) (record.withProgress entry) = entry.checks := by
  rw [admits_same_status record (record.withProgress entry) rfl]
  simp only [OperationRecord.checks,Bool.and_eq_true] at checks
  simp [OperationRecord.checks,OperationRecord.withProgress,List.all_append,checks]

theorem admits_withDiagnostic (payload : Payload) (now : Timestamp) :
    OperationRecord.admits (some record) (record.withDiagnostic payload now) = (diagnostic payload now).checks := by
  rw [admits_same_status record (record.withDiagnostic payload now) rfl]
  simp only [OperationRecord.checks,Bool.and_eq_true] at checks
  simp [OperationRecord.checks,OperationRecord.withDiagnostic,List.all_append,checks]

theorem admits_withRetryable (retryable : Bool) :
    OperationRecord.admits (some record) (record.withRetryable retryable) = true := by
  rw [admits_same_status record (record.withRetryable retryable) rfl]
  exact checks

theorem admits_withResult (result : OperationResultRef) (now : Timestamp) :
    OperationRecord.admits (some record) (record.withResult result now) = true := by
  have named : isDottedName result.resultKind.val = true := (Bool.and_eq_true_iff.mp result.resultKind.property).1
  rw [admits_same_status record (record.withResult result now) rfl]
  simp only [OperationRecord.checks,Bool.and_eq_true] at checks
  simp [OperationRecord.checks,OperationRecord.withResult,OperationResult.checks,List.all_append,checks,named,
    result.target.property]

end Annotations

/-- The changes are made, to any record that passes its CHECKs, exactly when `Fit` holds. -/
def StorableWhen (changes : List (OperationRecord → OperationRecord)) (Fit : Prop) : Prop :=
  ∀ record, record.checks = true → ((∃ final, applyChanges record changes = .ok final) ↔ Fit)

theorem storable_cons (change : OperationRecord → OperationRecord) {changes : List (OperationRecord → OperationRecord)}
    (First : Prop) {Rest : Prop}
    (first : ∀ record, record.checks = true → (OperationRecord.admits (some record) (change record) = true ↔ First))
    (rest : StorableWhen changes Rest) : StorableWhen (change :: changes) (First ∧ Rest) := by
  intro record checks
  simp only [applyChanges]
  split
  · rename_i admitted
    have fit := (first record checks).mp admitted
    rw [rest _ (Bool.and_eq_true_iff.mp admitted).1,and_iff_right fit]
  · rename_i inadmissible
    refine iff_of_false (by simp) fun fit => inadmissible ((first record checks).mpr fit.1)

theorem storable_nil : StorableWhen [] True := fun record _ => iff_of_true ⟨record,rfl⟩ trivial

theorem storable_append {first second : List (OperationRecord → OperationRecord)} {First Second : Prop}
    (one : StorableWhen first First) (two : StorableWhen second Second) :
    StorableWhen (first ++ second) (First ∧ Second) := by
  intro record checks
  rw [applyChanges_append]
  cases made : applyChanges record first with
  | ok middle =>
    have fit := (one record checks).mp ⟨middle,made⟩
    exact (two middle (applyChanges_checks record middle first checks made)).trans (and_iff_right fit).symm
  | error refused =>
    refine iff_of_false (by simp) fun fit => ?_
    obtain ⟨final,applied⟩ := (one record checks).mpr fit.1
    rw [made] at applied
    cases applied

theorem storable_map (items : List α) (change : α → OperationRecord → OperationRecord) (Fit : α → Prop)
    (one : ∀ item record, record.checks = true →
      (OperationRecord.admits (some record) (change item record) = true ↔ Fit item)) :
    StorableWhen (items.map change) (∀ item ∈ items, Fit item) := by
  induction items with
  | nil => simpa using storable_nil
  | cons item items ih => simpa only [List.map_cons,List.forall_mem_cons] using storable_cons (change item) (Fit item) (one item) ih

/-- The texts a report stores in the diagnostics, whose column is narrower than the contract. -/
def OperationReported.messages (report : OperationReported) : List String :=
  (report.error.toList.map fun error => error.message.val) ++ report.warnings.map fun warning => warning.message.val

theorem errorChanges_storable (error : ErrorEnvelope) (now : Timestamp) :
    StorableWhen (errorChanges error now) (isShortSafe error.message.val = true) := by
  have named : isDottedName error.code.val = true := (Bool.and_eq_true_iff.mp error.code.property).1
  have both := storable_cons (fun record => record.withRetryable error.retryable) True
    (fun record checks => iff_of_true (admits_withRetryable record checks error.retryable) trivial)
    (storable_cons (fun record => record.withDiagnostic (.error error) now) (isShortSafe error.message.val = true)
      (fun record checks => by simp [admits_withDiagnostic record checks,Diagnostic.checks,diagnostic,named])
      storable_nil)
  simpa [errorChanges] using both

theorem attachments_storable (report : OperationReported) (now : Timestamp) :
    StorableWhen (attachments report now) (∀ message ∈ report.messages, isShortSafe message = true) := by
  have results := storable_map report.results (fun result record => record.withResult result now)
    (fun _ => True) fun result record checks => iff_of_true (admits_withResult record checks result now) trivial
  have warnings := storable_map report.warnings (fun warning record => record.withDiagnostic (.warning warning) now)
    (fun warning => isShortSafe warning.message.val = true) fun warning record checks => by
      have named : isDottedName warning.code.val = true := (Bool.and_eq_true_iff.mp warning.code.property).1
      simp [admits_withDiagnostic record checks,Diagnostic.checks,diagnostic,named]
  have errors : StorableWhen (report.error.toList.flatMap fun error => errorChanges error now)
      (∀ error ∈ report.error, isShortSafe error.message.val = true) := by
    cases report.error with
    | none => simpa using storable_nil
    | some error => simpa using errorChanges_storable error now
  have all := storable_append results (storable_append errors warnings)
  intro record checks
  rw [attachments,all record checks]
  simp [OperationReported.messages,or_imp,forall_and]

section Admission

variable (record : OperationRecord) (status : OperationStatus) (stage : Option String)
  (percent : Option Nat) (now : Timestamp)

/-- The update of an advance passes the guard and the CHECKs exactly when the stage fits its column. -/
theorem admits_withStatus_iff (checks : record.checks = true) (above : rank record.operation.status < rank status)
    (later : record.operation.statusChangedAt ≤ toOffset now) (bounded : percentIsAPercentage percent = true) :
    OperationRecord.admits (some record) (record.withStatus status stage percent now) = true ↔
      stageIsBounded stage = true := by
  have advances := (apply_advance_iff record.operation.status status status).mpr ⟨rfl,above⟩
  have guarded := guard_status_transition_of_advance record.operation
    (record.withStatus status stage percent now).operation status advances later
  simp only [OperationRecord.admits,Option.all_some,guarded,Bool.and_true]
  simp only [OperationRecord.checks,Operation.checks,Bool.and_eq_true,decide_eq_true_eq] at checks
  obtain ⟨⟨⟨⟨⟨⟨⟨⟨⟨⟨⟨kind,oldStage⟩,oldPercent⟩,correlation⟩,key⟩,reporter⟩,accepted⟩,_⟩,_⟩,progress⟩,results⟩,
    diagnostics⟩ := checks
  have percents : percentIsAPercentage (percent <|> record.operation.progressPercent) = true := by
    cases percent with
    | none => exact oldPercent
    | some => exact bounded
  have terminated : (statusIsTerminal (statusStr status) ==
      (if isTerminal status then some (toOffset now) else none).isSome) = true := by
    rw [status_is_terminal_str]
    cases isTerminal status <;> rfl
  have ended : (if isTerminal status then some (toOffset now) else none).all
      (record.operation.acceptedAt ≤ ·) = true := by
    split
    · simpa using accepted.trans later
    · rfl
  have columns : stageIsBounded (stage <|> record.operation.stage) = true ↔ stageIsBounded stage = true := by
    cases stage with
    | none => exact iff_of_true oldStage rfl
    | some => rfl
  simp only [OperationRecord.checks,OperationRecord.withStatus,Operation.checks,statusUpdate,Bool.and_eq_true,
    decide_eq_true_eq,kind,percents,correlation,key,reporter,accepted.trans later,terminated,progress,results,
    diagnostics,and_true,true_and]
  exact (and_iff_left ended).trans columns

/-- An operation that has not ended can be ended, at any instant since its last change. -/
theorem failChanges_ok (message : String) (error : ErrorEnvelope) (checks : record.checks = true)
    (live : isTerminal record.operation.status = false) (later : record.operation.statusChangedAt ≤ toOffset now)
    (fits : stageIsBounded stage = true) (short : isShortSafe message = true)
    (safe : isShortSafe error.message.val = true) :
    ∃ final, applyChanges record (failChanges stage message error now) = .ok final := by
  have above : rank record.operation.status < rank .failed := ((apply_advance_iff _ _ _).mp (apply_failed _ live)).2
  have updated := (admits_withStatus_iff record .failed stage none now checks above later rfl).mpr fits
  have entry := admits_withProgress (record.withStatus .failed stage none now) (Bool.and_eq_true_iff.mp updated).1
    (progressEntry .failed stage none (some message) now)
  rw [show (progressEntry .failed stage none (some message) now).checks = true by
    simp [progressEntry,ProgressEntry.checks,fits,short,percentIsAPercentage]] at entry
  obtain ⟨final,applied⟩ := (errorChanges_storable error now _ (Bool.and_eq_true_iff.mp entry).1).mpr safe
  refine ⟨final,?_⟩
  simp only [failChanges,advanceChanges,List.cons_append,List.nil_append,applyChanges]
  rw [if_pos updated,if_pos entry]
  exact applied

theorem advanceChanges_ok (final : OperationRecord) (message : Option String) (consistent : Consistent record)
    (above : rank record.operation.status < rank status) (named : stage.all isStage = true)
    (applied : applyChanges record (advanceChanges status stage percent message now) = .ok final) :
    Consistent final ∧ Extends record final ∧ record.operation.statusChangedAt ≤ toOffset now := by
  have checks := applyChanges_checks record final _ consistent.checks applied
  have made := applyChanges_ok record final _ applied
  have guarded : guardStatusTransition record.operation
      (record.withStatus status stage percent now).operation = true := by
    simp only [advanceChanges,applyChanges] at applied
    split at applied
    · rename_i admitted
      exact (Bool.and_eq_true_iff.mp admitted).2
    · cases applied
  obtain later : record.operation.statusChangedAt ≤ toOffset now := by
    rcases (guard_status_transition_iff _ _).mp guarded with same | ⟨_,_,later⟩
    · exact absurd (congrArg rank same) (by simpa [OperationRecord.withStatus,statusUpdate] using above.ne')
    · exact later
  have live : isTerminal record.operation.status = false := by
    have bound := rank_le_terminal status
    cases terminal : isTerminal record.operation.status
    · rfl
    · have top := (is_terminal_iff _).mp terminal
      omega
  -- The entries so far are no higher than the status was, and the new one is above it.
  have lower : ∀ entry ∈ record.progress, rank entry.status ≤ rank record.operation.status := by
    intro entry member
    have ordered := consistent.ranks
    have last := consistent.last
    rcases List.eq_nil_or_concat record.progress with empty | ⟨before,final,split⟩
    · simp [empty] at member
    · rw [split,List.concat_eq_append] at member ordered
      simp only [split,List.concat_eq_append,List.getLast?_append,List.getLast?_singleton,Option.some_or] at last
      simp only [List.map_append,List.pairwise_append,List.map_cons,List.map_nil,List.mem_map,
        List.mem_singleton] at ordered
      rcases List.mem_append.mp member with early | own
      · exact last ▸ (ordered.2.2 _ ⟨entry,early,rfl⟩ _ rfl).le
      · exact (List.mem_singleton.mp own) ▸ (congrArg rank last).le
  simp only [advanceChanges,List.foldl_cons,List.foldl_nil] at made
  subst made
  refine ⟨⟨checks,?_,?_,?_,?_⟩,⟨rfl,rfl,rfl,rfl,above.le,?_,later,List.prefix_append _ _,List.prefix_rfl,
    List.prefix_rfl⟩,later⟩
  · simp only [OperationRecord.withProgress,OperationRecord.withStatus,progressEntry,List.map_append,
      List.pairwise_append,List.map_cons,List.map_nil,List.pairwise_singleton,List.mem_map,List.mem_singleton]
    refine ⟨consistent.ranks,trivial,?_⟩
    rintro _ ⟨entry,member,rfl⟩ _ rfl
    exact (lower entry member).trans_lt above
  · simp [OperationRecord.withProgress,OperationRecord.withStatus,progressEntry,statusUpdate]
  · intro entry member
    rcases List.mem_append.mp member with old | new
    · exact (consistent.observed entry old).trans later
    · obtain rfl := List.mem_singleton.mp new
      exact le_rfl
  · cases stage with
    | none => exact consistent.staged
    | some => exact named
  · intro ended
    rw [live] at ended
    cases ended

end Admission

theorem ok_of_map {ε : Type} {f : α → β} {attempt : Except ε α} {value : β}
    (mapped : attempt.map f = .ok value) : ∃ made, attempt = .ok made ∧ f made = value := by
  cases attempt with
  | error => cases mapped
  | ok made => exact ⟨made,rfl,Except.ok.inj mapped⟩

theorem error_of_map {ε : Type} {f : α → β} {attempt : Except ε α} {failure : ε}
    (mapped : attempt.map f = .error failure) : attempt = .error failure := by
  cases attempt with
  | error => exact congrArg Except.error (Except.error.inj mapped)
  | ok => cases mapped

theorem report_stage_named (report : OperationReported) : (report.stage.map Subtype.val).all isStage = true := by
  cases report.stage with
  | none => rfl
  | some stage => exact stage.property

/-- What a writer makes of a consistent record at an instant. -/
structure Onward (now : Timestamp) (record final : OperationRecord) : Prop where
  consistent : Consistent final
  grown : Extends record final
  dated : final.operation.statusChangedAt = record.operation.statusChangedAt ∨
    final.operation.statusChangedAt = toOffset now

section Outcomes

variable (record final : OperationRecord) (consistent : Consistent record) (now : Timestamp)

include consistent

theorem annotated (changes : List (OperationRecord → OperationRecord))
    (annotate : ∀ change ∈ changes, ∀ record, Annotates record (change record))
    (applied : applyChanges record changes = .ok final) : Onward now record final := by
  have annotates := applyChanges_annotates record final changes annotate applied
  have checks := applyChanges_checks record final changes consistent.checks applied
  exact ⟨annotates.consistent consistent checks,annotates.extends,Or.inl annotates.changedAt⟩

theorem advanced (status : OperationStatus) (stage : Option String) (percent : Option Nat)
    (message : Option String) (changes : List (OperationRecord → OperationRecord))
    (annotate : ∀ change ∈ changes, ∀ record, Annotates record (change record))
    (above : rank record.operation.status < rank status) (named : stage.all isStage = true)
    (applied : applyChanges record (advanceChanges status stage percent message now ++ changes) = .ok final) :
    Onward now record final ∧ final.operation.status = status ∧
      final.operation.statusChangedAt = toOffset now := by
  rw [applyChanges_append] at applied
  cases first : applyChanges record (advanceChanges status stage percent message now) with
  | error refused =>
    rw [first] at applied
    cases applied
  | ok middle =>
    rw [first] at applied
    obtain ⟨valid,onward,_⟩ := advanceChanges_ok record status stage percent now middle message consistent above named first
    have annotates := applyChanges_annotates middle final changes annotate applied
    have checks := applyChanges_checks middle final changes valid.checks applied
    have made := applyChanges_ok record middle _ first
    have reached : middle.operation.status = status ∧ middle.operation.statusChangedAt = toOffset now := by
      rw [made]
      exact ⟨rfl,rfl⟩
    have dated := annotates.changedAt.trans reached.2
    exact ⟨⟨annotates.consistent valid checks,onward.trans annotates.extends,Or.inr dated⟩,
      annotates.status.trans reached.1,dated⟩

theorem handled_ok (report : OperationReported) (outcome : Eventing.Outcome)
    (applied : handled record report now = .ok (outcome,final)) : Onward now record final := by
  have annotate := attachments_annotate report now
  simp only [handled] at applied
  split at applied
  · obtain ⟨rfl,rfl⟩ := Prod.mk.inj (Except.ok.inj applied)
    exact ⟨consistent,Extends.refl record,Or.inl rfl⟩
  · obtain ⟨later,made,same⟩ := ok_of_map applied
    exact annotated record final consistent now _ annotate ((Prod.mk.inj same).2 ▸ made)
  · obtain ⟨later,made,same⟩ := ok_of_map applied
    exact annotated record final consistent now _ annotate ((Prod.mk.inj same).2 ▸ made)
  · rename_i status advances
    obtain ⟨later,made,same⟩ := ok_of_map applied
    obtain ⟨rfl,above⟩ := (apply_advance_iff _ _ _).mp advances
    exact (advanced record final consistent now _ _ _ _ _ annotate above (report_stage_named report)
      ((Prod.mk.inj same).2 ▸ made)).1

end Outcomes

end Ratatoskr.Operations
