import Ratatoskr.Operations.History

/-! Everything that writes the record of an operation, each writer alone. -/
namespace Ratatoskr.Operations

open Transaction

/-- The part of every minting transaction that concerns the operation: it is accepted and, for an
archive, bound to its provider. -/
def mint (operationId : OperationId) (ownerUserId : UserId) (kind correlationId : String)
    (idempotencyKey reporter : Option String) (acceptance : Option AiArchiveAcceptance) (now : Timestamp) :
    Tx TableRow Unit Unit := do
  match ← accept operationId ownerUserId kind correlationId idempotencyKey reporter now with
  | .error _ => .abandon ()
  | .ok _ =>
    match acceptance with
    | none => pure ()
    | some acceptance => recordAiArchiveAcceptance operationId acceptance

/-- A transaction that writes the record of one operation, with its arguments. -/
inductive Writer where
  | mint (operationId : OperationId) (ownerUserId : UserId) (kind correlationId : String)
      (idempotencyKey reporter : Option String) (acceptance : Option AiArchiveAcceptance) (now : Timestamp)
  | report (message : Eventing.Incoming Envelope) (now : Timestamp)
  | reconcile (operationId : OperationId) (cutoff : Int) (now : Timestamp)
  | archiveDelivery (operationId : OperationId) (now : Timestamp)
  | notesForward (operationId : OperationId) (forward : Forward) (code : ErrorCode) (retryable : Bool)
      (now : Timestamp)
  | cancel (operationId : OperationId) (ownerUserId : UserId) (now : Timestamp)

/-- What a caller passes to `recordStatus`. -/
structure StatusCall where
  operationId : OperationId
  incoming : OperationStatus
  stage : Option String
  progressPercent : Option Nat
  now : Timestamp

def StatusCall.update (call : StatusCall) (record : OperationRecord) : OperationRecord :=
  record.withStatus call.incoming call.stage call.progressPercent call.now

/-- The call makes an advance out of this record, with a clock that has not gone back. -/
def StatusCall.Advances (call : StatusCall) (record : OperationRecord) : Prop :=
  apply record.operation.status call.incoming = .advance call.incoming ∧
    record.operation.statusChangedAt ≤ toOffset call.now

/-- What the projection passes on from a report. -/
def OperationReported.call (report : OperationReported) (now : Timestamp) : StatusCall :=
  ⟨report.operationId,report.status,report.stage.map Subtype.val,report.progressPercent.map ProgressPercent.value,
    now⟩

/-- The contract bounds the percentage of a report. -/
theorem report_percent_bounded (report : OperationReported) (now : Timestamp) :
    percentIsAPercentage (report.call now).progressPercent = true := by
  simp only [OperationReported.call]
  cases report.progressPercent with
  | none => rfl
  | some percent => simpa [percentIsAPercentage] using percent.bounded

namespace Writer

def program : Writer → Tx TableRow Unit Unit
  | mint operationId ownerUserId kind correlationId idempotencyKey reporter acceptance now =>
    Operations.mint operationId ownerUserId kind correlationId idempotencyKey reporter acceptance now
  | report message now => (handle (ε := Unit) message now).adapt id fun _ => ()
  | reconcile operationId cutoff now => (reconcileOne operationId cutoff now).adapt (fun _ => ()) fun _ => ()
  | archiveDelivery operationId now => (failAiArchiveDelivery operationId now).adapt (fun _ => ()) id
  | notesForward operationId forward code retryable now =>
    (failNotesForward operationId forward.stage forward.message code retryable now).adapt (fun _ => ()) id
  | cancel operationId ownerUserId now =>
    (requestCancellation operationId ownerUserId now).adapt (fun _ => ()) fun _ => ()

def now : Writer → Timestamp
  | mint _ _ _ _ _ _ _ now => now
  | report _ now => now
  | reconcile _ _ now => now
  | archiveDelivery _ now => now
  | notesForward _ _ _ _ now => now
  | cancel _ _ now => now

def call : Writer → Option StatusCall
  | report message now => (ProgressReport.read message.payload).map fun report => report.call now
  | reconcile operationId _ now => some ⟨operationId,.failed,none,none,now⟩
  | archiveDelivery operationId now => some ⟨operationId,.failed,some "delivery",none,now⟩
  | notesForward operationId forward _ _ now => some ⟨operationId,.failed,some forward.stage,none,now⟩
  | _ => none

end Writer

/-- Every stored operation is consistent. -/
def Valid (rows : Db) : Prop := ∀ operationId record, rows (.operation operationId) = some record → Consistent record

/-- Every stored operation stays, and only moves on. -/
def Grows (rows later : Db) : Prop := ∀ operationId record, rows (.operation operationId) = some record →
  ∃ new, later (.operation operationId) = some new ∧ Extends record new

theorem Grows.refl (rows : Db) : Grows rows rows := fun _ record found => ⟨record,found,Extends.refl record⟩

theorem Grows.trans {a b c : Db} (first : Grows a b) (second : Grows b c) : Grows a c := by
  intro operationId record found
  obtain ⟨middle,kept,onward⟩ := first operationId record found
  obtain ⟨new,still,further⟩ := second operationId middle kept
  exact ⟨new,still,onward.trans further⟩

/-- Every status that changed did so at this instant. -/
def Dated (now : Timestamp) (rows later : Db) : Prop := ∀ operationId new, later (.operation operationId) = some new →
  (∃ old, rows (.operation operationId) = some old ∧
    new.operation.statusChangedAt = old.operation.statusChangedAt) ∨
  new.operation.statusChangedAt = toOffset now

/-- What the commit of a writer does to the operations. -/
structure Moves (now : Timestamp) (rows later : Db) : Prop where
  valid : Valid later
  grows : Grows rows later
  dated : Dated now rows later

theorem Moves.refl {rows : Db} (valid : Valid rows) (now : Timestamp) : Moves now rows rows :=
  ⟨valid,Grows.refl rows,fun _ new found => Or.inl ⟨new,found,rfl⟩⟩

/-- The refused statement is the update of this call, and the call's stage is why. -/
def Overlong (call : StatusCall) (refusal : Refusal TableRow) : Prop :=
  ∀ record, refusal = ⟨.operation call.operationId,some record,call.update record⟩ → call.Advances record →
    stageIsBounded call.stage = false

/-- How a writer may end: with rows that moved on, or with none of its writes kept. -/
def Kept (now : Timestamp) (call : Option StatusCall) (rows : Db) : Transaction.Outcome TableRow β α → Prop
  | .done _ later => Moves now rows later
  | .abandoned _ => True
  | .refused refusal => ∀ made, call = some made → Overlong made refusal

theorem kept_adapt (now : Timestamp) (call : Option StatusCall) (rows : Db) (answer : β → γ) (result : α → δ)
    (outcome : Transaction.Outcome TableRow β α) (kept : Kept now call rows outcome) :
    Kept now call rows (outcome.adapt answer result) := by
  cases outcome <;> exact kept

section Record

variable {rows : Db} (valid : Valid rows) (operationId : OperationId) (record : OperationRecord)
  (found : rows (.operation operationId) = some record)

include valid found

theorem moves_update (now : Timestamp) (final : OperationRecord) (onward : Onward now record final) :
    Moves now rows (Function.update rows (.operation operationId) (some final)) := by
  have apart {other : OperationId} (different : other ≠ operationId) :
      Table.operation other ≠ .operation operationId := fun equal => different (Table.operation.inj equal)
  refine ⟨fun other stored at_ => ?_,fun other stored at_ => ?_,fun other new at_ => ?_⟩
  · by_cases same : other = operationId
    · subst same
      rw [Function.update_self] at at_
      exact Option.some.inj at_ ▸ onward.consistent
    · rw [Function.update_of_ne (apart same)] at at_
      exact valid other stored at_
  · by_cases same : other = operationId
    · subst same
      obtain rfl : record = stored := Option.some.inj (found.symm.trans at_)
      exact ⟨final,Function.update_self _ _ _,onward.grown⟩
    · refine ⟨stored,?_,Extends.refl stored⟩
      rwa [Function.update_of_ne (apart same)]
  · by_cases same : other = operationId
    · subst same
      rw [Function.update_self] at at_
      obtain rfl := Option.some.inj at_
      exact onward.dated.imp_left fun kept => ⟨record,found,kept⟩
    · rw [Function.update_of_ne (apart same)] at at_
      exact Or.inl ⟨new,at_,rfl⟩

/-- A constraint can refuse the update of a call for its stage only. -/
theorem overlong_of_error (call : StatusCall) (bounded : percentIsAPercentage call.progressPercent = true)
    (changes : List (OperationRecord → OperationRecord)) (stored offered : OperationRecord)
    (refused : applyChanges record changes = .error (stored,offered)) :
    Overlong call ⟨.operation operationId,some stored,offered⟩ := by
  obtain ⟨checks,inadmissible⟩ :=
    applyChanges_error record stored offered changes (valid _ _ found).checks refused
  rintro old same ⟨advances,later⟩
  obtain ⟨rfl,rfl,rfl⟩ : operationId = call.operationId ∧ stored = old ∧ offered = call.update old := by
    simpa using same
  have exact_ := admits_withStatus_iff stored call.incoming call.stage call.progressPercent call.now checks
    ((apply_advance_iff _ _ _).mp advances).2 later bounded
  exact Bool.eq_false_iff.mpr fun fits => by simp [StatusCall.update,exact_.mpr fits] at inadmissible

theorem kept_project (report : OperationReported) (now : Timestamp) (own : report.operationId = operationId) :
    Kept now (some (report.call now)) rows
      (exec schema (project report now : Tx TableRow β _) rows) := by
  subst own
  rw [exec_project rows now report record found]
  split
  · rename_i outcome final applied
    exact moves_update valid report.operationId record found now final
      (handled_ok record final (valid _ _ found) now report outcome applied)
  · rename_i stored offered refused
    intro made same
    obtain rfl := Option.some.inj same
    simp only [handled] at refused
    split at refused
    · cases refused
    all_goals
      have refused := error_of_map refused
      exact overlong_of_error valid report.operationId record found (report.call now)
        (report_percent_bounded report now) _ _ _ refused

theorem kept_fail (stage : Option String) (message : String) (error : ErrorEnvelope) (now : Timestamp)
    (value : α) (live : isTerminal record.operation.status = false) (named : stage.all isStage = true) :
    Kept now (some ⟨operationId,.failed,stage,none,now⟩) rows
      (match applyChanges record (failChanges stage message error now) with
      | .ok final => .done value (Function.update rows (.operation operationId) (some final))
      | .error (stored,offered) => .refused ⟨.operation operationId,some stored,offered⟩ :
        Transaction.Outcome TableRow β α) := by
  have above : rank record.operation.status < rank .failed :=
    ((apply_advance_iff _ _ _).mp (apply_failed _ live)).2
  split
  · rename_i final applied
    exact moves_update valid operationId record found now final
      (advanced record final (valid _ _ found) now _ _ _ _ _ (errorChanges_annotate error now) above named applied).1
  · rename_i stored offered refused
    intro made same
    obtain rfl := Option.some.inj same
    exact overlong_of_error valid operationId record found _ rfl _ _ _ refused

end Record

end Ratatoskr.Operations
