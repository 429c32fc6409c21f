import Ratatoskr.Operations.Minting
import Ratatoskr.Operations.Snapshot

/-! The paths that mint operations, the service each of them dispatches to, and whose reports
change an operation afterwards. -/
namespace Ratatoskr.Operations

open Transaction

inductive SocialCaptureProvider where
  | x | instagram | threads
deriving DecidableEq

def extractorProducer : String := "ratatoskr-extractor"

/-- The provider's own service for an explicit social capture, the extractor for everything else. -/
def captureReporter : Option SocialCaptureProvider → String
  | some .x => "ratatoskr-x"
  | some .instagram => "ratatoskr-instagram"
  | some .threads => "ratatoskr-threads"
  | none => extractorProducer

/-- A path that mints an operation, with what its caller decides. -/
inductive Dispatch where
  | capture (social : Option SocialCaptureProvider) (idempotencyKey : String)
  | blobCapture (idempotencyKey : String)
  | subscription (idempotencyKey : String)
  | digestRun (idempotencyKey : String)
  | notesWriteMode (idempotencyKey : String)
  | notesWrite (idempotencyKey : String)
  | siteEdit (idempotencyKey : String)
  | siteRelease (idempotencyKey : String)
  | notesConnect
  /-- The key is qualified by the webhook source. -/
  | webhook (qualified : String)
  /-- Service and kind are those of a registered schedule. -/
  | occurrence (serviceName operationKind occurrenceId : String)
  | archive (idempotencyKey : String) (deviceId : Nat) (provider sha256 : String) (byteSize : Int)

namespace Dispatch

def kind : Dispatch → String
  | capture _ _ | blobCapture _ | webhook _ => "content.capture.submit"
  | subscription _ => "channel_digest.subscription.set"
  | digestRun _ => "channel_digest.run"
  | notesWriteMode _ => "notes.connection.write_mode"
  | notesWrite _ | siteEdit _ => "notes.file.write"
  | siteRelease _ => "sites.release.build"
  | notesConnect => "notes.connection.connect"
  | occurrence _ operationKind _ => operationKind
  | archive .. => "ai_archive.import"

def idempotencyKey : Dispatch → Option String
  | notesConnect => none
  | capture _ key | blobCapture key | subscription key | digestRun key | notesWriteMode key | notesWrite key
  | siteEdit key | siteRelease key | webhook key | occurrence _ _ key | archive key _ _ _ _ => some key

/-- The reporter passed to `accept`; a registering service counts where the kind lists it. -/
def reporter : Dispatch → Option String
  | capture social _ => some (captureReporter social)
  | blobCapture _ | webhook _ => some extractorProducer
  | subscription _ | digestRun _ => some "ratatoskr-channel-digests"
  | notesWriteMode _ | notesWrite _ | siteEdit _ | notesConnect => some "ratatoskr-notes"
  | siteRelease _ => some "ratatoskr-sites"
  | occurrence serviceName operationKind _ => (some serviceName).filter (allows operationKind)
  | archive .. => none

end Dispatch

/-- A minting transaction: the path it takes, for whom and when. -/
structure Minted where
  dispatch : Dispatch
  operationId : OperationId
  ownerUserId : UserId
  correlationId : String
  now : Timestamp

namespace Minted

/-- The binding an archive is accepted with. -/
def acceptance (minted : Minted) : Option AiArchiveAcceptance :=
  match minted.dispatch with
  | .archive _ deviceId provider sha256 byteSize =>
    some ⟨minted.ownerUserId,deviceId,provider,sha256,byteSize,toOffset minted.now⟩
  | _ => none

def writer (minted : Minted) : Writer :=
  .mint minted.operationId minted.ownerUserId minted.dispatch.kind minted.correlationId
    minted.dispatch.idempotencyKey minted.dispatch.reporter minted.acceptance minted.now

/-- The one service the operation is dispatched to. -/
def service (minted : Minted) : Option String :=
  match minted.acceptance with
  | some binding => (providerLane binding.provider).map Prod.snd
  | none => minted.dispatch.reporter

/-- The envelope names the owner as its tenant. -/
def NamesOwner (minted : Minted) (message : Eventing.Incoming Envelope) : Prop :=
  ∃ raw, message.payload.tenantId = some raw ∧ TenantRef.parse raw = some minted.ownerUserId

/-- The message is from the operation's service and for its owner: by the authority table and the
recorded reporter, or by the lane of the bound provider, whose reports may leave the tenant out. -/
def Reports (minted : Minted) (message : Eventing.Incoming Envelope) : Prop :=
  minted.service = some message.producer ∧
    match minted.acceptance with
    | none => allows minted.dispatch.kind message.producer = true ∧ minted.NamesOwner message
    | some binding =>
      providerLane binding.provider = some (message.subject,message.producer) ∧
        (minted.NamesOwner message ∨ message.payload.tenantId = none)

/-- An occurrence of the kind that an acceptance binds, which an occurrence does not have. -/
def Unbound (minted : Minted) : Prop :=
  ∃ serviceName occurrenceId, minted.dispatch = .occurrence serviceName "ai_archive.import" occurrenceId

/-- The rows of the operation still say how it was minted. -/
structure Describes (minted : Minted) (rows : Db) (record : OperationRecord) : Prop where
  kind : record.operation.kind = minted.dispatch.kind
  owner : record.operation.ownerUserId = minted.ownerUserId
  reporter : record.operation.reporter = minted.dispatch.reporter
  acceptance : rows (.archiveAcceptance minted.operationId) = minted.acceptance

/-- The transaction is the one of the run that created its operation. -/
def In (minted : Minted) (actions : List Action) : Prop := ∃ before after rows,
  actions = before ++ .write minted.writer :: after ∧ StateMachine.run serve noRows before = some rows ∧
    rows (.operation minted.operationId) = none ∧
    (step rows (.write minted.writer) (.operation minted.operationId)).isSome

theorem In.append {minted : Minted} {actions : List Action} (made : minted.In actions) (more : List Action) :
    minted.In (actions ++ more) := by
  obtain ⟨before,after,rows,rfl,rest⟩ := made
  exact ⟨before,after ++ more,rows,by simp,rest⟩

theorem unbound_of_kind (minted : Minted) (free : minted.acceptance = none)
    (kind : minted.dispatch.kind = "ai_archive.import") : minted.Unbound := by
  cases dispatch : minted.dispatch with
  | occurrence serviceName operationKind occurrenceId =>
    rw [dispatch] at kind
    obtain rfl : operationKind = "ai_archive.import" := kind
    exact ⟨serviceName,occurrenceId,dispatch⟩
  | archive => simp [acceptance,dispatch] at free
  | _ =>
    rw [dispatch] at kind
    simp [Dispatch.kind] at kind

theorem acceptance_owner (minted : Minted) (binding : AiArchiveAcceptance) (accepted : minted.acceptance = some binding) :
    binding.ownerUserId = minted.ownerUserId := by
  cases dispatch : minted.dispatch <;> simp [acceptance,dispatch] at accepted
  rw [← accepted]

theorem acceptance_reporter (minted : Minted) (binding : AiArchiveAcceptance)
    (accepted : minted.acceptance = some binding) : minted.dispatch.reporter = none := by
  cases dispatch : minted.dispatch <;> simp [acceptance,dispatch] at accepted
  rfl

/-- A bound report is one of the operation's service. -/
theorem Describes.reports {minted : Minted} {rows : Db} {record : OperationRecord} (described : minted.Describes rows record)
    (message : Eventing.Incoming Envelope)
    (bound : isBound message record.operation (rows (.archiveAcceptance minted.operationId)) = true) :
    minted.Unbound ∧ minted.NamesOwner message ∨ minted.Reports message := by
  obtain ⟨kind,owner,reporter,acceptance⟩ := described
  have own : Operations.binding record.operation minted.acceptance = minted.acceptance := by
    cases accepted : minted.acceptance with
    | none => rfl
    | some binding => simp [Operations.binding,minted.acceptance_owner binding accepted,owner]
  rw [acceptance,isBound,own,kind,owner,reporter,Bool.and_eq_true] at bound
  obtain ⟨authorized,lane⟩ := bound
  have allowed := (authorize_iff _ _ _ _ _ _).mp authorized
  cases accepted : minted.acceptance with
  | none =>
    rcases allowed with ⟨listed,recorded,named⟩ | ⟨free,named | ⟨_,bound⟩⟩
    · refine Or.inr ⟨?_,?_⟩
      · simpa [service,accepted] using recorded
      · simpa [accepted] using ⟨listed,named⟩
    · exact Or.inl ⟨unbound_of_kind minted accepted ((provider_bound_iff _).mp free),named⟩
    · rw [accepted] at bound
      cases bound
  | some binding =>
    rw [accepted] at lane
    dsimp only at lane
    have own : providerLane binding.provider = some (message.subject,message.producer) := by
      split at lane
      · rename_i subject producer row
        simp only [Bool.and_eq_true,beq_iff_eq] at lane
        rw [row,lane.1,lane.2]
      · cases lane
    have unlisted := minted.acceptance_reporter binding accepted
    refine Or.inr ⟨by simp [service,accepted,own],?_⟩
    rw [accepted]
    refine ⟨own,?_⟩
    rcases allowed with ⟨_,recorded,_⟩ | ⟨_,named | ⟨absent,_⟩⟩
    · rw [unlisted] at recorded
      cases recorded
    · exact Or.inl named
    · exact Or.inr absent

end Minted

/-- No operation and no acceptance comes or goes. -/
structure Upkeep (rows later : Db) : Prop where
  absent : ∀ operationId, rows (.operation operationId) = none → later (.operation operationId) = none
  acceptance : ∀ operationId, later (.archiveAcceptance operationId) = rows (.archiveAcceptance operationId)

theorem Upkeep.refl (rows : Db) : Upkeep rows rows := ⟨fun _ absent => absent,fun _ => rfl⟩

theorem Upkeep.trans {a b c : Db} (first : Upkeep a b) (second : Upkeep b c) : Upkeep a c :=
  ⟨fun id absent => second.absent id (first.absent id absent),
    fun id => (second.acceptance id).trans (first.acceptance id)⟩

section Upkeep

variable (rows : Db) (operationId : OperationId)

/-- A body that stays on the row of one operation, and commits nothing where there is none. -/
theorem upkeep_of_own (body : Tx TableRow β α) (within : Within (Own operationId) body)
    (idle : rows (.operation operationId) = none → (exec schema body rows).publish rows = rows) :
    Upkeep rows ((exec schema body rows).publish rows) := by
  cases ended : exec schema body rows with
  | abandoned | refused => exact Upkeep.refl rows
  | done value later =>
    rw [ended] at idle
    have frame (key : Table) (other : key ≠ .operation operationId) : later key = rows key :=
      exec_within _ _ _ _ within _ _ ended key other
    refine ⟨fun id absent => ?_,fun id => frame _ nofun⟩
    by_cases same : id = operationId
    · subst same
      exact (congrFun (idle absent) _).trans absent
    · exact (frame _ fun equal => same (Table.operation.inj equal)).trans absent

theorem upkeep_reconcileOne (cutoff : Int) (now : Timestamp) :
    Upkeep rows ((exec schema (reconcileOne operationId cutoff now) rows).publish rows) := by
  refine upkeep_of_own rows operationId _ (within_reconcileOne operationId cutoff now) fun absent => ?_
  rw [exec_reconcileOne_skip rows operationId now cutoff (by rw [absent]; rfl)]
  rfl

theorem upkeep_failOperation (stage message : String) (error : Except OperationError ErrorEnvelope) (now : Timestamp) :
    Upkeep rows ((exec schema (failOperation operationId stage message error now) rows).publish rows) := by
  refine upkeep_of_own rows operationId _ (within_failOperation operationId stage message error now) fun absent => ?_
  rw [exec_fail_absent rows operationId now absent]
  rfl

theorem upkeep_requestCancellation (ownerUserId : UserId) (now : Timestamp) :
    Upkeep rows ((exec schema (requestCancellation operationId ownerUserId now) rows).publish rows) := by
  refine upkeep_of_own rows operationId _ (within_requestCancellation operationId ownerUserId now) fun absent => ?_
  simp only [requestCancellation,Tx.bind_eq,exec_bind,exec_selectForUpdate,absent,Option.filter_none,Outcome.done_bind]
  rfl

end Upkeep

theorem upkeep_reconcileAll (cutoff : Int) (now : Timestamp) (operationIds : List OperationId) (report : Report)
    (rows : Db) : Upkeep rows (reconcileAll cutoff now report operationIds rows).1 := by
  induction operationIds generalizing rows report with
  | nil => exact Upkeep.refl rows
  | cons operationId operationIds ih =>
    have first := upkeep_reconcileOne rows operationId cutoff now
    simp only [reconcileAll]
    cases outcome : exec schema (reconcileOne operationId cutoff now) rows with
    | done value later =>
      rw [outcome] at first
      exact first.trans (ih _ later)
    | abandoned answer =>
      cases answer with
      | ok => exact ih _ rows
      | error => exact Upkeep.refl rows
    | refused => exact Upkeep.refl rows

theorem publish_adapt (rows : Db) (body : Tx TableRow β α) (answer : β → γ) (result : α → δ) :
    (exec schema (body.adapt answer result) rows).publish rows = (exec schema body rows).publish rows := by
  rw [exec_adapt]
  cases exec schema body rows <;> rfl

/-- A report changes at most the record of the operation that it names and is bound to. -/
theorem step_report_cases (rows : Db) (message : Eventing.Incoming Envelope) (now : Timestamp) :
    step rows (.write (.report message now)) = rows ∨
      ∃ report record final, ProgressReport.read message.payload = some report ∧
        rows (.operation report.operationId) = some record ∧ boundAt rows message report.operationId = true ∧
        step rows (.write (.report message now)) =
          Function.update rows (.operation report.operationId) (some final) := by
  have unwritten {outcome : Eventing.Outcome} (ended : exec schema (handle (ε := Unit) message now) rows = .done outcome rows) :
      step rows (.write (.report message now)) = rows := by
    simp only [step,Writer.program,publish_adapt,ended]
    rfl
  cases read : ProgressReport.read message.payload with
  | none => exact Or.inl (unwritten (exec_handle_unread rows message now read))
  | some report =>
    cases bound : boundAt rows message report.operationId with
    | false => exact Or.inl (unwritten (exec_handle_unbound rows message now report read bound))
    | true =>
      obtain ⟨record,found⟩ := found_of_bound bound
      rw [step_report now read bound record found]
      rcases handled record report now with _ | ⟨outcome,final⟩
      · exact Or.inl rfl
      · exact Or.inr ⟨report,record,final,rfl,found,bound,rfl⟩

/-- The action is no mint, or one of the minting paths. -/
def Action.Dispatched : Action → Prop
  | .write (.mint operationId ownerUserId kind correlationId key reporter acceptance now) =>
    ∃ minted : Minted, minted.writer = .mint operationId ownerUserId kind correlationId key reporter acceptance now
  | _ => True

theorem upkeep_step (rows : Db) (action : Action) (unminted : ∀ minted : Minted, action ≠ .write minted.writer)
    (dispatched : action.Dispatched) : Upkeep rows (step rows action) := by
  cases action with
  | pass table staleAfter batch now => exact upkeep_reconcileAll _ now _ _ rows
  | write writer =>
    cases writer with
    | mint =>
      obtain ⟨minted,same⟩ := dispatched
      exact absurd (congrArg Action.write same.symm) (unminted minted)
    | report message now =>
      rcases step_report_cases rows message now with same | ⟨report,record,final,_,found,_,same⟩
      · rw [same]
        exact Upkeep.refl rows
      · rw [same]
        refine ⟨fun id absent => (Function.update_of_ne (fun equal => ?_) _ _).trans absent,fun id => rfl⟩
        rw [Table.operation.inj equal,found] at absent
        cases absent
    | reconcile operationId cutoff now =>
      simp only [step,Writer.program,publish_adapt]
      exact upkeep_reconcileOne rows operationId cutoff now
    | archiveDelivery operationId now =>
      simp only [step,Writer.program,publish_adapt]
      exact upkeep_failOperation rows operationId _ _ _ now
    | notesForward operationId forward code retryable now =>
      simp only [step,Writer.program,publish_adapt]
      exact upkeep_failOperation rows operationId _ _ _ now
    | cancel operationId ownerUserId now =>
      simp only [step,Writer.program,publish_adapt]
      exact upkeep_requestCancellation rows operationId ownerUserId now

/-- Every stored operation goes back to the transaction that minted it, and an acceptance to its operation. -/
structure Traced (past : List Action) (rows : Db) : Prop where
  origin : ∀ operationId record, rows (.operation operationId) = some record →
    ∃ minted : Minted, minted.operationId = operationId ∧ minted.In past ∧ minted.Describes rows record
  orphan : ∀ operationId, rows (.operation operationId) = none → rows (.archiveAcceptance operationId) = none

/-- What a minting path leaves: nothing new, or its operation as it describes it. -/
theorem step_minted (rows : Db) (minted : Minted)
    (orphan : ∀ operationId, rows (.operation operationId) = none → rows (.archiveAcceptance operationId) = none) :
    step rows (.write minted.writer) = rows ∨
      rows (.operation minted.operationId) = none ∧
      (∃ record, step rows (.write minted.writer) (.operation minted.operationId) = some record ∧
        minted.Describes (step rows (.write minted.writer)) record) ∧
      ∀ other, other ≠ minted.operationId →
        step rows (.write minted.writer) (.operation other) = rows (.operation other) ∧
        step rows (.write minted.writer) (.archiveAcceptance other) = rows (.archiveAcceptance other) := by
  cases ended : exec schema minted.writer.program rows with
  | abandoned | refused => exact Or.inl (by rw [step,ended]; rfl)
  | done value later =>
    have stepped : step rows (.write minted.writer) = later := by rw [step,ended]; rfl
    rw [stepped]
    obtain ⟨⟨acceptable,bindable⟩,rfl⟩ := (exec_mint_done _ _ _ _ _ _ _ _ _ _).mp ended
    refine Or.inr ⟨acceptable.fresh,?_,?_⟩
    · have own := mintedRows_own rows minted.operationId minted.ownerUserId minted.dispatch.kind minted.correlationId
        minted.dispatch.idempotencyKey minted.dispatch.reporter minted.acceptance minted.now
      refine ⟨_,own.1,rfl,rfl,rfl,own.2.trans ?_⟩
      cases minted.acceptance with
      | none => exact orphan _ acceptable.fresh
      | some => rfl
    · exact fun other different => mintedRows_other rows minted.operationId minted.ownerUserId minted.dispatch.kind
        minted.correlationId minted.dispatch.idempotencyKey minted.dispatch.reporter minted.acceptance minted.now other different

theorem traced_step {past : List Action} {rows : Db} (traced : Traced past rows) (valid : Valid rows)
    (reached : StateMachine.run serve noRows past = some rows) (action : Action) (dispatched : action.Dispatched) :
    Traced (past ++ [action]) (step rows action) := by
  have kept (upkeep : Upkeep rows (step rows action)) : Traced (past ++ [action]) (step rows action) := by
    refine ⟨fun id new found => ?_,fun id absent => ?_⟩
    · obtain ⟨record,stored⟩ : ∃ record, rows (.operation id) = some record := by
        refine Option.ne_none_iff_exists'.mp fun absent => ?_
        rw [upkeep.absent id absent] at found
        cases found
      obtain ⟨minted,rfl,made,described⟩ := traced.origin id record stored
      obtain ⟨later,same,extends_⟩ := (step_moves rows action valid).grows _ record stored
      obtain rfl : later = new := Option.some.inj (same.symm.trans found)
      exact ⟨minted,rfl,made.append _,extends_.kind.trans described.kind,extends_.owner.trans described.owner,
        extends_.reporter.trans described.reporter,(upkeep.acceptance _).trans described.acceptance⟩
    · refine (upkeep.acceptance id).trans (traced.orphan id ?_)
      refine Option.eq_none_iff_forall_ne_some.mpr fun record stored => ?_
      obtain ⟨later,same,_⟩ := (step_moves rows action valid).grows _ record stored
      rw [absent] at same
      cases same
  by_cases mints : ∃ minted : Minted, action = .write minted.writer
  · obtain ⟨minted,rfl⟩ := mints
    rcases step_minted rows minted traced.orphan with same | ⟨fresh,⟨record,stored,described⟩,others⟩
    · exact kept (by rw [same]; exact Upkeep.refl rows)
    · refine ⟨fun id new found => ?_,fun id absent => ?_⟩
      · by_cases own : id = minted.operationId
        · subst own
          obtain rfl : record = new := Option.some.inj (stored.symm.trans found)
          exact ⟨minted,rfl,⟨past,[],rows,rfl,reached,fresh,by rw [stored]; rfl⟩,described⟩
        · rw [(others id own).1] at found
          obtain ⟨earlier,rfl,made,same⟩ := traced.origin id new found
          exact ⟨earlier,rfl,made.append _,same.kind,same.owner,same.reporter,(others _ own).2.trans same.acceptance⟩
      · by_cases own : id = minted.operationId
        · subst own
          rw [stored] at absent
          cases absent
        · exact (others id own).2.trans (traced.orphan id ((others id own).1.symm.trans absent))
  · exact kept (upkeep_step rows action (fun minted same => mints ⟨minted,same⟩) dispatched)

theorem traced_run {past : List Action} {rows : Db} (traced : Traced past rows) (valid : Valid rows)
    (reached : StateMachine.run serve noRows past = some rows) (actions : List Action) (later : Db)
    (dispatched : ∀ action ∈ actions, action.Dispatched) (ran : StateMachine.run serve rows actions = some later) :
    Traced (past ++ actions) later := by
  induction actions generalizing past rows with
  | nil =>
    obtain rfl := Option.some.inj ran
    simpa using traced
  | cons action actions ih =>
    obtain ⟨next,served,rest⟩ := (StateMachine.run_cons_eq_some _ _ _ _ _).mp ran
    obtain rfl := Option.some.inj served
    have stepped := traced_step traced valid reached action (dispatched action List.mem_cons_self)
    have onward := ih stepped (step_moves rows action valid).valid
      ((StateMachine.run_append_eq_some _ _ _ _ _).mpr ⟨rows,reached,by simp [StateMachine.run,serve]⟩)
      (fun other member => dispatched other (List.mem_cons_of_mem _ member)) rest
    simpa using onward

/-- A delivered report leaves every row as it is, or it is for the owner and from the service that its
operation was minted for, and the record of that operation is all it changes. -/
def OnlyItsService (actions : List Action) (rows : Db) (message : Eventing.Incoming Envelope) (now : Timestamp) : Prop :=
  step rows (.write (.report message now)) = rows ∨
    ∃ report, ∃ minted : Minted, ProgressReport.read message.payload = some report ∧ minted.operationId = report.operationId ∧
      minted.In actions ∧ (minted.Unbound ∧ minted.NamesOwner message ∨ minted.Reports message) ∧
      ∀ key, key ≠ .operation report.operationId →
        step rows (.write (.report message now)) key = rows key

section Archive

/-- A chat archive accepted for user 1. -/
def archived : Minted :=
  ⟨.archive "key" 7 "chatgpt" "00112233445566778899aabbccddeeff00112233445566778899aabbccddeeff" 1,0,1,"request:1",0⟩

def importing : Eventing.Incoming Envelope :=
  ⟨5,"evt.ai-archive.chatgpt.operation.reported.v1","ratatoskr-chatgpt",none,
    some ⟨0,.running,none,none,[],none,[]⟩⟩

end Archive

end Ratatoskr.Operations
