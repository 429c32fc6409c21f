import Ratatoskr.Operations.Interleaving
import Ratatoskr.PublicApi.Intake

/-! Cancelling an operation beside the reports that are projected onto it. The marker and the command to
the owning service are one transaction. -/
set_option linter.unusedSectionVars false

namespace Ratatoskr.PublicApi

open Operations Transaction

def cancelSubject : String := "cmd.platform.operation.cancel_requested.v1"

/-- What the envelope of a cancel command is built from. -/
structure CancelCommand where
  operationId : OperationId
  principal : UserId
  correlationId : String
  requestedAt : Timestamp

/-- A request to cancel, with the ids it draws. -/
structure CancelRequest where
  operationId : OperationId
  userId : UserId
  sessionId : Nat
  now : Timestamp
  outboxId : Nat
  messageId : MessageId
  auditEventId : Nat

section Handler

-- `wire` is the text of the envelope.
variable (wire : CancelCommand → String) (request : CancelRequest)

def CancelRequest.command (recorded : Operation) : CancelCommand :=
  ⟨request.operationId,request.userId,recorded.correlationId,request.now⟩

def CancelRequest.event (recorded : Operation) : AuditEvent where
  actorUserId := some request.userId
  actorSessionId := some request.sessionId
  action := "platform.operation.cancel_requested"
  targetKind := "operation"
  targetId := some request.operationId
  outcome := .allowed
  correlationId := recorded.correlationId
  occurredAt := toOffset request.now

def CancelRequest.row (recorded : Operation) : Eventing.OutboxRow :=
  Eventing.Outbox.enqueuedRow request.outboxId request.messageId cancelSubject (wire (request.command recorded))
    (some request.operationId) request.now

/-- `POST /v1/operations/{operation_id}/cancel`: one command per request recorded. -/
def CancelRequest.cancel : Tx TableRow OperationError Cancellation := do
  let outcome ← requestCancellation request.operationId request.userId request.now
  match outcome with
  | .requested recorded => do
    let _ ← Eventing.Outbox.enqueue request.outboxId request.messageId cancelSubject (wire (request.command recorded))
      (some request.operationId) request.now
    AuditEvent.record request.auditEventId (request.event recorded)
    pure outcome
  | _ => pure outcome

end Handler

inductive CancelJob where
  | cancel (request : CancelRequest)
  | report (message : Eventing.Incoming Envelope) (now : Timestamp)

/-- A report answers nothing to the client. -/
def CancelJob.program (wire : CancelCommand → String) : CancelJob → Tx TableRow OperationError (Option Cancellation)
  | cancel request => do
    let outcome ← request.cancel wire
    pure (some outcome)
  | report message now => do
    let _ ← handle message now
    pure none

/-- The message that a transaction enqueues, where it enqueues one. -/
def CancelJob.messageId : CancelJob → Option MessageId
  | cancel request => some request.messageId
  | report _ _ => none

section Commits

def OperationRecord.marked (record : OperationRecord) (now : Timestamp) : OperationRecord :=
  { record with operation := { record.operation with cancellationRequestedAt := some (toOffset now) } }

/-- A report moves the record on and leaves the marker alone. -/
structure Reports (record new : OperationRecord) : Prop where
  grown : Extends record new
  marker : new.operation.cancellationRequestedAt = record.operation.cancellationRequestedAt

/-- What a transaction commits. A command whose id is taken is not enqueued. -/
inductive Settles (wire : CancelCommand → String) (drafts : Drafts TableRow) (rows : Db) : CancelJob → Prop where
  | requested (request : CancelRequest) (record : OperationRecord)
      (stored : rows (.operation request.operationId) = some record)
      (live : isTerminal record.operation.status = false) (unmarked : record.operation.cancellationRequestedAt = none)
      (written : overlay drafts rows (.operation request.operationId) = some (OperationRecord.marked record request.now))
      (command : rows (.outbox request.messageId) = none ∧ overlay drafts rows (.outbox request.messageId) =
          some (request.row wire (OperationRecord.marked record request.now).operation) ∨
        (rows (.outbox request.messageId)).isSome ∧
          overlay drafts rows (.outbox request.messageId) = rows (.outbox request.messageId))
      (only : ∀ key, key ≠ .operation request.operationId → key ≠ .outbox request.messageId →
        key ≠ .audit request.auditEventId → drafts key = none) :
      Settles wire drafts rows (.cancel request)
  | answered (request : CancelRequest) (same : overlay drafts rows = rows) : Settles wire drafts rows (.cancel request)
  | reported (message : Eventing.Incoming Envelope) (now : Timestamp)
      (only : ∀ key, (∀ operationId, key ≠ .operation operationId) → drafts key = none)
      (moves : ∀ operationId, overlay drafts rows (.operation operationId) = rows (.operation operationId) ∨
        ∃ record new, rows (.operation operationId) = some record ∧
          overlay drafts rows (.operation operationId) = some new ∧ Reports record new) :
      Settles wire drafts rows (.report message now)

/-- A stored operation stays and moves on, and its marker stays once it is set; messages stay. -/
structure Onwards (rows later : Db) : Prop where
  operation : ∀ operationId record, rows (.operation operationId) = some record →
    ∃ new, later (.operation operationId) = some new ∧ Extends record new ∧
      (record.operation.cancellationRequestedAt.isSome →
        new.operation.cancellationRequestedAt = record.operation.cancellationRequestedAt)
  outbox : ∀ messageId, (rows (.outbox messageId)).isSome → (later (.outbox messageId)).isSome

theorem Onwards.refl (rows : Db) : Onwards rows rows :=
  ⟨fun _ record stored => ⟨record,stored,Extends.refl record,fun _ => rfl⟩,fun _ stored => stored⟩

theorem Onwards.trans {a b c : Db} (first : Onwards a b) (second : Onwards b c) : Onwards a c where
  operation operationId record stored := by
    obtain ⟨middle,there,grown,kept⟩ := first.operation operationId record stored
    obtain ⟨new,here,further,still⟩ := second.operation operationId middle there
    exact ⟨new,here,grown.trans further,fun marked => (still ((kept marked).symm ▸ marked)).trans (kept marked)⟩
  outbox messageId stored := second.outbox messageId (first.outbox messageId stored)

theorem marked_annotates (record : OperationRecord) (now : Timestamp) :
    Annotates record (OperationRecord.marked record now) :=
  ⟨rfl,rfl,rfl,rfl,rfl,rfl,rfl,rfl,rfl,List.prefix_rfl,List.prefix_rfl⟩

variable {wire : CancelCommand → String} {drafts : Drafts TableRow} {rows : Db} {job : CancelJob}

/-- Messages of the outbox are left as they are. -/
theorem Settles.outbox_stays (settles : Settles wire drafts rows job) (messageId : MessageId)
    (stored : (rows (.outbox messageId)).isSome) : overlay drafts rows (.outbox messageId) = rows (.outbox messageId) := by
  cases settles with
  | requested request record there live unmarked written command only =>
    by_cases own : messageId = request.messageId
    · subst own
      rcases command with ⟨free,_⟩ | taken
      · simp [free] at stored
      · exact taken.2
    · exact overlay_free (only _ (by simp) (by simpa using own) (by simp)) rows
  | answered request same => rw [same]
  | reported message now only moves => exact overlay_free (only _ (by simp)) rows

theorem Settles.onwards (settles : Settles wire drafts rows job) : Onwards rows (overlay drafts rows) := by
  refine ⟨fun operationId record stored => ?_,fun messageId stored => by rwa [settles.outbox_stays messageId stored]⟩
  cases settles with
  | requested request old there live unmarked written command only =>
    by_cases own : operationId = request.operationId
    · subst own
      obtain rfl := Option.some.inj (there.symm.trans stored)
      exact ⟨_,written,(marked_annotates old request.now).extends,fun marked => by simp [unmarked] at marked⟩
    · have free := only (.operation operationId) (by simpa using own) (by simp) (by simp)
      exact ⟨record,(overlay_free free rows).trans stored,Extends.refl record,fun _ => rfl⟩
  | answered request same => exact ⟨record,by rw [same,stored],Extends.refl record,fun _ => rfl⟩
  | reported message now only moves =>
    rcases moves operationId with same | ⟨old,new,there,written,reports⟩
    · exact ⟨record,same.trans stored,Extends.refl record,fun _ => rfl⟩
    · obtain rfl := Option.some.inj (there.symm.trans stored)
      exact ⟨new,written,reports.grown,fun _ => reports.marker⟩

theorem applyChanges_marker {record final : OperationRecord} {changes : List (OperationRecord → OperationRecord)}
    (keep : ∀ change ∈ changes, ∀ record : OperationRecord,
      (change record).operation.cancellationRequestedAt = record.operation.cancellationRequestedAt)
    (applied : applyChanges record changes = .ok final) :
    final.operation.cancellationRequestedAt = record.operation.cancellationRequestedAt := by
  rw [applyChanges_ok _ _ _ applied]
  clear applied
  induction changes generalizing record with
  | nil => rfl
  | cons change changes ih =>
    rw [List.foldl_cons,ih fun other member => keep other (List.mem_cons_of_mem _ member)]
    exact keep change List.mem_cons_self record

theorem attachments_marker (report : OperationReported) (now : Timestamp) :
    ∀ change ∈ attachments report now, ∀ record : OperationRecord,
      (change record).operation.cancellationRequestedAt = record.operation.cancellationRequestedAt := by
  intro change member record
  simp only [attachments,List.mem_append,List.mem_map,List.mem_flatMap] at member
  rcases member with ⟨result,_,rfl⟩ | ⟨error,_,inside⟩ | ⟨warning,_,rfl⟩
  · rfl
  · simp only [errorChanges,List.mem_cons,List.not_mem_nil,or_false] at inside
    rcases inside with rfl | rfl
    · rfl
    · rfl
  · rfl

/-- The marker survives every change a report makes. -/
theorem handled_reports {record final : OperationRecord} (consistent : Consistent record) (report : OperationReported)
    (now : Timestamp) (outcome : Eventing.Outcome) (applied : handled record report now = .ok (outcome,final)) :
    Reports record final := by
  refine ⟨(handled_ok record final consistent now report outcome applied).grown,?_⟩
  have attached := attachments_marker report now
  simp only [handled] at applied
  split at applied
  · obtain ⟨rfl,rfl⟩ := Prod.mk.inj (Except.ok.inj applied)
    rfl
  · obtain ⟨later,made,same⟩ := ok_of_map applied
    exact applyChanges_marker attached ((Prod.mk.inj same).2 ▸ made)
  · obtain ⟨later,made,same⟩ := ok_of_map applied
    exact applyChanges_marker attached ((Prod.mk.inj same).2 ▸ made)
  · obtain ⟨later,made,same⟩ := ok_of_map applied
    refine applyChanges_marker (fun change member record => ?_) ((Prod.mk.inj same).2 ▸ made)
    rcases List.mem_append.mp member with advance | attachment
    · simp only [advanceChanges,List.mem_cons,List.not_mem_nil,or_false] at advance
      rcases advance with rfl | rfl
      · rfl
      · rfl
    · exact attached change attachment record

end Commits

section Safe

variable {τ : Type} [DecidableEq τ] (wire : CancelCommand → String) (job : τ → CancelJob)

def cancelProtocol : Protocol TableRow OperationError (Option Cancellation) τ where
  Invariant := Valid
  Rely := Onwards
  Commits t _ drafts rows := Valid (overlay drafts rows) ∧ Settles wire drafts rows (job t)
  Abandons _ _ _ := True
  Refuses _ _ := True
  rely_refl := Onwards.refl
  rely_trans _ _ _ := Onwards.trans
  commit_invariant _ _ _ _ _ commits := commits.1
  commit_rely _ _ _ _ _ commits := commits.2.onwards
  abandon_stable _ _ _ _ _ _ := trivial

variable {wire} {job} {t : τ} {s : Db}

/-- Nothing is committed but locks. -/
theorem answered_commits (request : CancelRequest) (own : job t = .cancel request) (valid : Valid s) {drafts : Drafts TableRow}
    (same : overlay drafts s = s) (value : Option Cancellation) :
    (cancelProtocol wire job).Commits t value drafts s := by
  refine ⟨same.symm ▸ valid,?_⟩
  rw [own]
  exact .answered request same

theorem cancel_settles (request : CancelRequest) (own : job t = .cancel request) :
    (cancelProtocol wire job).Safe schema t ((cancelProtocol wire job).Commits t) ((CancelJob.cancel request).program wire)
      Drafts.none s := by
  simp only [CancelJob.program,CancelRequest.cancel,requestCancellation,Tx.bind_eq,Tx.bind_assoc]
  refine Protocol.Safe.lockKnown (Protocol.knows_nothing _ _) (fun _ => rfl) (fun _ _ _ => fun _ _ => trivial)
    fun s₁ record env _ knows => ?_
  have still (s' : Db) : overlay (Drafts.none.lock (.operation request.operationId)) s' = s' := by simp
  dsimp only
  split
  · exact fun s' env' => answered_commits request own env'.1 (still s') _
  rename_i live
  split
  · exact fun s' env' => answered_commits request own env'.1 (still s') _
  rename_i unmarked
  simp only [updateRecord,Tx.bind_eq,Tx.bind_assoc,Tx.pure_eq]
  refine Protocol.Safe.updateChecked (fun _ _ _ _ _ _ => trivial) (fun s₂ env₂ missed => ?_) fun s₂ row env₂ found _ accepted => ?_
  · have there := (knows.env env₂).of_mem (.operation request.operationId) (some record) (by simp)
    simp [there] at missed
  have stored := (knows.env env₂).of_mem (.operation request.operationId) (some record) (by simp)
  rw [overlay_lock,overlay_none,stored,Option.some.injEq] at found
  subst found
  rw [lock_put]
  have accepted : (OperationRecord.marked record request.now).checks = true := (Bool.and_eq_true_iff.mp accepted).1
  have live : isTerminal record.operation.status = false := Bool.eq_false_iff.mpr live
  have unmarked : record.operation.cancellationRequestedAt = none := by simpa using unmarked
  have known := (Protocol.knows_nothing Drafts.none s₂).wrote (Protocol.Env.refl (cancelProtocol wire job) _ env₂.1)
    (.operation request.operationId) (some record) stored (some (OperationRecord.marked record request.now))
  -- what is committed once the message and the audit record are there
  have concludes {drafts : Drafts TableRow} {s' : Db} (valid : Valid s')
      (stored : s' (.operation request.operationId) = some record)
      (written : overlay drafts s' (.operation request.operationId) = some (OperationRecord.marked record request.now))
      (command : s' (.outbox request.messageId) = none ∧ overlay drafts s' (.outbox request.messageId) =
          some (request.row wire (OperationRecord.marked record request.now).operation) ∨
        (s' (.outbox request.messageId)).isSome ∧
          overlay drafts s' (.outbox request.messageId) = s' (.outbox request.messageId))
      (only : ∀ key, key ≠ .operation request.operationId → key ≠ .outbox request.messageId →
        key ≠ .audit request.auditEventId → drafts key = none) (value : Option Cancellation) :
      (cancelProtocol wire job).Commits t value drafts s' := by
    have settles : Settles wire drafts s' (.cancel request) := .requested request record stored live unmarked written command only
    refine ⟨fun operationId new there => ?_,own ▸ settles⟩
    by_cases same : operationId = request.operationId
    · subst same
      obtain rfl := Option.some.inj (written.symm.trans there)
      exact (marked_annotates record request.now).consistent (valid _ _ stored) accepted
    · rw [overlay_free (only _ (by simpa using same) (by simp) (by simp))] at there
      exact valid operationId new there
  -- the command and the audit record are all that is left
  change (cancelProtocol wire job).Safe schema t ((cancelProtocol wire job).Commits t)
    ((Tx.insertUnlessConflict (ν := TableRow) (.outbox request.messageId)
      (request.row wire (OperationRecord.marked record request.now).operation)).bind fun _ =>
      (Tx.insertNew (ν := TableRow) (.audit request.auditEventId)
        (request.event (OperationRecord.marked record request.now).operation)).bind fun _ =>
          .done (some (.requested (OperationRecord.marked record request.now).operation))) _ _
  have others {drafts : Drafts TableRow} (outbox : ∀ key, key ≠ .operation request.operationId → key ≠ .outbox request.messageId →
      drafts key = none) (event : AuditEvent) (key : Table) (one : key ≠ .operation request.operationId)
      (two : key ≠ .outbox request.messageId) (three : key ≠ .audit request.auditEventId) :
      (drafts.put (.audit request.auditEventId) (some event)) key = none := by
    rw [put_of_ne _ _ _ _ three]
    exact outbox key one two
  refine Protocol.Safe.insertUnlessConflict trivial (fun s₃ env₃ absent => ?_) fun s₃ taken env₃ found => ?_
  · rw [overlay_put,Function.update_of_ne (by simp),overlay_none] at absent
    have known := known.wrote env₃ (.outbox request.messageId) none absent
      (some (request.row wire (OperationRecord.marked record request.now).operation))
    refine Protocol.Safe.insertNew (fun _ => trivial) fun s₄ env₄ _ s₅ env₅ => ?_
    have known := ((known.env env₄).put (.audit request.auditEventId)
      (some (request.event (OperationRecord.marked record request.now).operation))).env env₅
    refine concludes env₅.1 (known.of_mem (.operation request.operationId) _ (by simp)) (by simp [OperationRecord.marked])
      (Or.inl ⟨known.of_mem (.outbox request.messageId) none (by simp),by simp⟩) (others (fun key one two => ?_) _) _
    rw [put_of_ne _ _ _ _ two,put_of_ne _ _ _ _ one]
    rfl
  · rw [overlay_put,Function.update_of_ne (by simp),overlay_none] at found
    refine Protocol.Safe.insertNew (fun _ => trivial) fun s₄ env₄ _ s₅ env₅ => ?_
    have known := (((known.env env₃).env env₄).put (.audit request.auditEventId)
      (some (request.event (OperationRecord.marked record request.now).operation))).env env₅
    have there : (s₅ (.outbox request.messageId)).isSome :=
      env₅.2.1.outbox _ (env₄.2.1.outbox _ (by rw [found]; rfl))
    refine concludes env₅.1 (known.of_mem (.operation request.operationId) _ (by simp)) (by simp [OperationRecord.marked])
      (Or.inr ⟨there,by simp⟩) (others (fun key one _ => ?_) _) _
    rw [put_of_ne _ _ _ _ one]
    rfl

theorem report_settles (message : Eventing.Incoming Envelope) (now : Timestamp) (own : job t = .report message now) :
    (cancelProtocol wire job).Safe schema t ((cancelProtocol wire job).Commits t) ((CancelJob.report message now).program wire)
      Drafts.none s := by
  have nothing (s : Db) : (cancelProtocol wire job).Safe schema t ((cancelProtocol wire job).Commits t)
      (.done (none : Option Cancellation)) Drafts.none s := by
    intro s' env
    refine ⟨env.1,?_⟩
    rw [own]
    exact .reported message now (fun _ _ => rfl) fun _ => Or.inl rfl
  simp only [CancelJob.program,handle,Tx.bind_eq]
  cases read : ProgressReport.read message.payload with
  | none => exact nothing s
  | some report =>
    intro s₁ env
    cases overlay Drafts.none s₁ (.operation report.operationId) with
    | none => exact nothing s₁
    | some record =>
      intro s₂ moved
      dsimp only [Tx.pure_eq,Tx.bind]
      split
      · exact nothing s₂
      · refine Protocol.Safe.lock_first (within_bind _ _ _ (within_project report now) fun _ => trivial) (fun s₃ _ _ => nothing s₃)
          fun s₃ record env found => ?_
        obtain ⟨stored,_⟩ := Option.filter_eq_some_iff.mp found
        rw [overlay_none] at stored ⊢
        have consistent := env.1 _ _ stored
        change Protocol.Ends _ _ _ _ _ _
          (exec schema ((project (ε := OperationError) report now).bind fun _ => Tx.done (none : Option Cancellation)) s₃)
        rw [exec_bind,exec_project s₃ now report record stored]
        cases applied : handled record report now with
        | error => trivial
        | ok made =>
          intro drafts left others
          have reports := handled_reports consistent report now made.1 applied
          have moves := moves_update env.1 report.operationId record stored now made.2
            (handled_ok record made.2 consistent now report made.1 applied)
          refine ⟨left.symm ▸ moves.valid,?_⟩
          rw [own]
          refine .reported message now (fun key other => ?_) fun operationId => ?_
          · rw [others key (other report.operationId),lock_of_ne _ _ _ (other report.operationId)]
            rfl
          · by_cases same : operationId = report.operationId
            · subst same
              exact Or.inr ⟨record,made.2,stored,by rw [left,Function.update_self],reports⟩
            · exact Or.inl (by rw [left,Function.update_of_ne (by simpa using same)])

variable (wire) in
theorem cancels_keep (job : τ → CancelJob) :
    (cancelProtocol wire job).Keeps schema fun t => (job t).program wire := by
  intro t s valid
  cases own : job t with
  | cancel request =>
    simp only [own]
    exact cancel_settles request own
  | report message now =>
    simp only [own]
    exact report_settles message now own

end Safe

section Runs

variable {τ : Type} [DecidableEq τ] (wire : CancelCommand → String) (job : τ → CancelJob)

abbrev CancelPool (τ : Type) := Pool TableRow OperationError (Option Cancellation) τ

/-- A message that tells the owning service to stop the operation -/
def Commanded (rows : Db) (operationId : OperationId) (messageId : MessageId) : Prop :=
  ∃ row, rows (.outbox messageId) = some row ∧ row.subject = cancelSubject ∧ row.operationId = some operationId

def Marked (rows : Db) (operationId : OperationId) : Prop :=
  ∃ record, rows (.operation operationId) = some record ∧ record.operation.cancellationRequestedAt.isSome

/-- A command that was enqueued since the given rows -/
def Enqueued (store rows : Db) (operationId : OperationId) (messageId : MessageId) : Prop :=
  Commanded rows operationId messageId ∧ store (.outbox messageId) = none

/-- Of each operation one command at most was enqueued, and that exactly where the marker was set. -/
structure CommandedOnce (store rows : Db) : Prop where
  one : ∀ operationId a b, Enqueued store rows operationId a → Enqueued store rows operationId b → a = b
  both : ∀ operationId, (∃ messageId, Enqueued store rows operationId messageId) ↔
    Marked rows operationId ∧ ¬Marked store operationId

/-- What the commit of one transaction does: a cancel moves nothing but markers, and where a command is new its
operation was not terminal. -/
structure CommitsQuietly (pool : CancelPool τ) (t : τ) : Prop where
  quiet : ∀ request, job t = .cancel request → ∀ operationId record, pool.committed (.operation operationId) = some record →
    ∃ marker, pool.view t (.operation operationId) =
      some { record with operation := { record.operation with cancellationRequestedAt := marker } }
  live : ∀ operationId messageId, Commanded (pool.view t) operationId messageId →
    pool.committed (.outbox messageId) = none →
    ∃ record, pool.committed (.operation operationId) = some record ∧ isTerminal record.operation.status = false

structure CancelsHold (store : Db) (pool : CancelPool τ) : Prop where
  once : CommandedOnce store pool.committed
  commits : ∀ t value, pool.phase t = .running (.done value) → CommitsQuietly job pool t
  onwards : ∀ actions later, StateMachine.run (Pool.step schema fun t => (job t).program wire) pool actions = some later →
    Onwards pool.committed later.committed

/-- No message is stored under the id that a transaction has yet to enqueue. -/
def Fresh (pool : CancelPool τ) : Prop :=
  ∀ t messageId, (job t).messageId = some messageId → (∀ value, pool.phase t ≠ .committed value) →
    pool.committed (.outbox messageId) = none

variable {wire} {job} {store : Db} {pool next : CancelPool τ}

theorem Settles.outbox_free {drafts : Drafts TableRow} {rows : Db} {task : CancelJob} (settles : Settles wire drafts rows task)
    {messageId : MessageId} (other : task.messageId ≠ some messageId) :
    overlay drafts rows (.outbox messageId) = rows (.outbox messageId) := by
  cases settles with
  | requested request record there live unmarked written command only =>
    exact overlay_free (only _ (by simp) (fun same => other (congrArg some (Table.outbox.inj same).symm)) (by simp)) rows
  | answered request same => rw [same]
  | reported message now only moves => exact overlay_free (only _ (by simp)) rows

/-- A new command for an operation comes with its marker, which was not set. -/
theorem Settles.commands {drafts : Drafts TableRow} {rows : Db} {task : CancelJob} (settles : Settles wire drafts rows task)
    {operationId : OperationId} {messageId : MessageId} (commanded : Commanded (overlay drafts rows) operationId messageId)
    (absent : rows (.outbox messageId) = none) : ∃ request record, task = .cancel request ∧ request.messageId = messageId ∧
      request.operationId = operationId ∧ rows (.operation operationId) = some record ∧
      isTerminal record.operation.status = false ∧ record.operation.cancellationRequestedAt = none ∧
      Marked (overlay drafts rows) operationId := by
  obtain ⟨row,stored,_,named⟩ := commanded
  cases settles with
  | requested request record there live unmarked written command only =>
    by_cases own : messageId = request.messageId
    · subst own
      rcases command with ⟨_,enqueued⟩ | ⟨taken,_⟩
      · obtain rfl := Option.some.inj (enqueued.symm.trans stored)
        obtain rfl : request.operationId = operationId := Option.some.inj named
        exact ⟨request,record,rfl,rfl,rfl,there,live,unmarked,_,written,rfl⟩
      · simp [absent] at taken
    · rw [overlay_free (only _ (by simp) (by simpa using own) (by simp)),absent] at stored
      cases stored
  | answered request same =>
    rw [same,absent] at stored
    cases stored
  | reported message now only moves =>
    rw [overlay_free (only _ (by simp)),absent] at stored
    cases stored

/-- And a marker that is new comes with its command, unless the id of that is taken. -/
theorem Settles.marks {drafts : Drafts TableRow} {rows : Db} {task : CancelJob} (settles : Settles wire drafts rows task)
    {operationId : OperationId} (marked : Marked (overlay drafts rows) operationId) (unmarked : ¬Marked rows operationId) :
    ∃ messageId, task.messageId = some messageId ∧
      (rows (.outbox messageId) = none ∧ Commanded (overlay drafts rows) operationId messageId ∨
        (rows (.outbox messageId)).isSome) := by
  obtain ⟨new,stored,marker⟩ := marked
  cases settles with
  | requested request record there live fresh written command only =>
    by_cases own : operationId = request.operationId
    · subst own
      refine ⟨request.messageId,rfl,command.imp (fun enqueued => ⟨enqueued.1,_,enqueued.2,rfl,rfl⟩) And.left⟩
    · rw [overlay_free (only _ (by simpa using own) (by simp) (by simp))] at stored
      exact absurd ⟨new,stored,marker⟩ unmarked
  | answered request same =>
    rw [same] at stored
    exact absurd ⟨new,stored,marker⟩ unmarked
  | reported message now only moves =>
    rcases moves operationId with same | ⟨record,other,there,written,reports⟩
    · exact absurd ⟨new,same ▸ stored,marker⟩ unmarked
    · obtain rfl := Option.some.inj (written.symm.trans stored)
      exact absurd ⟨record,there,reports.marker ▸ marker⟩ unmarked

theorem Onwards.marked {rows later : Db} (onwards : Onwards rows later) {operationId : OperationId}
    (marked : Marked rows operationId) : Marked later operationId := by
  obtain ⟨record,stored,marker⟩ := marked
  obtain ⟨new,there,_,kept⟩ := onwards.operation operationId record stored
  exact ⟨new,there,(kept marker).symm ▸ marker⟩

theorem CommandedOnce.commit {drafts : Drafts TableRow} {rows : Db} {task : CancelJob} (once : CommandedOnce store rows)
    (onwards : Onwards store rows) (settles : Settles wire drafts rows task)
    (fresh : ∀ messageId, task.messageId = some messageId → rows (.outbox messageId) = none) :
    CommandedOnce store (overlay drafts rows) := by
  have earlier {operationId : OperationId} {messageId : MessageId}
      (enqueued : Enqueued store (overlay drafts rows) operationId messageId) (there : (rows (.outbox messageId)).isSome) :
      Enqueued store rows operationId messageId := by
    obtain ⟨⟨row,stored,command⟩,absent⟩ := enqueued
    rw [settles.outbox_stays messageId there] at stored
    exact ⟨⟨row,stored,command⟩,absent⟩
  have stays {operationId : OperationId} {messageId : MessageId} (enqueued : Enqueued store rows operationId messageId) :
      Enqueued store (overlay drafts rows) operationId messageId := by
    obtain ⟨⟨row,stored,command⟩,absent⟩ := enqueued
    exact ⟨⟨row,(settles.outbox_stays messageId (by rw [stored]; rfl)).trans stored,command⟩,absent⟩
  -- where a command is new, the operation was unmarked, so there was none before
  have first {operationId : OperationId} {messageId : MessageId} (commanded : Commanded (overlay drafts rows) operationId messageId)
      (absent : rows (.outbox messageId) = none) : ¬Marked rows operationId ∧ task.messageId = some messageId := by
    obtain ⟨request,record,rfl,rfl,rfl,stored,_,unmarked,_⟩ := settles.commands commanded absent
    refine ⟨?_,rfl⟩
    rintro ⟨other,there,marker⟩
    obtain rfl := Option.some.inj (stored.symm.trans there)
    simp [unmarked] at marker
  refine ⟨fun operationId a b first_ second => ?_,fun operationId => ⟨?_,?_⟩⟩
  · by_cases one : (rows (.outbox a)).isSome
    · by_cases two : (rows (.outbox b)).isSome
      · exact once.one operationId a b (earlier first_ one) (earlier second two)
      · have new := (first second.1 (by simpa using two)).1
        exact absurd ((once.both operationId).mp ⟨a,earlier first_ one⟩).1 new
    · have new := first first_.1 (by simpa using one)
      by_cases two : (rows (.outbox b)).isSome
      · exact absurd ((once.both operationId).mp ⟨b,earlier second two⟩).1 new.1
      · exact Option.some.inj (new.2.symm.trans (first second.1 (by simpa using two)).2)
  · rintro ⟨messageId,enqueued⟩
    by_cases there : (rows (.outbox messageId)).isSome
    · obtain ⟨marked,unmarked⟩ := (once.both operationId).mp ⟨messageId,earlier enqueued there⟩
      exact ⟨settles.onwards.marked marked,unmarked⟩
    · have absent : rows (.outbox messageId) = none := by simpa using there
      obtain ⟨_,_,_,_,_,_,_,_,marked⟩ := settles.commands enqueued.1 absent
      exact ⟨marked,fun before => (first enqueued.1 absent).1 (onwards.marked before)⟩
  · rintro ⟨marked,unmarked⟩
    by_cases before : Marked rows operationId
    · obtain ⟨messageId,enqueued⟩ := (once.both operationId).mpr ⟨before,unmarked⟩
      exact ⟨messageId,stays enqueued⟩
    · obtain ⟨messageId,own,⟨absent,commanded⟩ | taken⟩ := settles.marks marked before
      · refine ⟨messageId,commanded,?_⟩
        by_contra stored
        have still := onwards.outbox messageId (Option.isSome_iff_ne_none.mpr stored)
        simp [absent] at still
      · simp [fresh messageId own] at taken

theorem fresh_step (distinct : ∀ t u messageId, (job t).messageId = some messageId → (job u).messageId = some messageId → t = u)
    (sound : (cancelProtocol wire job).Sound schema pool) (fresh : Fresh job pool) (action : Transaction.Action τ)
    (stepped : pool.step schema (fun t => (job t).program wire) action = some next) : Fresh job next := by
  intro t messageId own open_
  rcases Pool.step_advances _ _ pool next action stepped with ⟨rows,_,_⟩ | ⟨u,value,rfl,ends,rfl⟩
  · rw [rows]
    exact fresh t messageId own fun value ended => open_ value (Pool.step_stays _ _ pool next action t value ended stepped)
  · have settles := (sound.commits value ends).2
    have different : t ≠ u := by
      rintro rfl
      exact open_ value (Function.update_self _ _ _)
    have still : (pool.commit u value).phase t = pool.phase t := Function.update_of_ne different _ _
    have other : (job u).messageId ≠ some messageId := fun same => different (distinct t u messageId own same)
    rw [Pool.committed_commit,Pool.view,settles.outbox_free other]
    exact fresh t messageId own fun value => still ▸ open_ value

theorem commits_quietly (sound : (cancelProtocol wire job).Sound schema pool) (t : τ) (value : Option Cancellation)
    (ends : pool.phase t = .running (.done value)) : CommitsQuietly job pool t := by
  have settles := (sound.commits value ends).2
  refine ⟨fun request own operationId record stored => ?_,fun operationId messageId commanded absent => ?_⟩
  · rw [own] at settles
    rw [Pool.view]
    cases settles with
    | requested _ old there live unmarked written command only =>
      by_cases same : operationId = request.operationId
      · subst same
        obtain rfl := Option.some.inj (there.symm.trans stored)
        exact ⟨_,written⟩
      · exact ⟨record.operation.cancellationRequestedAt,
          (overlay_free (only _ (by simpa using same) (by simp) (by simp)) _).trans stored⟩
    | answered _ same => exact ⟨record.operation.cancellationRequestedAt,by rw [same]; exact stored⟩
  · obtain ⟨_,record,_,_,_,stored,live,_⟩ := settles.commands commanded absent
    exact ⟨record,stored,live⟩

/-- Over any consistent rows, however cancel requests and reports interleave: one command at most for each
operation, together with its marker, which stays; the requests move nothing else, and a command is only
enqueued while its operation is not terminal. The message ids that are drawn are distinct and new. -/
theorem cancels_hold (wire : CancelCommand → String) (job : τ → CancelJob) (store : Db) (valid : Valid store)
    (unused : ∀ t messageId, (job t).messageId = some messageId → store (.outbox messageId) = none)
    (distinct : ∀ t u messageId, (job t).messageId = some messageId → (job u).messageId = some messageId → t = u)
    (pool : CancelPool τ) (reached : Pool.Reachable schema (fun t => (job t).program wire) store pool) :
    CancelsHold wire job store pool := by
  have keeps := cancels_keep wire job
  obtain ⟨actions,ran⟩ := reached
  have start : CommandedOnce store store := by
    have none_ {operationId : OperationId} {messageId : MessageId} : ¬Enqueued store store operationId messageId := by
      rintro ⟨⟨row,stored,_⟩,absent⟩
      rw [absent] at stored
      cases stored
    exact ⟨fun _ _ _ first => absurd first none_,fun _ => iff_of_false (fun ⟨_,some_⟩ => none_ some_) fun both => both.2 both.1⟩
  have kept := StateMachine.run_invariant _ (fun pool : CancelPool τ =>
    (cancelProtocol wire job).Sound schema pool ∧ Fresh job pool ∧ Onwards store pool.committed ∧
      CommandedOnce store pool.committed) ?_ _ actions pool
    ⟨Protocol.sound_initial store valid,fun t messageId own _ => unused t messageId own,Onwards.refl store,start⟩ ran
  · obtain ⟨sound,_,_,once⟩ := kept
    exact ⟨once,fun t value ends => commits_quietly sound t value ends,fun actions later further =>
      keeps.rely pool later sound actions further⟩
  · rintro pool action next ⟨sound,fresh,onwards,once⟩ stepped
    have moved := keeps.rely pool next sound [action] (by rw [StateMachine.run,stepped]; rfl)
    refine ⟨sound.step keeps action stepped,fresh_step distinct sound fresh action stepped,onwards.trans moved,?_⟩
    rcases Pool.step_advances _ _ pool next action stepped with ⟨rows,_,_⟩ | ⟨t,value,rfl,ends,rfl⟩
    · rwa [rows]
    · refine once.commit onwards (sound.commits value ends).2 fun messageId own => fresh t messageId own fun _ ended => ?_
      rw [ends] at ended
      cases ended

end Runs

section Race

/-- An operation that was just accepted. -/
def acceptedRecord : OperationRecord :=
  ⟨⟨1,"capture.submit",.accepted,none,none,"correlation:1",none,none,false,none,0,0,none⟩,[],[],[]⟩

def acceptedRows : Db := Function.update (fun _ => none) (.operation 1) (some acceptedRecord)

theorem accepted_rows_valid : Valid acceptedRows := by
  intro operationId record stored
  have same : record = acceptedRecord := by
    by_cases own : operationId = 1
    · subst own
      rw [acceptedRows,Function.update_self] at stored
      exact (Option.some.inj stored).symm
    · rw [acceptedRows,Function.update_of_ne (by simpa using own)] at stored
      cases stored
  subst same
  exact ⟨by decide +kernel,by decide,rfl,by decide,rfl⟩

/-- The owner asks again and again, each time under new ids. -/
def repeatedCancel (t : Nat) : CancelJob := .cancel ⟨1,1,1,1000000,t,t,t⟩

def wireOf (command : CancelCommand) : String := "\x7b\"operation_id\":" ++ toString command.operationId ++ "\x7d"

/-- Two of the requests race for the row. -/
def racingCancels : List (Transaction.Action Nat) :=
  [.start 0,.start 1] ++ List.replicate 6 (.advance 0) ++ List.replicate 2 (.advance 1)

def cancelsOnce : Bool :=
  (StateMachine.run (Pool.step schema fun t => (repeatedCancel t).program wireOf) (Pool.initial acceptedRows)
    racingCancels).any fun pool => pool.journal.length == 2 && (pool.committed (.outbox 0)).isSome &&
      (pool.committed (.outbox 1)).isNone

theorem cancels_hold_of_race : ∃ pool : CancelPool Nat,
    Pool.Reachable schema (fun t => (repeatedCancel t).program wireOf) acceptedRows pool ∧ pool.journal.length = 2 ∧
    (pool.committed (.outbox 0)).isSome ∧ CancelsHold wireOf repeatedCancel acceptedRows pool := by
  have once : cancelsOnce = true := by decide +kernel
  simp only [cancelsOnce,Option.any_eq_true,Bool.and_eq_true,beq_iff_eq] at once
  obtain ⟨pool,ran,⟨two,command⟩,_⟩ := once
  refine ⟨pool,⟨racingCancels,ran⟩,two,command,cancels_hold wireOf repeatedCancel acceptedRows accepted_rows_valid
    (fun _ _ _ => rfl) (fun t u messageId own other => ?_) pool ⟨racingCancels,ran⟩⟩
  exact (Option.some.inj own).trans (Option.some.inj other).symm

end Race

end Ratatoskr.PublicApi
