import Ratatoskr.Ingest.Webhook

/-! Two scopes of one key: the ledger has it by owner, route, kind and digest while a reservation
lives, the operations have it by owner and kind for ever. Every accepting path runs over both. -/
namespace Ratatoskr.Idempotency

open Transaction Operations PublicApi Ingest

/-- A request on one of the accepting paths. -/
inductive Request where
  | intake (intake : Intake)
  | capture (capture : Capture)
  | signal (signal : Signal)
  | archive (preparation : ArchivePreparation)

/-- `operations_idempotency_key_scope_key` -/
structure OperationKey where
  ownerUserId : UserId
  kind : String
  idempotencyKey : String
deriving DecidableEq

abbrev OperationKey.table (key : OperationKey) : Table := .operationKey key.ownerUserId key.kind key.idempotencyKey

namespace Request

variable (settings : Settings) (contract : CaptureContract)

def submission : Request → Submission
  | .intake given => given.toSubmission
  | .capture given => (given.intake settings contract).toSubmission
  | .signal given => given.submission
  | .archive given => given.submission

def work : Request → Operation → Tx TableRow Answer Unit
  | .intake given => given.work
  | .capture given => (given.intake settings contract).work
  | .signal given => fun _ => given.work settings contract
  | .archive given => fun _ => recordAiArchiveAcceptance given.operationId given.acceptance

def program : Request → Tx TableRow Answer OperationId
  | .intake given => given.admitOperation settings
  | .capture given => (given.intake settings contract).admitOperation settings
  | .signal given => given.accept settings contract
  | .archive given => given.accept settings

theorem program_eq (request : Request) : request.program settings contract =
    (request.submission settings contract).accept settings (request.work settings contract) := by
  cases request <;> rfl

def key (request : Request) : OperationKey :=
  let submission := request.submission settings contract
  ⟨submission.userId,submission.kind,submission.key⟩

end Request

section Statements

/-- No unique index of the operations. -/
abbrev Keyless : Table → Prop
  | .operationKey _ _ _ => False
  | _ => True

variable {β : Type}

theorem within_reserve (scope : Scope) (fingerprint : Digest) (now ttl : Timestamp) (recordId : Nat) :
    Within (· = .idempotency scope) (reserve scope fingerprint now ttl recordId : Tx TableRow β _) := by
  refine within_bind _ _ _ (within_deleteWhere (· = _) _ rfl _) fun _ => ?_
  refine within_bind _ _ _ (within_insertUnlessConflict (· = _) _ rfl _) fun inserted => ?_
  cases inserted with
  | true => trivial
  | false =>
    refine within_bind _ _ _ (within_selectForUpdate (· = _) _ rfl _) fun found => ?_
    cases found <;> trivial

theorem within_collectExpired (now : Timestamp) (visited : List Scope) :
    Within Keyless (collectExpired now visited : Tx TableRow β Unit) := by
  induction visited with
  | nil => trivial
  | cons scope visited ih => exact within_bind _ _ _ (within_deleteWhere Keyless _ trivial _) fun _ => ih

theorem within_intake (intake : Intake) (operation : Operation) : Within Keyless (intake.work operation) := by
  simp only [Intake.work]
  split
  · trivial
  · rename_i prepared _
    refine within_bind _ _ _ ?_ fun _ => ?_
    · cases prepared with
      | none => trivial
      | some prepared => exact within_bind _ _ _ (within_insertUnlessConflict Keyless _ trivial _) fun _ => trivial
    · cases intake.siteEdit with
      | none => trivial
      | some row => exact within_insertNew Keyless _ trivial _

theorem within_work (settings : Settings) (contract : CaptureContract) (request : Request) (operation : Operation) :
    Within Keyless (request.work settings contract operation) := by
  cases request with
  | intake given => exact within_intake given operation
  | capture given => exact within_intake (given.intake settings contract) operation
  | signal given =>
    simp only [Request.work,Signal.work]
    split
    · trivial
    · exact within_bind _ _ _ (within_insertUnlessConflict Keyless _ trivial _) fun _ => trivial
  | archive given => exact within_insertNew Keyless (.archiveAcceptance given.operationId) trivial _

/-- What is left to do once the operation is accepted. -/
theorem within_finishing (submission : Submission) (settings : Settings) (recordId : Nat)
    (work : Operation → Tx TableRow Answer Unit) (keyless : ∀ operation, Within Keyless (work operation))
    (operation : Operation) :
    Within Keyless ((work operation).bind fun _ =>
      (complete (submission.scope settings) recordId (some submission.operationId) 202 submission.now).bind fun _ =>
        (AuditEvent.record submission.auditEventId submission.event).bind fun _ =>
          (.done submission.operationId : Tx TableRow Answer OperationId)) := by
  refine within_bind _ _ _ (keyless operation) fun _ => within_bind _ _ _ ?_ fun _ => ?_
  · exact within_bind _ _ _ (within_updateWhere Keyless _ trivial _ _) fun _ => trivial
  · exact within_bind _ _ _ (within_insertNew Keyless _ trivial _) fun _ => trivial

end Statements

/-- The ledger decides that the request is fresh. -/
def DecidesFresh (settings : Settings) (rows : Db) (submission : Submission) : Prop :=
  ∃ middle, exec schema (reserve (submission.scope settings) (submission.digest settings) submission.now
    settings.idempotencyTtl submission.recordId : Tx TableRow Answer _) rows = .done (.ok (.fresh submission.recordId)) middle

/-- Nothing but its key keeps the operation from being stored. -/
def Presented (rows : Db) (submission : Submission) : Prop :=
  Presentable rows submission.operationId submission.userId submission.kind submission.correlation
    (some submission.key) submission.reporter submission.now

/-- The transaction ends at the unique index of the operations, which the route answers as a failure
of persistence. -/
def RefusedByKey (settings : Settings) (contract : CaptureContract) (rows : Db) (request : Request) : Prop :=
  ∃ refusal, exec schema (request.program settings contract) rows = .refused refusal ∧
    refusal.key = (request.key settings contract).table

section Submission

variable (settings : Settings) (submission : Submission) (work : Operation → Tx TableRow Answer Unit) (rows : Db)

/-- The rows once a fresh request has reserved its key. -/
def reservedRows : Db :=
  Function.update rows (.idempotency (submission.scope settings))
    (some (reservedRow submission.recordId (submission.digest settings) submission.now settings.idempotencyTtl))

theorem reservedRows_other (key : Table) (other : key ≠ .idempotency (submission.scope settings)) :
    reservedRows settings submission rows key = rows key := Function.update_of_ne other _ _

theorem exec_accept_fresh (fresh : DecidesFresh settings rows submission) :
    exec schema (submission.accept settings work) rows =
      exec schema (submission.proceed settings submission.recordId work) (reservedRows settings submission rows) := by
  obtain ⟨middle,decided⟩ := fresh
  rw [Submission.accept,Tx.bind_eq,exec_bind,decided]
  rw [exec_reserve] at decided
  split at decided
  · split at decided
    · rename_i row _
      have found := congrArg Reservation.outcome (Except.ok.inj (Transaction.Outcome.done.inj decided).1)
      rcases found_outcome row (submission.digest settings) with ⟨operationId,outcome⟩ | outcome <;>
      · rw [outcome] at found
        cases found
    · obtain rfl := (Transaction.Outcome.done.inj decided).2
      rfl
  · cases decided

/-- Where the ledger decides otherwise the request ends there. -/
theorem exec_accept_stale (stale : ¬DecidesFresh settings rows submission) :
    (∃ answer, exec schema (submission.accept settings work) rows = .abandoned answer) ∨
      ∃ refusal, exec schema (submission.accept settings work) rows = .refused refusal ∧
        refusal.key = .idempotency (submission.scope settings) := by
  rw [Submission.accept,Tx.bind_eq,exec_bind,exec_reserve]
  split
  · rename_i checks
    split
    · rename_i row _
      refine Or.inl ?_
      simp only [Transaction.Outcome.done_bind]
      rcases found_outcome row (submission.digest settings) with ⟨operationId,outcome⟩ | outcome <;>
        exact ⟨_,by rw [outcome]; rfl⟩
    · rename_i dead
      refine absurd ⟨reservedRows settings submission rows,?_⟩ stale
      rw [exec_reserve,if_pos checks,dead]
      rfl
  · exact Or.inr ⟨_,rfl,rfl⟩

variable (recordId : Nat) (keyless : ∀ operation, Within Keyless (work operation))

include keyless

/-- A fresh request is refused at the unique index exactly when its key has been used. -/
theorem exec_proceed_refused :
    (∃ refusal, exec schema (submission.proceed settings recordId work) rows = .refused refusal ∧
        refusal.key = .operationKey submission.userId submission.kind submission.key) ↔
      Presented rows submission ∧ (rows (.operationKey submission.userId submission.kind submission.key)).isSome := by
  rw [Submission.proceed,Tx.bind_eq,exec_bind]
  constructor
  · rintro ⟨refusal,ended,own⟩
    cases accepted : exec schema (Operations.accept submission.operationId submission.userId submission.kind
        submission.correlation (some submission.key) submission.reporter submission.now : Tx TableRow Answer _) rows with
    | abandoned answer =>
      rw [accepted] at ended
      cases ended
    | refused earlier =>
      rw [accepted] at ended
      obtain rfl := Transaction.Outcome.refused.inj ended
      rcases exec_accept_refused rows _ _ _ _ _ _ _ earlier accepted with row | used
      · rw [own] at row
        cases row
      · exact used
    | done result middle =>
      rw [accepted] at ended
      cases result with
      | error => cases ended
      | ok operation =>
        have elsewhere := exec_refused_within schema middle Keyless _
          (within_finishing submission settings recordId work keyless operation) refusal ended
        rw [own] at elsewhere
        exact elsewhere.elim
  · rintro ⟨presented,used⟩
    obtain ⟨stored,found⟩ := Option.isSome_iff_exists.mp used
    rw [exec_accept_presentable rows _ _ _ _ _ _ _ presented,found]
    exact ⟨_,rfl,rfl⟩

/-- What committing a fresh request does to the unique index. -/
theorem exec_proceed_done (value : OperationId) (later : Db)
    (ended : exec schema (submission.proceed settings recordId work) rows = .done value later) :
    rows (.operationKey submission.userId submission.kind submission.key) = none ∧
    ∀ key : OperationKey, (later key.table).isSome ↔
      (rows key.table).isSome ∨ key = ⟨submission.userId,submission.kind,submission.key⟩ := by
  rw [Submission.proceed,Tx.bind_eq,exec_bind_done] at ended
  obtain ⟨result,middle,accepted,ended⟩ := ended
  cases result with
  | error => cases ended
  | ok operation =>
    obtain ⟨acceptable,rfl,rfl⟩ := (exec_accept_done _ _ _ _ _ _ _ _ _ _).mp accepted
    refine ⟨acceptable.unused _ rfl,fun key => ?_⟩
    have kept : later key.table = _ := exec_within schema _ Keyless _
      (within_finishing submission settings recordId work keyless _) _ _ ended key.table id
    rw [kept]
    by_cases own : key = ⟨submission.userId,submission.kind,submission.key⟩
    · subst own
      simp [Operations.acceptedRows]
    · have apart : key.table ≠ .operationKey submission.userId submission.kind submission.key := by
        rintro same
        obtain ⟨first,second,third⟩ := Table.operationKey.inj same
        exact own (by cases key; simp_all)
      simp only [Operations.acceptedRows,own,or_false]
      rw [Function.update_of_ne apart,Function.update_of_ne fun same => by cases same]

end Submission

/-- A capture command in the outbox, with the door its capture came through (a webhook source, or
the public API) and the key its client chose. -/
structure Emission where
  source : Option SourceId
  ownerUserId : UserId
  clientKey : String
  operationId : OperationId
  idempotencyKey : Digest
deriving DecidableEq

/-- The capture command of a request, unless its message id is taken. -/
def Request.emission (settings : Settings) (contract : CaptureContract) (rows : Db) : Request → Option Emission
  | .capture given =>
    match given.command settings contract with
    | .ok envelope =>
      if (rows (.outbox envelope.commandId)).isNone then
        some ⟨none,given.userId,given.key,given.operationId,envelope.idempotencyKey⟩
      else none
    | .error _ => none
  | .signal given =>
    match given.envelope settings contract with
    | some envelope =>
      if (rows (.outbox envelope.commandId)).isNone then
        some ⟨some given.source.sourceId,given.source.ownerUserId,given.key,given.operationId,envelope.idempotencyKey⟩
      else none
    | none => none
  | _ => none

/-- The committed rows, the keys under which operations have been accepted and the capture commands
that accepted requests have enqueued. -/
structure Edge where
  rows : Db
  minted : List OperationKey
  emitted : List Emission

/-- One transaction: a request, a collection of expired reservations, or any other writer of the
operations (occurrences mint under keys of their own). -/
inductive Move where
  | submit (request : Request)
  | collect (visited : List Scope) (now : Timestamp)
  | write (writer : Writer)

def Edge.initial : Edge := ⟨fun _ => none,[],[]⟩

/-- The key that a committed writer has used. -/
def writtenKey : Writer → Option OperationKey
  | .mint _ ownerUserId kind _ idempotencyKey _ _ _ => idempotencyKey.map fun key => ⟨ownerUserId,kind,key⟩
  | _ => none

def Edge.step (settings : Settings) (contract : CaptureContract) (s : Edge) : Move → Option Edge
  | .submit request =>
    match exec schema (request.program settings contract) s.rows with
    | .done _ rows =>
      some ⟨rows,s.minted ++ [request.key settings contract],s.emitted ++ (request.emission settings contract s.rows).toList⟩
    | _ => some s
  | .collect visited now =>
    some { s with rows := (exec schema (collectExpired now visited : Tx TableRow Unit Unit) s.rows).publish s.rows }
  | .write writer =>
    match exec schema writer.program s.rows with
    | .done _ rows => some { s with rows,minted := s.minted ++ (writtenKey writer).toList }
    | _ => some s

/-- The unique index has the keys under which operations were accepted, all of them and for ever. -/
def Keyed (s : Edge) : Prop := ∀ key : OperationKey, (s.rows key.table).isSome ↔ key ∈ s.minted

section Step

variable {settings : Settings} {contract : CaptureContract} {s next : Edge}

theorem keyed_write (keyed : Keyed s) (writer : Writer) (later : Db)
    (ended : exec schema writer.program s.rows = .done () later) :
    Keyed { s with rows := later,minted := s.minted ++ (writtenKey writer).toList } := by
  have kept (program : Tx TableRow Unit Unit) (within : Within Keyless program)
      (ended : exec schema program s.rows = .done () later) (unused : writtenKey writer = none) :
      Keyed { s with rows := later,minted := s.minted ++ (writtenKey writer).toList } := by
    intro key
    have same : later key.table = s.rows key.table := exec_within schema s.rows Keyless _ within _ _ ended _ id
    simpa [same,unused] using keyed key
  have own {operationId : OperationId} (key : Table) (mine : Own operationId key) : Keyless key := by
    rw [mine]
    trivial
  cases writer with
  | mint operationId ownerUserId kind correlationId idempotencyKey reporter acceptance now =>
    obtain ⟨_,rfl⟩ := (exec_mint_done _ _ _ _ _ _ _ _ _ _).mp ended
    intro key
    rw [mintedRows_key,keyed key,List.mem_append]
    refine or_congr_right ?_
    cases idempotencyKey with
    | none => simp [writtenKey]
    | some used =>
      obtain ⟨owner,otherKind,own⟩ := key
      simp only [writtenKey,Option.map_some,Option.toList_some,List.mem_singleton,OperationKey.mk.injEq,Option.some.injEq]
      exact and_congr_right fun _ => and_congr_right fun _ => eq_comm
  | report message now =>
    refine kept _ ?_ ended rfl
    cases read : ProgressReport.read message.payload with
    | none =>
      simp only [Writer.program,handle,read]
      trivial
    | some report =>
      refine within_adapt _ _ _ _ (within_mono _ _ _ (fun key bound => ?_) (within_handle message now report read))
      rcases bound with rfl | rfl <;> trivial
  | reconcile operationId cutoff now =>
    refine kept _ ?_ ended rfl
    exact within_mono _ _ _ own (within_adapt _ _ _ _ (within_reconcileOne operationId cutoff now))
  | archiveDelivery operationId now =>
    refine kept _ ?_ ended rfl
    exact within_mono _ _ _ own (within_adapt _ _ _ _ (within_failOperation operationId _ _ _ now))
  | notesForward operationId forward code retryable now =>
    refine kept _ ?_ ended rfl
    exact within_mono _ _ _ own (within_adapt _ _ _ _ (within_failOperation operationId _ _ _ now))
  | cancel operationId ownerUserId now =>
    refine kept _ ?_ ended rfl
    exact within_mono _ _ _ own (within_adapt _ _ _ _ (within_requestCancellation operationId ownerUserId now))

/-- A request that commits has used its key, which nobody had used before. -/
theorem exec_request_done (rows : Db) (request : Request) (value : OperationId) (later : Db)
    (ended : exec schema (request.program settings contract) rows = .done value later) :
    rows (request.key settings contract).table = none ∧
    ∀ key : OperationKey, (later key.table).isSome ↔ (rows key.table).isSome ∨ key = request.key settings contract := by
  rw [Request.program_eq] at ended
  have fresh : DecidesFresh settings rows (request.submission settings contract) := by
    by_contra stale
    rcases exec_accept_stale settings _ (request.work settings contract) rows stale with
      ⟨answer,other⟩ | ⟨refusal,other,_⟩ <;>
    · rw [other] at ended
      cases ended
  rw [exec_accept_fresh _ _ _ _ fresh] at ended
  obtain ⟨unused,used⟩ := exec_proceed_done settings (request.submission settings contract)
    (request.work settings contract) _ _ (within_work settings contract request) value later ended
  rw [reservedRows_other _ _ _ _ fun same => by cases same] at unused
  refine ⟨unused,fun key => ?_⟩
  have mine := used key
  rwa [reservedRows_other _ _ _ _ fun same => by cases same] at mine

theorem keyed_step (keyed : Keyed s) (move : Move) (stepped : s.step settings contract move = some next) : Keyed next := by
  cases move with
  | submit request =>
    simp only [Edge.step] at stepped
    split at stepped
    · rename_i value rows ended
      obtain rfl := Option.some.inj stepped
      intro key
      rw [(exec_request_done s.rows request value rows ended).2 key,keyed key]
      simp
    · exact Option.some.inj stepped ▸ keyed
  | collect visited now =>
    obtain rfl := Option.some.inj stepped
    intro key
    have same : (exec schema (collectExpired now visited : Tx TableRow Unit Unit) s.rows).publish s.rows key.table =
        s.rows key.table := by
      cases ended : exec schema (collectExpired now visited : Tx TableRow Unit Unit) s.rows with
      | done value later => exact exec_within schema s.rows Keyless _ (within_collectExpired now visited) _ _ ended _ id
      | abandoned | refused => rfl
    simpa only [same] using keyed key
  | write writer =>
    simp only [Edge.step] at stepped
    split at stepped
    · rename_i value rows ended
      exact Option.some.inj stepped ▸ keyed_write keyed writer rows ended
    · exact Option.some.inj stepped ▸ keyed

theorem step_minted (move : Move) (stepped : s.step settings contract move = some next) : s.minted ⊆ next.minted := by
  cases move with
  | submit request =>
    simp only [Edge.step] at stepped
    split at stepped <;> obtain rfl := Option.some.inj stepped
    · exact List.subset_append_left _ _
    · exact List.Subset.refl _
  | collect visited now => exact Option.some.inj stepped ▸ List.Subset.refl _
  | write writer =>
    simp only [Edge.step] at stepped
    split at stepped <;> obtain rfl := Option.some.inj stepped
    · exact List.subset_append_left _ _
    · exact List.Subset.refl _

/-- A request is refused at the unique index exactly when the ledger finds it fresh, nothing else is
in its way and an operation has been accepted under its key. -/
theorem refusedByKey_iff (keyed : Keyed s) (request : Request) : RefusedByKey settings contract s.rows request ↔
    DecidesFresh settings s.rows (request.submission settings contract) ∧
      Presented s.rows (request.submission settings contract) ∧ request.key settings contract ∈ s.minted := by
  rw [RefusedByKey,Request.program_eq]
  by_cases fresh : DecidesFresh settings s.rows (request.submission settings contract)
  · have presented : Presented (reservedRows settings (request.submission settings contract) s.rows)
        (request.submission settings contract) ↔ Presented s.rows (request.submission settings contract) := by
      refine ⟨fun ⟨allowed,checks,unused⟩ => ⟨allowed,checks,?_⟩,fun ⟨allowed,checks,unused⟩ => ⟨allowed,checks,?_⟩⟩
      · rwa [reservedRows_other _ _ _ _ fun same => by cases same] at unused
      · rwa [reservedRows_other _ _ _ _ fun same => by cases same]
    rw [exec_accept_fresh _ _ _ _ fresh,Request.key,exec_proceed_refused settings _ _ _ _ (within_work settings contract request),
      presented,reservedRows_other _ _ _ _ fun same => by cases same]
    have used := keyed (request.key settings contract)
    simp only [Request.key] at used
    rw [used]
    exact (and_iff_right fresh).symm
  · refine iff_of_false ?_ fun all => fresh all.1
    rintro ⟨refusal,ended,own⟩
    rcases exec_accept_stale settings _ (request.work settings contract) s.rows fresh with
      ⟨answer,other⟩ | ⟨earlier,other,ledger⟩
    · rw [other] at ended
      cases ended
    · rw [other] at ended
      obtain rfl := Transaction.Outcome.refused.inj ended
      rw [ledger] at own
      cases own

end Step

theorem run_keyed (settings : Settings) (contract : CaptureContract) (moves : List Move) (s : Edge)
    (ran : StateMachine.run (Edge.step settings contract) Edge.initial moves = some s) : Keyed s :=
  StateMachine.run_invariant _ Keyed (fun _ move _ keyed stepped => keyed_step keyed move stepped) _ moves s
    (fun key => by simp [Edge.initial]) ran

theorem run_minted (settings : Settings) (contract : CaptureContract) (moves : List Move) (s later : Edge)
    (ran : StateMachine.run (Edge.step settings contract) s moves = some later) : s.minted ⊆ later.minted :=
  StateMachine.run_relation _ (fun _ => True) (fun s later : Edge => s.minted ⊆ later.minted)
    (fun _ => List.Subset.refl _) (fun _ _ _ => List.Subset.trans) (fun _ _ _ _ _ => trivial)
    (fun _ move _ _ stepped => step_minted move stepped) s moves later trivial ran

/-- A request that the ledger finds fresh gets past the unique index exactly when no operation was
ever accepted under its owner, kind and key, or something else is in its way; and once it is refused
there, so is every retry that the ledger finds fresh. -/
theorem fresh_request_refused_iff_key_used (settings : Settings) (contract : CaptureContract) (moves : List Move) (s : Edge)
    (ran : StateMachine.run (Edge.step settings contract) Edge.initial moves = some s) (request : Request) :
    ((DecidesFresh settings s.rows (request.submission settings contract) → ¬RefusedByKey settings contract s.rows request) ↔
      (DecidesFresh settings s.rows (request.submission settings contract) →
        Presented s.rows (request.submission settings contract) → request.key settings contract ∉ s.minted)) ∧
    (RefusedByKey settings contract s.rows request → ∀ more later retry,
      StateMachine.run (Edge.step settings contract) s more = some later →
      retry.key settings contract = request.key settings contract →
      DecidesFresh settings later.rows (retry.submission settings contract) →
      Presented later.rows (retry.submission settings contract) → RefusedByKey settings contract later.rows retry) := by
  have keyed := run_keyed settings contract moves s ran
  rw [refusedByKey_iff keyed request]
  refine ⟨⟨fun free fresh presented used => free fresh ⟨fresh,presented,used⟩,
    fun free fresh all => free fresh all.2.1 all.2.2⟩,?_⟩
  rintro ⟨_,_,used⟩ more later retry onward same fresh presented
  have still := StateMachine.run_invariant _ Keyed (fun _ move _ keyed stepped => keyed_step keyed move stepped) s more
    later keyed onward
  exact (refusedByKey_iff still retry).mpr ⟨fresh,presented,same ▸ run_minted settings contract more s later onward used⟩

section Reuse

/-- The digests of `key-1` and `key-2`, and the one of an empty body for any other bytes. -/
def reuseSettings : Settings where
  sha256 bytes :=
    if bytes = "key-1".toUTF8.toList then 0xbe2974546978e3739e6d6da85c4be9f334ce32df2b9fd4b6ff1b55c0d57e9d44
    else if bytes = "key-2".toUTF8.toList then 0x7c36b0a9dedde119c75165957c6c9c187e65df1ee5db87c4c58ad503ad88cbe3
    else 0x44136fa355b3678a1146ad16f7e8649e94fb4fc21fe77e8310c060f61caaff8a
  idempotencyTtl := 1000000000

def plainContract : CaptureContract where
  accepts _ := true
  isPermalink _ := true
  commandSubject _ := "cmd.social.capture.requested.v1"
  render _ := "{}"

/-- A request of a notes route under a key; the number tells its rows from those of others. -/
def notesRequest (route : Route) (key : String) (number : Nat) : Request := .intake {
  toRoute := route
  userId := 1
  sessionId := some 1
  key
  fingerprint := "{}".toUTF8.toList
  correlation := "correlation:1"
  now := 0
  recordId := number
  operationId := number
  auditEventId := number
  outboxId := number
  siteEdit := none
  prepare _ := .ok (some ⟨"cmd.notes.file.write.requested.v1",number,"{}"⟩) }

/-- Whether the ledger decides that a request is fresh. -/
def isFresh (rows : Db) (request : Request) : Bool :=
  let submission := request.submission reuseSettings plainContract
  match exec schema (reserve (submission.scope reuseSettings) (submission.digest reuseSettings) submission.now
      reuseSettings.idempotencyTtl submission.recordId : Tx TableRow Answer _) rows with
  | .done (.ok (.fresh recordId)) _ => recordId == submission.recordId
  | _ => false

def isRefusedByKey (rows : Db) (request : Request) : Bool :=
  match exec schema (request.program reuseSettings plainContract) rows with
  | .refused refusal => refusal.key = (request.key reuseSettings plainContract).table
  | _ => false

theorem decidesFresh_of (rows : Db) (request : Request) (fresh : isFresh rows request = true) :
    DecidesFresh reuseSettings rows (request.submission reuseSettings plainContract) := by
  simp only [isFresh] at fresh
  split at fresh
  · rename_i recordId middle decided
    obtain rfl := beq_iff_eq.mp fresh
    exact ⟨middle,decided⟩
  · cases fresh

theorem refusedByKey_of (rows : Db) (request : Request) (refused : isRefusedByKey rows request = true) :
    RefusedByKey reuseSettings plainContract rows request := by
  simp only [isRefusedByKey] at refused
  split at refused
  · rename_i refusal ended
    exact ⟨refusal,ended,of_decide_eq_true refused⟩
  · cases refused

/-- A key that a site edit took is fresh to the ledger on the route of the notes writes, where the
unique index refuses it. -/
theorem site_edit_key_refuses_file_write :
    ∃ s, StateMachine.run (Edge.step reuseSettings plainContract) Edge.initial
        [.submit (notesRequest Routes.siteEdits "key-1" 1)] = some s ∧
      DecidesFresh reuseSettings s.rows
        ((notesRequest Routes.fileWrites "key-1" 2).submission reuseSettings plainContract) ∧
      RefusedByKey reuseSettings plainContract s.rows (notesRequest Routes.fileWrites "key-1" 2) := by
  have ran : ((StateMachine.run (Edge.step reuseSettings plainContract) Edge.initial
      [.submit (notesRequest Routes.siteEdits "key-1" 1)]).map fun s =>
        isFresh s.rows (notesRequest Routes.fileWrites "key-1" 2) &&
        isRefusedByKey s.rows (notesRequest Routes.fileWrites "key-1" 2)) = some true := by decide +kernel
  obtain ⟨s,reached,both⟩ := Option.map_eq_some_iff.mp ran
  obtain ⟨fresh,refused⟩ := Bool.and_eq_true_iff.mp both
  exact ⟨s,reached,decidesFresh_of _ _ fresh,refusedByKey_of _ _ refused⟩

/-- Another key gets past the index. -/
theorem other_key_is_accepted :
    ∃ s, StateMachine.run (Edge.step reuseSettings plainContract) Edge.initial
        [.submit (notesRequest Routes.siteEdits "key-1" 1)] = some s ∧ s.minted.length = 1 ∧
      DecidesFresh reuseSettings s.rows
        ((notesRequest Routes.fileWrites "key-2" 2).submission reuseSettings plainContract) ∧
      ¬RefusedByKey reuseSettings plainContract s.rows (notesRequest Routes.fileWrites "key-2" 2) := by
  have ran : ((StateMachine.run (Edge.step reuseSettings plainContract) Edge.initial
      [.submit (notesRequest Routes.siteEdits "key-1" 1)]).map fun s =>
        isFresh s.rows (notesRequest Routes.fileWrites "key-2" 2) &&
        s.minted == [⟨1,"notes.file.write","key-1"⟩]) = some true := by decide +kernel
  obtain ⟨s,reached,both⟩ := Option.map_eq_some_iff.mp ran
  obtain ⟨fresh,minted⟩ := Bool.and_eq_true_iff.mp both
  have single : s.minted = [⟨1,"notes.file.write","key-1"⟩] := beq_iff_eq.mp minted
  have fresh := decidesFresh_of _ _ fresh
  refine ⟨s,reached,congrArg List.length single,fresh,?_⟩
  refine (fresh_request_refused_iff_key_used reuseSettings plainContract _ s reached
    (notesRequest Routes.fileWrites "key-2" 2)).1.mpr (fun _ _ used => ?_) fresh
  rw [single] at used
  revert used
  decide

end Reuse

end Ratatoskr.Idempotency
