import Mathlib.Data.List.Basic
import Mathlib.Data.List.Dedup
import Ratatoskr.Eventing.Consumer
import Ratatoskr.Lib.Run
import Ratatoskr.Schema

/-! Erasing single stream messages at a producer's request. The broker keeps what it deleted when the
transaction around the requests rolls back. -/
set_option linter.unusedSectionVars false

namespace Ratatoskr.Eventing.StreamErasure

/-- One message of the events stream -/
structure StoredMessage where
  subject : String
  payload : List UInt8
deriving DecidableEq

def erasureSubject : String := "cmd.platform.stream_erasure.requested.v1"

/-- `PRODUCERS` -/
def producers : List String := ["ratatoskr-chatgpt","ratatoskr-claude"]

/-- `ERASABLE_SUBJECTS` -/
def erasableSubjects : List String :=
  ["evt.ai_archive.archive.imported.v1","evt.ai_archive.conversation.added.v1","evt.ai_archive.conversation.updated.v1",
    "evt.ai_archive.project.added.v1","evt.ai_archive.project.updated.v1","evt.ai_archive.artifact.added.v1",
    "evt.ai_archive.artifact.updated.v1"]

structure CommandEnvelope where
  producer : String
  tenantId : Option UserId
  aggregateId : String
  correlationId : String
  payload : Json

structure PlatformStreamErasureRequested where
  owner : UserId
  requestRef : String
  streamSequences : List Nat

/-- The readers of the contracts crate and of JSON. -/
structure Contract where
  commandEnvelope : Json → Option CommandEnvelope
  erasureRequested : Json → Option PlatformStreamErasureRequested
  tenantText : UserId → String
  fromSlice : List UInt8 → Option Json

/-- A command that passed every check of the envelope. -/
structure Request where
  producer : String
  owner : String
  reference : String
  correlation : String
  sequences : List Nat
deriving DecidableEq

inductive Disposition where
  | erased | missing | refused
deriving DecidableEq

structure Counts where
  erased : Nat
  missing : Nat
  refused : Nat
deriving DecidableEq

namespace Counts

def zero : Counts := ⟨0,0,0⟩

def add (counts : Counts) : Disposition → Counts
  | .erased => { counts with erased := counts.erased + 1 }
  | .missing => { counts with missing := counts.missing + 1 }
  | .refused => { counts with refused := counts.refused + 1 }

def total (counts : Counts) : Nat := counts.erased + counts.missing + counts.refused

theorem total_add (counts : Counts) (disposition : Disposition) : (counts.add disposition).total = counts.total + 1 := by
  cases disposition <;> simp only [add,total] <;> omega

end Counts

/-- What the broker answers to `get_raw_message`. -/
inductive ReadAnswer where
  | found (stored : StoredMessage)
  | noMessageFound
  | failed

/-- What the broker answers to `delete_message`. -/
inductive DeleteAnswer where
  | deleted | nothing | noMessageFound | failed
deriving DecidableEq

/-- What a handler asks of the broker, one request after the other. -/
inductive Exchange (α : Type) where
  | done (value : α)
  | open (next : Bool → Exchange α)
  | read (sequence : Nat) (next : ReadAnswer → Exchange α)
  | delete (sequence : Nat) (next : DeleteAnswer → Exchange α)

def Exchange.bind {α β : Type} : Exchange α → (α → Exchange β) → Exchange β
  | .done value,f => f value
  | .open next,f => .open fun answer => (next answer).bind f
  | .read sequence next,f => .read sequence fun answer => (next answer).bind f
  | .delete sequence next,f => .delete sequence fun answer => (next answer).bind f

section Handler

variable (contract : Contract)

namespace Request

/-- The request a delivered message carries. -/
def read (message : Incoming Json) : Option Request := do
  if message.subject ≠ erasureSubject then none
  else do
    let envelope ← contract.commandEnvelope message.payload
    if ¬ producers.contains envelope.producer ∨ envelope.producer ≠ message.producer then none
    else do
      let body ← contract.erasureRequested envelope.payload
      if envelope.tenantId ≠ some body.owner ∨ envelope.aggregateId ≠ body.requestRef then none
      else some ⟨envelope.producer,contract.tenantText body.owner,body.requestRef,envelope.correlationId,body.streamSequences⟩

/-- A stored message is one this request may erase. -/
def owns (request : Request) (stored : StoredMessage) : Bool :=
  if ¬ erasableSubjects.contains stored.subject then false
  else
    match contract.fromSlice stored.payload with
    | none => false
    | some envelope =>
      let text := fun member => (envelope.get member).bind Json.asStr
      text "producer" == some request.producer && text "tenant_id" == some request.owner

/-- What an answered `delete_message` makes of a sequence; a failure is transient. -/
def deleted : DeleteAnswer → Except Unit Disposition
  | .deleted => .ok .erased
  | .nothing => .ok .missing
  | .noMessageFound => .ok .missing
  | .failed => .error ()

/-- Decides and, if allowed, erases one sequence. -/
def dispose (request : Request) (sequence : Nat) : Exchange (Except Unit Disposition) :=
  .read sequence fun answer =>
    match answer with
    | .noMessageFound => .done (.ok .missing)
    | .failed => .done (.error ())
    | .found stored =>
      if ¬ request.owns contract stored then .done (.ok .refused)
      else .delete sequence fun answer => .done (deleted answer)

/-- The loop over the sequences. -/
def disposeAll (request : Request) (counts : Counts) : List Nat → Exchange (Except Unit Counts)
  | [] => .done (.ok counts)
  | sequence :: rest => (request.dispose contract sequence).bind fun disposed =>
    match disposed with
    | .ok disposition => disposeAll request (counts.add disposition) rest
    | .error failure => .done (.error failure)

end Request

/-- What a handler that returns makes of a command. -/
inductive Finished where
  | rejected
  | applied (request : Request) (counts : Counts)

def Request.finish (request : Request) : Except Unit Counts → Exchange (Except Unit Finished)
  | .ok counts => .done (.ok (.applied request counts))
  | .error failure => .done (.error failure)

/-- `StreamErasureHandler::handle` up to its database writes. -/
def handle (message : Incoming Json) : Exchange (Except Unit Finished) :=
  match Request.read contract message with
  | none => .done (.ok .rejected)
  | some request => .open fun opened =>
    if opened then (request.disposeAll contract .zero request.sequences).bind request.finish else .done (.error ())

end Handler

/-- One row of `operations.stream_erasure_audit` -/
structure ErasureAudit where
  commandId : MessageId
  auditEventId : Nat
  producer : String
  owner : String
  requestRef : String
  counts : Counts
  recordedAt : Int
deriving DecidableEq

def ErasureAudit.checks (row : ErasureAudit) : Bool :=
  lengthBetween 1 64 row.producer && (TenantRef.parse row.owner).isSome && lengthBetween 1 289 row.requestRef

/-- The outcome that the shared audit trail shows. -/
def Counts.outcome (counts : Counts) : AuditOutcome := if counts.refused = 0 then .allowed else .denied

/-- What the transaction of a delivery commits. -/
structure Recorded where
  outcome : Outcome
  audit : Option (ErasureAudit × AuditEvent)
deriving DecidableEq

/-- `record` -/
def record (commandId : MessageId) (request : Request) (counts : Counts) (auditEventId : Nat) (now : Timestamp) :
    ErasureAudit × AuditEvent :=
  (⟨commandId,auditEventId,request.producer,request.owner,request.reference,counts,toOffset now⟩,
    { actorUserId := none, actorSessionId := none, action := "stream.erasure", targetKind := "privacy_request"
      targetId := none, outcome := counts.outcome, correlationId := request.correlation, occurredAt := toOffset now })

/-- What a finished handler leaves, if the tables take it. -/
def Finished.recorded (messageId : MessageId) (auditEventId : Nat) (now : Timestamp) : Finished → Option Recorded
  | .rejected => some ⟨.rejected,none⟩
  | .applied request counts =>
    let rows := record messageId request counts auditEventId now
    if rows.1.checks && rows.2.checks then some ⟨.applied,some rows⟩ else none

/-- The events stream: the last sequence given and the messages kept. -/
structure EventStream where
  last : Nat
  message : Nat → Option StoredMessage

def EventStream.without (stream : EventStream) (sequence : Nat) : EventStream :=
  { stream with message := fun other => if other = sequence then none else stream.message other }

def EventStream.publish (stream : EventStream) (stored : StoredMessage) : EventStream where
  last := stream.last + 1
  message sequence := if sequence = stream.last + 1 then some stored else stream.message sequence

/-- A message that a delivery of the command had the broker delete. -/
structure Removal where
  attempt : Nat
  sequence : Nat
  stored : StoredMessage
deriving DecidableEq

/-- A sequence at which a delivery found no message. -/
structure Absence where
  attempt : Nat
  sequence : Nat
deriving DecidableEq

/-- A delivery that is running, and the stream it began with. -/
structure Delivering where
  program : Exchange (Except Unit Finished)
  start : EventStream

/-- The broker and the database beside the deliveries of one command. -/
structure Erasing where
  stream : EventStream
  attempts : Nat
  delivering : Option Delivering
  recorded : Option Recorded
  removed : List Removal
  absent : List Absence
  expired : List Nat

inductive Action where
  | publish (stored : StoredMessage)
  | expire (sequence : Nat)
  | deliver
  | answer (asError : Bool)
  | fail (reached : Bool)
  | commit (auditEventId : Nat) (now : Timestamp)
  | rollback

namespace Erasing

def initial (stream : EventStream) : Erasing := ⟨stream,0,none,none,[],[],[]⟩

def goOn (s : Erasing) (delivery : Delivering) (program : Exchange (Except Unit Finished)) : Erasing :=
  { s with delivering := some { delivery with program := program } }

/-- The broker deletes a message for the delivery that is running. -/
def remove (s : Erasing) (sequence : Nat) (stored : StoredMessage) : Erasing :=
  { s with stream := s.stream.without sequence, removed := s.removed ++ [⟨s.attempts,sequence,stored⟩] }

def miss (s : Erasing) (sequence : Nat) : Erasing := { s with absent := s.absent ++ [⟨s.attempts,sequence⟩] }

/-- The broker answers what is asked; that there was nothing to delete it can tell in two ways. -/
def answer (s : Erasing) (delivery : Delivering) (asError : Bool) : Option Erasing :=
  match delivery.program with
  | .done _ => none
  | .open next => some (s.goOn delivery (next true))
  | .read sequence next =>
    match s.stream.message sequence with
    | some stored => some (s.goOn delivery (next (.found stored)))
    | none => some ((s.miss sequence).goOn delivery (next .noMessageFound))
  | .delete sequence next =>
    match s.stream.message sequence with
    | some stored => some ((s.remove sequence stored).goOn delivery (next .deleted))
    | none => some ((s.miss sequence).goOn delivery (next (if asError then .noMessageFound else .nothing)))

/-- A request fails; a delete may have reached the broker before. -/
def fail (s : Erasing) (delivery : Delivering) (reached : Bool) : Option Erasing :=
  match delivery.program with
  | .done _ => none
  | .open next => some (s.goOn delivery (next false))
  | .read _ next => some (s.goOn delivery (next .failed))
  | .delete sequence next =>
    match if reached then s.stream.message sequence else none with
    | some stored => some ((s.remove sequence stored).goOn delivery (next .failed))
    | none => some (s.goOn delivery (next .failed))

variable (contract : Contract) (message : Incoming Json)

/-- A recorded command is a duplicate to its inbox; any other delivery starts from the beginning. -/
def step (s : Erasing) : Action → Option Erasing
  | .publish stored => some { s with stream := s.stream.publish stored }
  | .expire sequence =>
    if (s.stream.message sequence).isSome then
      some { s with stream := s.stream.without sequence, expired := s.expired ++ [sequence] }
    else none
  | .deliver =>
    if s.delivering.isSome then none
    else if s.recorded.isSome then some s
    else some { s with attempts := s.attempts + 1, delivering := some ⟨handle contract message,s.stream⟩ }
  | .answer asError => s.delivering.bind fun delivery => s.answer delivery asError
  | .fail reached => s.delivering.bind fun delivery => s.fail delivery reached
  | .commit auditEventId now => s.delivering.bind fun delivery =>
    match delivery.program with
    | .done (.ok finished) => (finished.recorded message.messageId auditEventId now).map fun recorded =>
      { s with delivering := none, recorded := some recorded }
    | _ => none
  | .rollback => if s.delivering.isSome then some { s with delivering := none } else none

section Effects

variable {s next : Erasing}

theorem publish_message_of_le {stream : EventStream} {sequence : Nat} (given : sequence ≤ stream.last)
    (stored : StoredMessage) : (stream.publish stored).message sequence = stream.message sequence :=
  if_neg (by omega)

@[simp] theorem without_self (stream : EventStream) (sequence : Nat) : (stream.without sequence).message sequence = none :=
  if_pos rfl

theorem without_eq_some {stream : EventStream} {sequence other : Nat} {stored : StoredMessage}
    (held : (stream.without sequence).message other = some stored) : stream.message other = some stored := by
  simp only [EventStream.without] at held
  split at held
  · cases held
  · exact held

theorem without_cases {stream : EventStream} {other : Nat} {stored : StoredMessage} (held : stream.message other = some stored)
    (sequence : Nat) : other = sequence ∨ (stream.without sequence).message other = some stored := by
  by_cases same : other = sequence
  · exact Or.inl same
  · exact Or.inr (by simp [EventStream.without,same,held])

/-- What a step does to the stream, and what is noted of it. -/
inductive Effect (s next : Erasing) : Prop where
  | publish (stored : StoredMessage) (stream : next.stream = s.stream.publish stored) (removed : next.removed = s.removed)
      (expired : next.expired = s.expired) : Effect s next
  | expire (sequence : Nat) (stream : next.stream = s.stream.without sequence) (removed : next.removed = s.removed)
      (expired : next.expired = s.expired ++ [sequence]) : Effect s next
  | remove (sequence : Nat) (stored : StoredMessage) (held : s.stream.message sequence = some stored)
      (asked : ∃ delivery rest, s.delivering = some delivery ∧ delivery.program = .delete sequence rest)
      (stream : next.stream = s.stream.without sequence)
      (removed : next.removed = s.removed ++ [⟨s.attempts,sequence,stored⟩]) (expired : next.expired = s.expired) :
      Effect s next
  | quiet (stream : next.stream = s.stream) (removed : next.removed = s.removed) (expired : next.expired = s.expired) :
      Effect s next

theorem answer_effect {delivery : Delivering} (running : s.delivering = some delivery) {asError : Bool}
    (stepped : s.answer delivery asError = some next) : Effect s next := by
  unfold answer at stepped
  split at stepped
  · cases stepped
  · cases stepped
    exact .quiet rfl rfl rfl
  · split at stepped
    all_goals
      cases stepped
      exact .quiet rfl rfl rfl
  · rename_i sequence rest asked
    split at stepped
    · rename_i stored held
      cases stepped
      exact .remove sequence stored held ⟨delivery,rest,running,asked⟩ rfl rfl rfl
    · cases stepped
      exact .quiet rfl rfl rfl

theorem fail_effect {delivery : Delivering} (running : s.delivering = some delivery) {reached : Bool}
    (stepped : s.fail delivery reached = some next) : Effect s next := by
  unfold fail at stepped
  split at stepped
  · cases stepped
  · cases stepped
    exact .quiet rfl rfl rfl
  · cases stepped
    exact .quiet rfl rfl rfl
  · rename_i sequence rest asked
    split at stepped
    · rename_i stored held
      cases stepped
      refine .remove sequence stored ?_ ⟨delivery,rest,running,asked⟩ rfl rfl rfl
      cases reached
      · cases held
      · exact held
    · cases stepped
      exact .quiet rfl rfl rfl

theorem step_effect {action : Action} (stepped : step contract message s action = some next) : Effect s next := by
  cases action with
  | publish stored =>
    cases stepped
    exact .publish stored rfl rfl rfl
  | expire sequence =>
    simp only [step] at stepped
    split at stepped
    · cases stepped
      exact .expire sequence rfl rfl rfl
    · cases stepped
  | deliver =>
    simp only [step] at stepped
    split at stepped
    · cases stepped
    · split at stepped
      all_goals
        cases stepped
        exact .quiet rfl rfl rfl
  | answer asError =>
    obtain ⟨delivery,running,answered⟩ := Option.bind_eq_some_iff.mp stepped
    exact answer_effect running answered
  | fail reached =>
    obtain ⟨delivery,running,failed⟩ := Option.bind_eq_some_iff.mp stepped
    exact fail_effect running failed
  | commit auditEventId now =>
    obtain ⟨delivery,running,committed⟩ := Option.bind_eq_some_iff.mp stepped
    split at committed
    · obtain ⟨recorded,-,rfl⟩ := Option.map_eq_some_iff.mp committed
      exact .quiet rfl rfl rfl
    · cases committed
  | rollback =>
    simp only [step] at stepped
    split at stepped
    · cases stepped
      exact .quiet rfl rfl rfl
    · cases stepped

/-- A stored message stays as it is until it is removed or expires. -/
structure Onward (s next : Erasing) : Prop where
  removed : ∀ removal ∈ s.removed, removal ∈ next.removed
  expired : ∀ sequence ∈ s.expired, sequence ∈ next.expired
  message : ∀ sequence stored, s.stream.message sequence = some stored → next.stream.message sequence = some stored ∨
    (∃ removal ∈ next.removed, removal.sequence = sequence ∧ removal.stored = stored) ∨ sequence ∈ next.expired
  /-- A sequence is not given twice. -/
  gone : ∀ sequence, s.stream.message sequence = none → sequence ≤ s.stream.last →
    next.stream.message sequence = none ∧ sequence ≤ next.stream.last

theorem Onward.refl (s : Erasing) : Onward s s :=
  ⟨fun _ member => member,fun _ member => member,fun _ _ held => Or.inl held,fun _ absent given => ⟨absent,given⟩⟩

theorem Onward.trans {middle : Erasing} (first : Onward s middle) (second : Onward middle next) : Onward s next where
  removed removal member := second.removed removal (first.removed removal member)
  expired sequence member := second.expired sequence (first.expired sequence member)
  message sequence stored held := by
    rcases first.message sequence stored held with stays | ⟨removal,member,which⟩ | expired
    · exact second.message sequence stored stays
    · exact Or.inr (Or.inl ⟨removal,second.removed removal member,which⟩)
    · exact Or.inr (Or.inr (second.expired sequence expired))
  gone sequence absent given := by
    obtain ⟨absent',given'⟩ := first.gone sequence absent given
    exact second.gone sequence absent' given'

theorem Effect.onward (effect : Effect s next) (given : ∀ sequence stored, s.stream.message sequence = some stored →
    sequence ≤ s.stream.last) : Onward s next := by
  cases effect with
  | publish stored stream removed expired =>
    refine ⟨removed ▸ fun _ member => member,expired ▸ fun _ member => member,fun sequence other held => Or.inl ?_,
      fun sequence absent old => ?_⟩
    · rw [stream,publish_message_of_le (given sequence other held),held]
    · rw [stream,publish_message_of_le old]
      exact ⟨absent,Nat.le_succ_of_le old⟩
  | expire sequence stream removed expired =>
    refine ⟨removed ▸ fun _ member => member,fun other member => expired ▸ List.mem_append_left _ member,
      fun other stored held => ?_,fun other absent old => ?_⟩
    · rcases without_cases held sequence with rfl | stays
      · exact Or.inr (Or.inr (by simp [expired]))
      · exact Or.inl (stream ▸ stays)
    · rw [stream]
      exact ⟨by simp [EventStream.without,absent],old⟩
  | remove sequence stored held asked stream removed expired =>
    refine ⟨fun other member => removed ▸ List.mem_append_left _ member,expired ▸ fun _ member => member,
      fun other stored' held' => ?_,fun other absent old => ?_⟩
    · rcases without_cases held' sequence with rfl | stays
      · obtain rfl := Option.some.inj (held.symm.trans held')
        exact Or.inr (Or.inl ⟨_,by rw [removed]; exact List.mem_append_right _ (List.mem_singleton_self _),rfl,rfl⟩)
      · exact Or.inl (stream ▸ stays)
    · rw [stream]
      exact ⟨by simp [EventStream.without,absent],old⟩
  | quiet stream removed expired =>
    exact ⟨removed ▸ fun _ member => member,expired ▸ fun _ member => member,fun _ _ held => Or.inl (stream ▸ held),
      fun _ absent old => ⟨stream ▸ absent,stream ▸ old⟩⟩

/-- Only sequences that were given have messages. -/
def Given (s : Erasing) : Prop := ∀ sequence stored, s.stream.message sequence = some stored → sequence ≤ s.stream.last

theorem Effect.given (effect : Effect s next) (given : s.Given) : next.Given := by
  intro sequence stored held
  cases effect with
  | publish other stream removed expired =>
    rw [stream] at held ⊢
    simp only [EventStream.publish] at held ⊢
    split at held
    · omega
    · exact Nat.le_succ_of_le (given sequence stored held)
  | expire other stream removed expired =>
    rw [stream] at held ⊢
    exact given sequence stored (without_eq_some held)
  | remove other stored' held' asked stream removed expired =>
    rw [stream] at held ⊢
    exact given sequence stored (without_eq_some held)
  | quiet stream removed expired =>
    rw [stream] at held ⊢
    exact given sequence stored held

theorem run_onward (given : s.Given) {actions : List Action}
    (ran : StateMachine.run (step contract message) s actions = some next) : Onward s next :=
  StateMachine.run_relation _ Given Onward Onward.refl (fun _ _ _ => Onward.trans)
    (fun _ _ _ given stepped => (step_effect contract message stepped).given given)
    (fun _ _ _ given stepped => (step_effect contract message stepped).onward given) s actions next given ran

end Effects

end Erasing

section Programs

variable (contract : Contract)

/-- What the handler still asks after some sequences. -/
def Request.rest (request : Request) (counts : Counts) (sequences : List Nat) : Exchange (Except Unit Finished) :=
  (request.disposeAll contract counts sequences).bind request.finish

/-- What it makes of an answered deletion. -/
def Request.settle (request : Request) (counts : Counts) (more : List Nat) (answer : DeleteAnswer) :
    Exchange (Except Unit Finished) :=
  match Request.deleted answer with
  | .ok disposition => request.rest contract (counts.add disposition) more
  | .error _ => .done (.error ())

/-- What it makes of an answered read. -/
def Request.judge (request : Request) (counts : Counts) (sequence : Nat) (more : List Nat) :
    ReadAnswer → Exchange (Except Unit Finished)
  | .noMessageFound => request.rest contract (counts.add .missing) more
  | .failed => .done (.error ())
  | .found stored =>
    if ¬ request.owns contract stored then request.rest contract (counts.add .refused) more
    else .delete sequence (request.settle contract counts more)

variable (request : Request) (counts : Counts)

theorem rest_nil : request.rest contract counts [] = .done (.ok (.applied request counts)) := rfl

theorem rest_cons (sequence : Nat) (more : List Nat) :
    request.rest contract counts (sequence :: more) = .read sequence (request.judge contract counts sequence more) := by
  refine congrArg (Exchange.read sequence) (funext fun answer => ?_)
  cases answer with
  | noMessageFound => rfl
  | failed => rfl
  | found stored =>
    simp only [Request.judge]
    split
    · rfl
    · refine congrArg (Exchange.delete sequence) (funext fun answer => ?_)
      cases answer <;> rfl

end Programs

section Tallying

variable {contract : Contract} {message : Incoming Json}

/-- The counts so far are those of the deletions and absences of this delivery. -/
structure Tally (s : Erasing) (start : EventStream) (counts : Counts) (past : List Nat) : Prop where
  erased : counts.erased = (s.removed.filter (·.attempt == s.attempts)).length
  missing : counts.missing = (s.absent.filter (·.attempt == s.attempts)).length
  total : counts.total = past.length
  found : ∀ sequence ∈ past, start.message sequence = none → sequence ≤ start.last → ⟨s.attempts,sequence⟩ ∈ s.absent

/-- Where a delivery is. -/
inductive Stage (contract : Contract) (message : Incoming Json) (s : Erasing) (delivery : Delivering) : Prop where
  | rejected (unread : Request.read contract message = none) (program : delivery.program = .done (.ok .rejected)) :
      Stage contract message s delivery
  | opening (request : Request) (read : Request.read contract message = some request)
      (program : delivery.program = .open fun opened =>
        if opened then request.rest contract .zero request.sequences else .done (.error ()))
      (tally : Tally s delivery.start .zero []) : Stage contract message s delivery
  | looping (request : Request) (read : Request.read contract message = some request) (counts : Counts)
      (past more : List Nat) (split : request.sequences = past ++ more)
      (program : delivery.program = request.rest contract counts more) (tally : Tally s delivery.start counts past) :
      Stage contract message s delivery
  | deleting (request : Request) (read : Request.read contract message = some request) (counts : Counts)
      (past : List Nat) (sequence : Nat) (more : List Nat) (split : request.sequences = past ++ sequence :: more)
      (program : delivery.program = .delete sequence (request.settle contract counts more)) (stored : StoredMessage)
      (owned : request.owns contract stored = true) (same : ∀ other, s.stream.message sequence = some other → other = stored)
      (old : sequence ≤ s.stream.last)
      (there : ¬ (delivery.start.message sequence = none ∧ sequence ≤ delivery.start.last))
      (tally : Tally s delivery.start counts past) : Stage contract message s delivery
  | failed (program : delivery.program = .done (.error ())) : Stage contract message s delivery

/-- A delivery beside the streams of its start and of the run's. -/
structure Running (contract : Contract) (message : Incoming Json) (first : EventStream) (s : Erasing)
    (delivery : Delivering) : Prop where
  stage : Stage contract message s delivery
  gone : ∀ sequence, delivery.start.message sequence = none → sequence ≤ delivery.start.last →
    s.stream.message sequence = none ∧ sequence ≤ s.stream.last
  before : ∀ sequence, first.message sequence = none → sequence ≤ first.last →
    delivery.start.message sequence = none ∧ sequence ≤ delivery.start.last
  earlier : ∀ removal ∈ s.removed, removal.attempt < s.attempts →
    delivery.start.message removal.sequence = none ∧ removal.sequence ≤ delivery.start.last

/-- What the audit row of a request counts. -/
structure Accounted (first : EventStream) (s : Erasing) (request : Request) (counts : Counts) : Prop where
  erased : counts.erased = (s.removed.filter (·.attempt == s.attempts)).length
  missing : counts.missing = (s.absent.filter (·.attempt == s.attempts)).length
  total : counts.total = request.sequences.length
  found : ∀ sequence ∈ request.sequences, (first.message sequence = none ∧ sequence ≤ first.last ∨
    ∃ removal ∈ s.removed, removal.attempt < s.attempts ∧ removal.sequence = sequence) → ⟨s.attempts,sequence⟩ ∈ s.absent

/-- What is recorded of the command. -/
inductive Filed (contract : Contract) (message : Incoming Json) (first : EventStream) (s : Erasing) : Recorded → Prop where
  | rejected (unread : Request.read contract message = none) : Filed contract message first s ⟨.rejected,none⟩
  | applied (request : Request) (read : Request.read contract message = some request) (counts : Counts)
      (auditEventId : Nat) (now : Timestamp) (accounted : Accounted first s request counts) :
      Filed contract message first s ⟨.applied,some (record message.messageId request counts auditEventId now)⟩

/-- Every deletion is of a message the request owns, every absence has a cause. -/
structure Explained (contract : Contract) (message : Incoming Json) (first : EventStream) (s : Erasing) : Prop where
  given : s.Given
  onward : (Erasing.initial first).Onward s
  removals : ∀ removal ∈ s.removed, removal.attempt ≤ s.attempts ∧ s.stream.message removal.sequence = none ∧
    removal.sequence ≤ s.stream.last ∧ ∃ request, Request.read contract message = some request ∧
      removal.sequence ∈ request.sequences ∧ request.owns contract removal.stored = true
  absences : ∀ absence ∈ s.absent, absence.attempt ≤ s.attempts ∧ (first.message absence.sequence = none ∨
    (∃ removal ∈ s.removed, removal.sequence = absence.sequence) ∨ absence.sequence ∈ s.expired)

/-- The invariant of a run. -/
structure Sound (contract : Contract) (message : Incoming Json) (first : EventStream) (s : Erasing) : Prop
    extends Explained contract message first s where
  running : ∀ delivery, s.delivering = some delivery → Running contract message first s delivery
  recorded : ∀ recorded, s.recorded = some recorded → s.delivering = none ∧ Filed contract message first s recorded

variable {first : EventStream} {s next : Erasing} {delivery : Delivering} {start : EventStream} {counts : Counts}
  {past : List Nat}

theorem Tally.congr (tally : Tally s start counts past) (attempts : next.attempts = s.attempts)
    (removed : next.removed = s.removed) (absent : next.absent = s.absent) : Tally next start counts past := by
  obtain ⟨erased,missing,total,found⟩ := tally
  exact ⟨by rw [erased,removed,attempts],by rw [missing,absent,attempts],total,by rwa [absent,attempts]⟩

theorem Tally.miss (tally : Tally s start counts past) (sequence : Nat) :
    Tally (s.miss sequence) start (counts.add .missing) (past ++ [sequence]) where
  erased := tally.erased
  missing := by simp [Counts.add,Erasing.miss,tally.missing]
  total := by rw [Counts.total_add,tally.total,List.length_append,List.length_singleton]
  found other member absent given := by
    rcases List.mem_append.mp member with earlier | own
    · exact List.mem_append_left _ (tally.found other earlier absent given)
    · rw [List.mem_singleton.mp own]
      exact List.mem_append_right _ (List.mem_singleton_self _)

theorem Tally.refuse (tally : Tally s start counts past) {sequence : Nat}
    (there : ¬ (start.message sequence = none ∧ sequence ≤ start.last)) :
    Tally s start (counts.add .refused) (past ++ [sequence]) where
  erased := tally.erased
  missing := tally.missing
  total := by rw [Counts.total_add,tally.total,List.length_append,List.length_singleton]
  found other member absent given := by
    rcases List.mem_append.mp member with earlier | own
    · exact tally.found other earlier absent given
    · rw [List.mem_singleton.mp own] at absent given
      exact absurd ⟨absent,given⟩ there

theorem Tally.erase (tally : Tally s start counts past) {sequence : Nat} (stored : StoredMessage)
    (there : ¬ (start.message sequence = none ∧ sequence ≤ start.last)) :
    Tally (s.remove sequence stored) start (counts.add .erased) (past ++ [sequence]) where
  erased := by simp [Counts.add,Erasing.remove,tally.erased]
  missing := tally.missing
  total := by rw [Counts.total_add,tally.total,List.length_append,List.length_singleton]
  found other member absent given := by
    rcases List.mem_append.mp member with earlier | own
    · exact tally.found other earlier absent given
    · rw [List.mem_singleton.mp own] at absent given
      exact absurd ⟨absent,given⟩ there

section Environment

variable (attempts : next.attempts = s.attempts) (removed : next.removed = s.removed) (absent : next.absent = s.absent)
include attempts removed absent

/-- What the rest of the world does to the stream leaves a delivery where it is. -/
theorem Stage.env (stage : Stage contract message s delivery) (last : s.stream.last ≤ next.stream.last)
    (kept : ∀ sequence other, sequence ≤ s.stream.last → next.stream.message sequence = some other →
      s.stream.message sequence = some other) : Stage contract message next delivery := by
  cases stage with
  | rejected unread program => exact .rejected unread program
  | opening request read program tally => exact .opening request read program (tally.congr attempts removed absent)
  | looping request read counts past more split program tally =>
    exact .looping request read counts past more split program (tally.congr attempts removed absent)
  | deleting request read counts past sequence more split program stored owned same old there tally =>
    exact .deleting request read counts past sequence more split program stored owned
      (fun other held => same other (kept sequence other old held)) (Nat.le_trans old last) there
      (tally.congr attempts removed absent)
  | failed program => exact .failed program

theorem Running.env (running : Running contract message first s delivery) (onward : s.Onward next)
    (last : s.stream.last ≤ next.stream.last)
    (kept : ∀ sequence other, sequence ≤ s.stream.last → next.stream.message sequence = some other →
      s.stream.message sequence = some other) : Running contract message first next delivery := by
  obtain ⟨stage,gone,before,earlier⟩ := running
  refine ⟨stage.env attempts removed absent last kept,fun sequence absent given => ?_,before,by rwa [removed,attempts]⟩
  obtain ⟨absent',given'⟩ := gone sequence absent given
  exact onward.gone sequence absent' given'

theorem Explained.env (explained : Explained contract message first s) (effect : s.Effect next) :
    Explained contract message first next where
  given := effect.given explained.given
  onward := explained.onward.trans (effect.onward explained.given)
  removals removal member := by
    obtain ⟨attempt,gone,given,owned⟩ := explained.removals removal (removed ▸ member)
    obtain ⟨gone',given'⟩ := (effect.onward explained.given).gone removal.sequence gone given
    exact ⟨attempts ▸ attempt,gone',given',owned⟩
  absences absence member := by
    obtain ⟨attempt,cause⟩ := explained.absences absence (absent ▸ member)
    refine ⟨attempts ▸ attempt,cause.imp_right (Or.imp (fun ⟨removal,member,which⟩ => ⟨removal,removed ▸ member,which⟩) ?_)⟩
    exact (effect.onward explained.given).expired _

theorem Filed.congr {recorded : Recorded} (filed : Filed contract message first s recorded) :
    Filed contract message first next recorded := by
  cases filed with
  | rejected unread => exact .rejected unread
  | applied request read counts auditEventId now accounted =>
    obtain ⟨erased,missing,total,found⟩ := accounted
    exact .applied request read counts auditEventId now
      ⟨by rw [erased,removed,attempts],by rw [missing,absent,attempts],total,by rwa [removed,absent,attempts]⟩

theorem Sound.env (sound : Sound contract message first s) (effect : s.Effect next)
    (last : s.stream.last ≤ next.stream.last)
    (kept : ∀ sequence other, sequence ≤ s.stream.last → next.stream.message sequence = some other →
      s.stream.message sequence = some other)
    (delivering : next.delivering = s.delivering) (recorded : next.recorded = s.recorded) :
    Sound contract message first next where
  toExplained := sound.toExplained.env attempts removed absent effect
  running delivery running :=
    (sound.running delivery (delivering ▸ running)).env attempts removed absent (effect.onward sound.given) last kept
  recorded filed member := by
    obtain ⟨idle,filed⟩ := sound.recorded filed (recorded ▸ member)
    exact ⟨delivering ▸ idle,filed.congr attempts removed absent⟩

end Environment

section Deliveries

theorem Explained.miss (explained : Explained contract message first s) {sequence : Nat}
    (absent : s.stream.message sequence = none) : Explained contract message first (s.miss sequence) where
  given := explained.given
  onward := explained.onward.trans (Erasing.Effect.onward (.quiet rfl rfl rfl) explained.given)
  removals := explained.removals
  absences absence member := by
    rcases List.mem_append.mp member with earlier | own
    · exact explained.absences absence earlier
    · rw [List.mem_singleton.mp own]
      refine ⟨Nat.le_refl _,?_⟩
      cases began : first.message sequence with
      | none => exact Or.inl rfl
      | some stored =>
        rcases explained.onward.message sequence stored began with stays | ⟨removal,listed,which,-⟩ | expired
        · exact absurd (stays.symm.trans absent) (by simp)
        · exact Or.inr (Or.inl ⟨removal,listed,which⟩)
        · exact Or.inr (Or.inr expired)

theorem Explained.remove (explained : Explained contract message first s) {sequence : Nat} {stored : StoredMessage}
    (held : s.stream.message sequence = some stored) {rest : DeleteAnswer → Exchange (Except Unit Finished)}
    (running : s.delivering = some delivery) (asked : delivery.program = .delete sequence rest) {request : Request}
    (read : Request.read contract message = some request) (named : sequence ∈ request.sequences)
    (owned : request.owns contract stored = true) : Explained contract message first (s.remove sequence stored) := by
  have effect : s.Effect (s.remove sequence stored) := .remove sequence stored held ⟨delivery,rest,running,asked⟩ rfl rfl rfl
  refine ⟨effect.given explained.given,explained.onward.trans (effect.onward explained.given),fun removal member => ?_,
    fun absence member => ?_⟩
  · rcases List.mem_append.mp member with earlier | own
    · obtain ⟨attempt,gone,given,owns⟩ := explained.removals removal earlier
      obtain ⟨gone',given'⟩ := (effect.onward explained.given).gone removal.sequence gone given
      exact ⟨attempt,gone',given',owns⟩
    · rw [List.mem_singleton.mp own]
      exact ⟨Nat.le_refl _,Erasing.without_self _ _,explained.given sequence stored held,request,read,named,owned⟩
  · obtain ⟨attempt,cause⟩ := explained.absences absence member
    exact ⟨attempt,cause.imp_right (Or.imp_left fun ⟨removal,member,which⟩ => ⟨removal,List.mem_append_left _ member,which⟩)⟩

/-- A delivery goes on with its next program. -/
theorem Sound.goOn (explained : Explained contract message first s) (unrecorded : s.recorded = none)
    {program : Exchange (Except Unit Finished)} (gone : ∀ sequence, delivery.start.message sequence = none →
      sequence ≤ delivery.start.last → s.stream.message sequence = none ∧ sequence ≤ s.stream.last)
    (before : ∀ sequence, first.message sequence = none → sequence ≤ first.last →
      delivery.start.message sequence = none ∧ sequence ≤ delivery.start.last)
    (earlier : ∀ removal ∈ s.removed, removal.attempt < s.attempts →
      delivery.start.message removal.sequence = none ∧ removal.sequence ≤ delivery.start.last)
    (stage : Stage contract message s { delivery with program := program }) :
    Sound contract message first (s.goOn delivery program) where
  toExplained := by
    refine explained.env ?_ ?_ ?_ (.quiet rfl rfl rfl)
    all_goals rfl
  running other running := by
    obtain rfl := Option.some.inj running
    refine ⟨stage.env ?_ ?_ ?_ (Nat.le_refl _) fun _ _ _ held => held,gone,before,earlier⟩
    all_goals rfl
  recorded filed member := absurd (member.symm.trans unrecorded) (by simp)

/-- After a failed request the handler gives up. -/
theorem Stage.fails (stage : Stage contract message s delivery) {next : Erasing} (reached : Bool)
    (stepped : s.fail delivery reached = some next) :
    ∃ s', next = s'.goOn delivery (.done (.error ())) ∧ (s' = s ∨ ∃ sequence stored rest request,
      s.stream.message sequence = some stored ∧ delivery.program = .delete sequence rest ∧
      Request.read contract message = some request ∧ sequence ∈ request.sequences ∧
      request.owns contract stored = true ∧ s' = s.remove sequence stored) := by
  unfold Erasing.fail at stepped
  cases stage with
  | rejected unread program =>
    rw [program] at stepped
    cases stepped
  | failed program =>
    rw [program] at stepped
    cases stepped
  | opening request read program tally =>
    rw [program] at stepped
    exact ⟨s,(Option.some.inj stepped).symm,Or.inl rfl⟩
  | looping request read counts past more split program tally =>
    cases more with
    | nil =>
      rw [program,rest_nil] at stepped
      cases stepped
    | cons sequence more =>
      rw [program,rest_cons] at stepped
      exact ⟨s,(Option.some.inj stepped).symm,Or.inl rfl⟩
  | deleting request read counts past sequence more split program stored owned same old there tally =>
    rw [program] at stepped
    dsimp only at stepped
    split at stepped
    · rename_i other held
      have held' : s.stream.message sequence = some other := by
        cases reached
        · cases held
        · exact held
      obtain rfl := same other held'
      exact ⟨s.remove sequence other,(Option.some.inj stepped).symm,Or.inr ⟨sequence,other,_,request,held',program,read,
        by simp [split],owned,rfl⟩⟩
    · exact ⟨s,(Option.some.inj stepped).symm,Or.inl rfl⟩

theorem Running.gone_remove (running : Running contract message first s delivery) (sequence : Nat) (stored : StoredMessage)
    (other : Nat) (absent : delivery.start.message other = none) (given : other ≤ delivery.start.last) :
    (s.remove sequence stored).stream.message other = none ∧ other ≤ (s.remove sequence stored).stream.last := by
  obtain ⟨absent',given'⟩ := running.gone other absent given
  exact ⟨by simp [Erasing.remove,EventStream.without,absent'],given'⟩

theorem Running.earlier_remove (running : Running contract message first s delivery) (sequence : Nat)
    (stored : StoredMessage) (removal : Removal) (member : removal ∈ (s.remove sequence stored).removed)
    (sooner : removal.attempt < s.attempts) :
    delivery.start.message removal.sequence = none ∧ removal.sequence ≤ delivery.start.last := by
  rcases List.mem_append.mp member with old | own
  · exact running.earlier removal old sooner
  · rw [List.mem_singleton.mp own] at sooner
    exact absurd sooner (Nat.lt_irrefl _)

theorem Sound.unrecorded (sound : Sound contract message first s) (running : s.delivering = some delivery) :
    s.recorded = none := by
  cases filed : s.recorded with
  | none => rfl
  | some recorded => exact absurd (running.symm.trans (sound.recorded recorded filed).1) (by simp)

theorem Sound.fail (sound : Sound contract message first s) (running : s.delivering = some delivery) {reached : Bool}
    (stepped : s.fail delivery reached = some next) : Sound contract message first next := by
  have unrecorded := sound.unrecorded running
  have inside := sound.running delivery running
  obtain ⟨s',rfl,same | ⟨sequence,stored,rest,request,held,asked,read,named,owned,removed⟩⟩ :=
    inside.stage.fails reached stepped
  · subst same
    exact .goOn sound.toExplained unrecorded inside.gone inside.before inside.earlier (.failed rfl)
  · subst removed
    have explained := sound.toExplained.remove held running asked read named owned
    exact .goOn explained unrecorded (inside.gone_remove sequence stored) inside.before
      (inside.earlier_remove sequence stored) (.failed rfl)

/-- An answered request takes the handler to its next one. -/
theorem Running.answers (running : Running contract message first s delivery) (given : s.Given) {asError : Bool}
    (stepped : s.answer delivery asError = some next) :
    ∃ s' program, next = s'.goOn delivery program ∧ Stage contract message s' { delivery with program := program } ∧
      (s' = s ∨ (∃ sequence, s.stream.message sequence = none ∧ s' = s.miss sequence) ∨
        ∃ sequence stored rest request, s.stream.message sequence = some stored ∧
          delivery.program = .delete sequence rest ∧ Request.read contract message = some request ∧
          sequence ∈ request.sequences ∧ request.owns contract stored = true ∧ s' = s.remove sequence stored) := by
  unfold Erasing.answer at stepped
  cases running.stage with
  | rejected unread program =>
    rw [program] at stepped
    cases stepped
  | failed program =>
    rw [program] at stepped
    cases stepped
  | opening request read program tally =>
    rw [program] at stepped
    exact ⟨s,_,(Option.some.inj stepped).symm,.looping request read .zero [] request.sequences rfl rfl tally,Or.inl rfl⟩
  | looping request read counts past more split program tally =>
    cases more with
    | nil =>
      rw [program,rest_nil] at stepped
      cases stepped
    | cons sequence more =>
      have split' : request.sequences = (past ++ [sequence]) ++ more := by rw [split,List.append_assoc]; rfl
      rw [program,rest_cons] at stepped
      dsimp only at stepped
      split at stepped
      · rename_i stored held
        have there : ¬ (delivery.start.message sequence = none ∧ sequence ≤ delivery.start.last) := by
          rintro ⟨absent,old⟩
          exact absurd (held.symm.trans (running.gone sequence absent old).1) (by simp)
        refine ⟨s,_,(Option.some.inj stepped).symm,?_,Or.inl rfl⟩
        by_cases owned : request.owns contract stored = true
        · exact .deleting request read counts past sequence more split (by simp [Request.judge,owned]) stored owned
            (fun other held' => Option.some.inj (held'.symm.trans held)) (given sequence stored held) there tally
        · exact .looping request read (counts.add .refused) (past ++ [sequence]) more split'
            (by simp [Request.judge,owned]) (tally.refuse there)
      · rename_i absent
        exact ⟨s.miss sequence,_,(Option.some.inj stepped).symm,.looping request read (counts.add .missing)
          (past ++ [sequence]) more split' rfl (tally.miss sequence),Or.inr (Or.inl ⟨sequence,absent,rfl⟩)⟩
  | deleting request read counts past sequence more split program stored owned same old there tally =>
    have split' : request.sequences = (past ++ [sequence]) ++ more := by rw [split,List.append_assoc]; rfl
    rw [program] at stepped
    dsimp only at stepped
    split at stepped
    · rename_i other held
      obtain rfl := same other held
      exact ⟨s.remove sequence other,_,(Option.some.inj stepped).symm,.looping request read (counts.add .erased)
        (past ++ [sequence]) more split' rfl (tally.erase other there),
        Or.inr (Or.inr ⟨sequence,other,_,request,held,program,read,by simp [split],owned,rfl⟩)⟩
    · rename_i absent
      refine ⟨s.miss sequence,_,(Option.some.inj stepped).symm,.looping request read (counts.add .missing)
        (past ++ [sequence]) more split' ?_ (tally.miss sequence),Or.inr (Or.inl ⟨sequence,absent,rfl⟩)⟩
      cases asError <;> rfl

theorem Sound.answer (sound : Sound contract message first s) (running : s.delivering = some delivery) {asError : Bool}
    (stepped : s.answer delivery asError = some next) : Sound contract message first next := by
  have unrecorded := sound.unrecorded running
  have inside := sound.running delivery running
  obtain ⟨s',program,rfl,stage,same | ⟨sequence,absent,missed⟩ | ⟨sequence,stored,rest,request,held,asked,read,named,
    owned,removed⟩⟩ := inside.answers sound.given stepped
  · subst same
    exact .goOn sound.toExplained unrecorded inside.gone inside.before inside.earlier stage
  · subst missed
    exact .goOn (sound.toExplained.miss absent) unrecorded inside.gone inside.before inside.earlier stage
  · subst removed
    have explained := sound.toExplained.remove held running asked read named owned
    exact .goOn explained unrecorded (inside.gone_remove sequence stored) inside.before
      (inside.earlier_remove sequence stored) stage

theorem Sound.deliver (sound : Sound contract message first s) (unrecorded : s.recorded = none) :
    Sound contract message first
      { s with attempts := s.attempts + 1, delivering := some ⟨handle contract message,s.stream⟩ } where
  given := sound.given
  onward := sound.onward.trans (Erasing.Effect.onward (.quiet rfl rfl rfl) sound.given)
  removals removal member := by
    obtain ⟨attempt,rest⟩ := sound.removals removal member
    exact ⟨Nat.le_succ_of_le attempt,rest⟩
  absences absence member := by
    obtain ⟨attempt,cause⟩ := sound.absences absence member
    exact ⟨Nat.le_succ_of_le attempt,cause⟩
  running delivery running := by
    obtain rfl := Option.some.inj running
    refine ⟨?_,fun _ absent old => ⟨absent,old⟩,fun sequence absent old => sound.onward.gone sequence absent old,
      fun removal member _ => ⟨(sound.removals removal member).2.1,(sound.removals removal member).2.2.1⟩⟩
    cases read : Request.read contract message with
    | none => exact .rejected read (by simp [handle,read])
    | some request =>
      refine .opening request read (by simp only [handle,read]; rfl) ⟨?_,?_,rfl,fun _ member => absurd member List.not_mem_nil⟩
      · refine (List.length_eq_zero_iff.mpr (List.filter_eq_nil_iff.mpr fun removal member => ?_)).symm
        have before := (sound.removals removal member).1
        simp only [beq_iff_eq]
        omega
      · refine (List.length_eq_zero_iff.mpr (List.filter_eq_nil_iff.mpr fun absence member => ?_)).symm
        have before := (sound.absences absence member).1
        simp only [beq_iff_eq]
        omega
  recorded filed member := absurd (member.symm.trans unrecorded) (by simp)

theorem Sound.commit (sound : Sound contract message first s) (running : s.delivering = some delivery)
    {finished : Finished} (ended : delivery.program = .done (.ok finished)) {auditEventId : Nat} {now : Timestamp}
    {recorded : Recorded} (stored : finished.recorded message.messageId auditEventId now = some recorded) :
    Sound contract message first { s with delivering := none, recorded := some recorded } where
  toExplained := by
    refine sound.toExplained.env ?_ ?_ ?_ (.quiet rfl rfl rfl)
    all_goals rfl
  running other delivering := by cases delivering
  recorded filed member := by
    obtain rfl := Option.some.inj member
    refine ⟨rfl,?_⟩
    have inside := sound.running delivery running
    have filed : Filed contract message first s recorded := by
      cases inside.stage with
      | rejected unread program =>
        cases ended.symm.trans program
        cases stored
        exact .rejected unread
      | failed program => cases ended.symm.trans program
      | opening request read program tally => cases ended.symm.trans program
      | deleting request read counts past sequence more split program stored owned same old there tally =>
        cases ended.symm.trans program
      | looping request read counts past more split program tally =>
        cases more with
        | cons sequence more =>
          rw [rest_cons] at program
          cases ended.symm.trans program
        | nil =>
          cases ended.symm.trans program
          simp only [Finished.recorded,Option.ite_none_right_eq_some,Option.some.injEq] at stored
          obtain ⟨-,rfl⟩ := stored
          rw [List.append_nil] at split
          refine .applied request read counts auditEventId now ⟨tally.erased,tally.missing,split ▸ tally.total,
            fun sequence named cause => ?_⟩
          rcases cause with ⟨absent,old⟩ | ⟨removal,member,sooner,rfl⟩
          · obtain ⟨absent',old'⟩ := inside.before sequence absent old
            exact tally.found sequence (split ▸ named) absent' old'
          · obtain ⟨absent,old⟩ := inside.earlier removal member sooner
            exact tally.found removal.sequence (split ▸ named) absent old
    refine filed.congr ?_ ?_ ?_
    all_goals rfl

end Deliveries

theorem sound_step (sound : Sound contract message first s) {action : Action}
    (stepped : s.step contract message action = some next) : Sound contract message first next := by
  have effect := Erasing.step_effect contract message stepped
  cases action with
  | publish stored =>
    cases stepped
    refine sound.env ?_ ?_ ?_ effect (Nat.le_succ _) (fun sequence other old held => ?_) rfl rfl
    · rfl
    · rfl
    · rfl
    · exact (Erasing.publish_message_of_le old stored).symm.trans held
  | expire sequence =>
    simp only [Erasing.step] at stepped
    split at stepped
    · cases stepped
      refine sound.env ?_ ?_ ?_ effect (Nat.le_refl _) (fun other stored _ held => Erasing.without_eq_some held) rfl rfl
      all_goals rfl
    · cases stepped
  | deliver =>
    simp only [Erasing.step] at stepped
    split at stepped
    · cases stepped
    · split at stepped
      · cases stepped
        exact sound
      · rename_i unrecorded
        cases stepped
        exact sound.deliver (by simpa using unrecorded)
  | answer asError =>
    obtain ⟨delivery,running,answered⟩ := Option.bind_eq_some_iff.mp stepped
    exact sound.answer running answered
  | fail reached =>
    obtain ⟨delivery,running,failed⟩ := Option.bind_eq_some_iff.mp stepped
    exact sound.fail running failed
  | commit auditEventId now =>
    obtain ⟨delivery,running,committed⟩ := Option.bind_eq_some_iff.mp stepped
    split at committed
    · rename_i finished ended
      obtain ⟨recorded,stored,rfl⟩ := Option.map_eq_some_iff.mp committed
      exact sound.commit running ended stored
    · cases committed
  | rollback =>
    simp only [Erasing.step] at stepped
    split at stepped
    · rename_i running
      cases stepped
      obtain ⟨delivery,running⟩ := Option.isSome_iff_exists.mp running
      have unrecorded := sound.unrecorded running
      have explained := sound.toExplained
      refine ⟨explained.env ?_ ?_ ?_ effect,fun other delivering => ?_,fun filed member => ?_⟩
      · rfl
      · rfl
      · rfl
      · cases delivering
      · exact absurd (member.symm.trans unrecorded) (by simp)
    · cases stepped

/-- Only sequences up to the last one are given. -/
def EventStream.WellFormed (stream : EventStream) : Prop :=
  ∀ sequence stored, stream.message sequence = some stored → sequence ≤ stream.last

theorem sound_run (wellFormed : first.WellFormed) {actions : List Action}
    (ran : StateMachine.run (Erasing.step contract message) (Erasing.initial first) actions = some s) :
    Sound contract message first s := by
  refine StateMachine.run_invariant _ (Sound contract message first) (fun _ _ _ sound stepped => sound_step sound stepped)
    (Erasing.initial first) actions s ?_ ran
  have given : (Erasing.initial first).Given := wellFormed
  exact ⟨⟨given,.refl _,fun _ member => absurd member List.not_mem_nil,fun _ member => absurd member List.not_mem_nil⟩,
    fun _ running => absurd running (by simp [Erasing.initial]),fun _ filed => absurd filed (by simp [Erasing.initial])⟩

end Tallying

section Claims

variable {contract : Contract} {message : Incoming Json}

/-- A member of a stored envelope -/
def member (contract : Contract) (stored : StoredMessage) (name : String) : Option String :=
  ((contract.fromSlice stored.payload).bind (·.get name)).bind Json.asStr

theorem owns_iff (request : Request) (stored : StoredMessage) : request.owns contract stored = true ↔
    stored.subject ∈ erasableSubjects ∧ member contract stored "producer" = some request.producer ∧
      member contract stored "tenant_id" = some request.owner := by
  unfold Request.owns member
  by_cases erasable : stored.subject ∈ erasableSubjects
  · cases read : contract.fromSlice stored.payload with
    | none => simp [erasable]
    | some envelope => simp [erasable]
  · simp [erasable]

/-- What the deliveries of a command do to the stream, until some moment and from there on. -/
structure Disposes (contract : Contract) (message : Incoming Json) (s : Erasing) : Prop where
  /-- Only messages that are the request's are removed. -/
  removed : ∀ removal ∈ s.removed, ∃ request, Request.read contract message = some request ∧
    removal.sequence ∈ request.sequences ∧ removal.stored.subject ∈ erasableSubjects ∧
    member contract removal.stored "producer" = some request.producer ∧
    member contract removal.stored "tenant_id" = some request.owner
  /-- A message that is not removed stays as it is, while it does not expire. -/
  untouched : ∀ actions later, StateMachine.run (Erasing.step contract message) s actions = some later →
    ∀ sequence stored, s.stream.message sequence = some stored → later.stream.message sequence = some stored ∨
      (∃ removal ∈ later.removed, removal.sequence = sequence ∧ removal.stored = stored) ∨ sequence ∈ later.expired
  /-- Each sequence that is named counts once for each time it is named. -/
  counted : ∀ recorded, s.recorded = some recorded → ∀ rows, recorded.audit = some rows →
    ∃ request, Request.read contract message = some request ∧ rows.1.counts.total = request.sequences.length

/-- Erasure removes what the request owns and nothing else, and counts every named sequence. -/
theorem erasure_disposes (stream : EventStream) (wellFormed : stream.WellFormed) (actions : List Action) (s : Erasing)
    (ran : StateMachine.run (Erasing.step contract message) (Erasing.initial stream) actions = some s) :
    Disposes contract message s := by
  have sound := sound_run wellFormed ran
  refine ⟨fun removal listed => ?_,fun more later ran' => ?_,fun recorded filed rows audited => ?_⟩
  · obtain ⟨-,-,-,request,read,named,owned⟩ := sound.removals removal listed
    exact ⟨request,read,named,(owns_iff request removal.stored).mp owned⟩
  · exact (Erasing.run_onward contract message sound.given ran').message
  · cases (sound.recorded recorded filed).2 with
    | rejected => cases audited
    | applied request read counts auditEventId now accounted =>
      cases audited
      exact ⟨request,read,accounted.total⟩

/-- What the audit row of a command says of all its deliveries. -/
structure Reports (contract : Contract) (message : Incoming Json) (first : EventStream) (s : Erasing) (counts : Counts) :
    Prop where
  /-- `erased` is what the delivery removed that was recorded. -/
  erased : counts.erased = (s.removed.filter (·.attempt == s.attempts)).length
  /-- That is all of it just when no earlier delivery had removed any. -/
  whole : counts.erased = s.removed.length ↔ ∀ removal ∈ s.removed, removal.attempt = s.attempts
  /-- `missing` is what that delivery did not find. -/
  missing : counts.missing = (s.absent.filter (·.attempt == s.attempts)).length
  /-- It was absent before the first delivery, removed by one, or expired; -/
  causes : ∀ absence ∈ s.absent, first.message absence.sequence = none ∨
    (∃ removal ∈ s.removed, removal.sequence = absence.sequence) ∨ absence.sequence ∈ s.expired
  /-- and all that was absent before, or removed by an earlier delivery, is among it. -/
  found : ∀ request, Request.read contract message = some request → ∀ sequence ∈ request.sequences,
    (first.message sequence = none ∧ sequence ≤ first.last ∨
      ∃ removal ∈ s.removed, removal.attempt < s.attempts ∧ removal.sequence = sequence) →
    ⟨s.attempts,sequence⟩ ∈ s.absent

/-- The audit row reports the delivery that was recorded. -/
theorem erasure_reports (stream : EventStream) (wellFormed : stream.WellFormed) (actions : List Action) (s : Erasing)
    (ran : StateMachine.run (Erasing.step contract message) (Erasing.initial stream) actions = some s)
    (recorded : Recorded) (filed : s.recorded = some recorded) (rows : ErasureAudit × AuditEvent)
    (audited : recorded.audit = some rows) : Reports contract message stream s rows.1.counts := by
  have sound := sound_run wellFormed ran
  cases (sound.recorded recorded filed).2 with
  | rejected => cases audited
  | applied request read counts auditEventId now accounted =>
    cases audited
    refine ⟨accounted.erased,?_,accounted.missing,fun absence member => (sound.absences absence member).2,
      fun other read' sequence named cause => ?_⟩
    · rw [record,accounted.erased,List.length_filter_eq_length_iff]
      simp only [beq_iff_eq]
    · obtain rfl := Option.some.inj (read.symm.trans read')
      exact accounted.found sequence named cause

end Claims

section Archive

def ada : String := "user:018f0000-0000-7000-8000-000000000001"

/-- A conversation fact of one user, at sequence 5. -/
def conversation : StoredMessage :=
  ⟨"evt.ai_archive.conversation.added.v1",
    ("\x7b\"producer\":\"ratatoskr-chatgpt\",\"tenant_id\":\"" ++ ada ++ "\"\x7d").toUTF8.toList⟩

def archive : EventStream := ⟨5,fun sequence => if sequence = 5 then some conversation else none⟩

theorem archive_wellFormed : archive.WellFormed := by
  intro sequence stored held
  simp only [archive,Option.ite_none_right_eq_some] at held ⊢
  omega

/-- Readers of a command, and of that fact. -/
def readers : Contract where
  commandEnvelope json := do
    let text := fun name => (json.get name).bind Json.asStr
    return ⟨← text "producer",(text "tenant_id").bind TenantRef.parse,← text "aggregate_id",← text "correlation_id",
      ← json.get "payload"⟩
  erasureRequested json := do
    let owner ← ((json.get "owner").bind Json.asStr).bind TenantRef.parse
    let requestRef ← (json.get "request_ref").bind Json.asStr
    match json.get "stream_sequences" with
    | some (.array items) => return ⟨owner,requestRef,← items.mapM fun item =>
        match item with
        | .number text => (Text.ofDecimal text.toList).map Int.toNat
        | _ => none⟩
    | _ => none
  tenantText user := if TenantRef.parse ada = some user then ada else ""
  fromSlice bytes := if bytes = conversation.payload then
    some (.object [("producer",.string "ratatoskr-chatgpt"),("tenant_id",.string ada)]) else none

/-- A command that names some sequences. -/
def erasureCommand (sequences : List String) : Incoming Json where
  messageId := 1
  subject := erasureSubject
  producer := "ratatoskr-chatgpt"
  payload := .object [("producer",.string "ratatoskr-chatgpt"),("tenant_id",.string ada),
    ("aggregate_id",.string "privacy_request:7"),("correlation_id",.string "correlation:7"),
    ("payload",.object [("owner",.string ada),("request_ref",.string "privacy_request:7"),
      ("stream_sequences",.array (sequences.map .number))])]

/-- What one run leaves in the audit table, and how many messages it removed. -/
def reported (sequences : List String) (actions : List Action) : Option (Option Counts × Nat) :=
  (StateMachine.run (Erasing.step readers (erasureCommand sequences)) (Erasing.initial archive) actions).map fun s =>
    ((s.recorded.bind (·.audit)).map (·.1.counts),s.removed.length)

/-- A sequence that is named twice is counted twice. -/
theorem repeated_sequence_counted_twice :
    reported ["5","5"] [.deliver,.answer false,.answer false,.answer false,.answer false,.commit 2 0] =
        some (some ⟨1,1,0⟩,1) ∧
      (Request.read readers (erasureCommand ["5","5"])).map (·.sequences) = some [5,5] ∧
      (⟨1,1,0⟩ : Counts).total ≠ [5,5].dedup.length := by
  decide +kernel

/-- A message that a delivery erased before it rolled back is reported missing. -/
theorem erased_before_rollback_reported_missing :
    reported ["5"] [.deliver,.answer false,.answer false,.answer false,.rollback,.deliver,.answer false,.answer false,
      .commit 2 0] = some (some ⟨0,1,0⟩,1) ∧ archive.message 5 = some conversation := by
  decide +kernel

def erasedOnce : List Action := [.deliver,.answer false,.answer false,.answer false,.commit 2 0]

theorem erasure_disposes_conversation : ∃ s,
    StateMachine.run (Erasing.step readers (erasureCommand ["5"])) (Erasing.initial archive) erasedOnce = some s ∧
      Disposes readers (erasureCommand ["5"]) s :=
  ⟨_,by with_unfolding_all rfl,erasure_disposes archive archive_wellFormed erasedOnce _ (by with_unfolding_all rfl)⟩

theorem erasure_reports_conversation : ∃ s,
    StateMachine.run (Erasing.step readers (erasureCommand ["5"])) (Erasing.initial archive) erasedOnce = some s ∧
      Reports readers (erasureCommand ["5"]) archive s ⟨1,0,0⟩ :=
  ⟨_,by with_unfolding_all rfl,erasure_reports archive archive_wellFormed erasedOnce _ (by with_unfolding_all rfl)
    ⟨.applied,some (record 1 ⟨"ratatoskr-chatgpt",ada,"privacy_request:7","correlation:7",[5]⟩ ⟨1,0,0⟩ 2 0)⟩
    (by with_unfolding_all rfl) _ rfl⟩

end Archive

end Ratatoskr.Eventing.StreamErasure
