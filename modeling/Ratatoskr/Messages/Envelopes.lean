import Ratatoskr.Eventing.Consumer
import Ratatoskr.Ingest.Webhook
import Ratatoskr.PublicApi.Cancelling
import Ratatoskr.Scheduling.Publisher
import Ratatoskr.Sites.Approvals

/-! The documents that go into the outbox, with the identity that each of them carries, and the statements that
enqueue them. -/
namespace Ratatoskr.Messages

open Transaction Eventing PublicApi Scheduling

abbrev Members := List (String × Json)

/-- The `CommandEnvelope` of the contracts -/
structure CommandEnvelope where
  commandId : MessageId
  commandType : String
  issuedAt : Timestamp
  producer : String
  aggregateId : String
  correlationId : String
  tenantId : UserId
  payload : Members

/-- The `EventEnvelope` of the contracts -/
structure EventEnvelope where
  eventId : MessageId
  eventType : String
  occurredAt : Timestamp
  producer : String
  aggregateId : String
  correlationId : String
  tenantId : UserId
  payload : Members

/-- A payload with the name of its command type, and its members as they are serialized. -/
structure CommandPayload where
  commandType : String
  members : Members

structure FileWriteRequested where
  operationId : OperationId
  idempotencyKey : Digest
  connectionId : Nat
  origin : String
  operation : Json

structure ReleaseBuildRequested where
  operationId : OperationId
  siteId : SiteId

/-- What a digest request asks for; a run has its window and is accepted at the end of it. -/
inductive DigestRequested where
  | subscription (operationId : OperationId) (owner : UserId) (idempotencyKey channelUsername desiredState : String)
  | run (operationId : OperationId) (owner : UserId) (digestRunId : Nat) (idempotencyKey : String)
      (startAt endAt : Timestamp) (outputLanguage : String)

/-- What other crates write: the text of a stored document, of an identifier and of an instant, and the
envelopes and payloads of the contracts. -/
structure Wire where
  text : Json → String
  uuid : Nat → String
  instant : Timestamp → String
  command : CommandEnvelope → Json
  event : EventEnvelope → Json
  isEntityRef : String → Bool
  validForPublish : DigestRequested → Bool
  capture : CaptureEnvelope → CommandPayload
  fileWrite : FileWriteRequested → CommandPayload
  releaseBuild : ReleaseBuildRequested → CommandPayload
  digest : DigestRequested → CommandPayload
  occurrence : DigestOccurrence → Members
  approvalType : String
  approvalChanged : Sites.SiteApprovalChanged → Members

section Documents

variable (wire : Wire)

/-- `OperationId::as_entity_ref` -/
def operationRef (operationId : OperationId) : String := "operation:" ++ wire.uuid operationId

/-- `Command::envelope` around its own command id. -/
def envelope (command : Scheduling.Command) : Json :=
  .object [("command_id",.string (wire.uuid command.commandId)),("command_type",.string command.commandType),
    ("requested_at",.string (wire.instant command.requestedAt)),("operation_id",.string (wire.uuid command.operationId)),
    ("tenant_id",.string ("user:" ++ wire.uuid command.principal)),("correlation_id",.string command.correlationId),
    ("idempotency_key",.string command.idempotencyKey),("payload",command.payload)]

def captureCommand (captured : CaptureEnvelope) : CommandEnvelope :=
  let payload := wire.capture captured
  ⟨captured.commandId,payload.commandType,captured.issuedAt,platformProducer,operationRef wire captured.operationId,
    captured.correlationId,captured.tenantId,payload.members⟩

/-- The captures with the envelope that is sent. -/
def captures (contract : CaptureContract) : CaptureContract :=
  { contract with render := fun captured => wire.text (wire.command (captureCommand wire captured)) }

def occurrenceCommand (digest : DigestEnvelope) : CommandEnvelope :=
  ⟨digest.commandId,digest.commandType,digest.issuedAt,digest.producer,digest.aggregateId,
    operationRef wire digest.correlationId,digest.tenantId,wire.occurrence digest.payload⟩

/-- The document of an occurrence. -/
def occurrenceDocument : Message → Json
  | .command command => envelope wire command
  | .digest digest => wire.command (occurrenceCommand wire digest)

/-- The publisher with the envelopes that are sent. -/
def publisher (library : Library) : Library :=
  { library with uuidText := wire.uuid, wire := fun message => wire.text (occurrenceDocument wire message) }

def cancelCommandType : String := "platform.operation.cancel_requested.v1"

/-- The command of a cancellation. `drawn` is the id that its envelope draws for itself. -/
def cancelDocument (drawn : MessageId) (command : CancelCommand) : Json :=
  envelope wire ⟨drawn,cancelCommandType,command.operationId,command.principal,command.correlationId,
    wire.uuid command.operationId,command.requestedAt,
    .object [("requested_at",.string (wire.instant command.requestedAt))]⟩

def approvalEvent (announcement : Sites.Announcement) : EventEnvelope :=
  ⟨announcement.eventId,wire.approvalType,announcement.occurredAt,platformProducer,announcement.aggregateId,
    announcement.correlationId,announcement.tenantId,wire.approvalChanged announcement.payload⟩

/-- A typed command as the row the outbox stores. -/
def prepared (payload : CommandPayload) (aggregateId correlationId : String) (commandId : MessageId) (user : UserId)
    (now : Timestamp) : Except FailureKind Prepared :=
  match Subject.new .command payload.commandType with
  | .error _ => .error .requestTimeout
  | .ok subject =>
    if !wire.isEntityRef aggregateId then .error .requestTimeout
    else .ok ⟨subject,commandId,wire.text (wire.command
      ⟨commandId,payload.commandType,now,platformProducer,aggregateId,correlationId,user,payload.members⟩)⟩

end Documents

section Routes

variable (wire : Wire)

/-- A write to a vault, the resolution of a conflict, or the edit of a site owner. -/
structure FileWrite extends Arrival where
  outboxId : Nat
  siteEdit : Option SiteEdit
  commandId : MessageId
  command : FileWriteRequested

/-- `notes_writes::envelope` -/
def FileWrite.envelope (write : FileWrite) : Except FailureKind Prepared :=
  let command := { write.command with operationId := write.operationId }
  let operation := operationRef wire command.operationId
  prepared wire (wire.fileWrite command) operation operation write.commandId write.userId write.now

def FileWrite.intake (write : FileWrite) : Intake where
  toRoute := if write.siteEdit.isSome then Routes.siteEdits else Routes.fileWrites
  toArrival := write.toArrival
  outboxId := write.outboxId
  siteEdit := write.siteEdit
  prepare _ := (write.envelope wire).map some

/-- A build of a site. -/
structure ReleaseBuild extends Arrival where
  outboxId : Nat
  commandId : MessageId
  site : SiteId

/-- `site_releases::command` -/
def ReleaseBuild.command (build : ReleaseBuild) : Except FailureKind Prepared :=
  prepared wire (wire.releaseBuild ⟨build.operationId,build.site⟩) ("site:" ++ build.site)
    (operationRef wire build.operationId) build.commandId build.userId build.now

def ReleaseBuild.intake (build : ReleaseBuild) : Intake where
  toRoute := Routes.siteReleases
  toArrival := build.toArrival
  outboxId := build.outboxId
  siteEdit := none
  prepare _ := (build.command wire).map some

/-- `RUN_WINDOW` -/
def runWindow : Timestamp := 24 * 3600 * 1000000000

inductive DigestChoice where
  | subscription (channelUsername desiredState : String)
  | run (digestRunId : Nat) (outputLanguage : String)

/-- A request of one of the digest routes. -/
structure DigestRequest extends Arrival where
  outboxId : Nat
  commandId : MessageId
  choice : DigestChoice

def DigestRequest.requested (request : DigestRequest) : DigestRequested :=
  let idempotencyKey := "operation." ++ wire.uuid request.operationId
  match request.choice with
  | .subscription channelUsername desiredState =>
    .subscription request.operationId request.userId idempotencyKey channelUsername desiredState
  | .run digestRunId outputLanguage =>
    .run request.operationId request.userId digestRunId idempotencyKey (request.now - runWindow) request.now outputLanguage

def DigestRequest.aggregate (request : DigestRequest) : String :=
  match request.choice with
  | .subscription _ _ => operationRef wire request.operationId
  | .run digestRunId _ => "channel-digest-run:" ++ wire.uuid digestRunId

/-- `channel_digests::envelope`, once the command is valid. -/
def DigestRequest.envelope (request : DigestRequest) : Except FailureKind Prepared :=
  let command := request.requested wire
  if !wire.validForPublish command then .error .requestTimeout
  else prepared wire (wire.digest command) (request.aggregate wire) (operationRef wire request.operationId)
    request.commandId request.userId request.now

def DigestRequest.intake (request : DigestRequest) : Intake where
  toRoute := match request.choice with
    | .subscription _ _ => Routes.subscriptions
    | .run _ _ => Routes.runs
  toArrival := request.toArrival
  outboxId := request.outboxId
  siteEdit := none
  prepare _ := (request.envelope wire).map some

end Routes

/-- What the paths share: the settings, and what other crates decide. -/
structure Platform where
  settings : Settings
  contract : CaptureContract
  library : Library
  wire : Wire

/-- A path that enqueues, with what its envelope is built from. A cancellation has the id of its message and the
one its envelope draws; an occurrence has the row of its schedule. -/
inductive Source where
  | capture (capture : Capture)
  | fileWrite (write : FileWrite)
  | build (build : ReleaseBuild)
  | digest (request : DigestRequest)
  | webhook (signal : Ingest.Signal)
  | cancellation (request : CancelRequest) (drawn : MessageId)
  | occurrence (scheduleId : ScheduleId) (schedule : Schedule) (draws : Draws) (now : Timestamp)
  | approval (announcement : Sites.Announcement)

/-- The statements of a transaction on the tables of the operations, among all tables. -/
def onOperations {α β : Type} (body : Tx TableRow β α) : Tx Scheduling.Row Unit Unit :=
  (body.widen fun _ => ()).adapt id fun _ => ()

/-- What `announce` puts into the outbox. -/
def enqueueApproval (wire : Wire) (announcement : Sites.Announcement) : Tx TableRow FailureKind Bool :=
  match Subject.new .event wire.approvalType with
  | .error _ => .abandon .requestTimeout
  | .ok subject => Outbox.enqueue announcement.outboxId announcement.eventId subject
      (wire.text (wire.event (approvalEvent wire announcement))) none announcement.occurredAt

variable (platform : Platform)

def Platform.publisher : Library := Messages.publisher platform.wire platform.library

/-- The statements of a path. -/
def Source.statements : Source → Tx Scheduling.Row Unit Unit
  | .capture given =>
    onOperations ((given.intake platform.settings (captures platform.wire platform.contract)).admitOperation
      platform.settings)
  | .fileWrite given => onOperations ((given.intake platform.wire).admitOperation platform.settings)
  | .build given => onOperations ((given.intake platform.wire).admitOperation platform.settings)
  | .digest given => onOperations ((given.intake platform.wire).admitOperation platform.settings)
  | .webhook signal => onOperations (signal.accept platform.settings (captures platform.wire platform.contract))
  | .cancellation request drawn =>
    onOperations (request.cancel fun command => platform.wire.text (cancelDocument platform.wire drawn command))
  | .occurrence scheduleId schedule draws now =>
    (publish platform.publisher scheduleId schedule
      (occurrenceId platform.publisher scheduleId (fromOffset schedule.nextDueAt)) (driftSeconds schedule now) draws
      now).adapt (fun _ => ()) fun _ => ()
  | .approval announcement => onOperations (enqueueApproval platform.wire announcement)

/-- A transaction: one path, or the handling of a schedule with whatever row it finds. -/
inductive Job where
  | path (source : Source)
  | schedule (scheduleId : ScheduleId) (draws : Draws) (now : Timestamp)

def Job.program : Job → Tx Scheduling.Row Unit Unit
  | .path source => source.statements platform
  | .schedule scheduleId draws now =>
    (handle platform.publisher scheduleId draws now).adapt (fun _ => ()) fun _ => ()

/-- The paths that a transaction may take. -/
def Job.Takes : Job → Source → Prop
  | .path own,source => source = own
  | .schedule scheduleId draws now,source => ∃ schedule, source = .occurrence scheduleId schedule draws now

end Ratatoskr.Messages
