import Ratatoskr.Eventing.Subject
import Ratatoskr.Operations.Lifecycle
import Ratatoskr.PublicApi.Intake
import Ratatoskr.Scheduling.Cron
import Ratatoskr.Scheduling.Tables

/-! One transaction of the publisher. It takes the lease on a schedule, publishes the occurrence that
is due unless it has been published, and moves the schedule forward. -/
namespace Ratatoskr.Scheduling

open Transaction

/-- The payload of a digest occurrence: the schedule's grid and not the clock says what it covers. -/
structure DigestOccurrence where
  scheduleRef : String
  occurrenceRef : String
  previousDueAt : Timestamp
  dueAt : Timestamp
deriving DecidableEq

/-- The `CommandEnvelope` of the contracts around a digest occurrence -/
structure DigestEnvelope where
  commandId : MessageId
  commandType : String
  issuedAt : Timestamp
  producer : String
  aggregateId : String
  correlationId : OperationId
  tenantId : UserId
  payload : DigestOccurrence
deriving DecidableEq

/-- `platform_eventing::Command` with its payload -/
structure Command where
  commandId : MessageId
  commandType : String
  operationId : OperationId
  principal : UserId
  correlationId : String
  idempotencyKey : String
  requestedAt : Timestamp
  payload : Json

inductive Message where
  | command (command : Command)
  | digest (envelope : DigestEnvelope)

/-- What other crates decide: the cron grid, name-based ids, the grammars of the digest contract and
the JSON text of a message. -/
structure Library where
  cron : CronCrate
  newV5 : String → MessageId
  uuidText : Nat → String
  isScheduleRef : String → Bool
  isOccurrenceRef : String → Bool
  isEntityRef : String → Bool
  isProducerName : String → Bool
  validForPublish : DigestOccurrence → Bool
  wire : Message → String

/-- The ids and the correlation minted for one occurrence. -/
structure Draws where
  operationId : OperationId
  correlation : EntityRef
  outboxId : Nat
  commandId : MessageId
deriving DecidableEq

inductive SchedulingError where
  | invalidSubject (error : Eventing.InvalidSubject)
  | operation (error : Operations.OperationError)
  | unusableRow (scheduleId : ScheduleId) (column : String)
deriving DecidableEq

/-- What one occurrence put into the outbox. -/
structure Publication where
  scheduleId : ScheduleId
  dueAt : Int
  operationId : OperationId
  message : Message

/-- What handling one schedule produced; a suppressed occurrence publishes nothing. -/
structure Handled where
  name : String
  published : Option Publication
  driftSeconds : Int

def digestCommandType : String := "channel_digest.schedule.occurrence_requested.v1"

def platformProducer : String := "ratatoskr-platform"

/-- Seven days -/
def digestMaxSpan : Timestamp := 604800000000000

/-- Leaving with `none` is `Ok(None)`, leaving with an error is a failed schedule. -/
abbrev Body := Tx Row (Option SchedulingError)

section Publisher

variable (library : Library)

/-- Deterministic identifier of the occurrence of a schedule due at an instant. -/
def occurrenceId (scheduleId : ScheduleId) (dueAt : Timestamp) : MessageId :=
  library.newV5 (library.uuidText scheduleId ++ ":" ++ toString (toOffset dueAt))

def occurrenceRef (id : MessageId) : String := "schedule-occurrence:" ++ library.uuidText id

/-- Locks the schedule and reads it back. `skip locked` leaves where this waits, and a transaction
that leaves without a row has done what a crashed one has. -/
def claim (scheduleId : ScheduleId) (now : Timestamp) : Body (Option Schedule) :=
  Tx.selectForUpdate (ν := Row) (.inl (.schedule scheduleId)) fun row : Schedule =>
    row.enabled && row.nextDueAt ≤ toOffset now

/-- Whether this occurrence has already been published. -/
def recorded (id : MessageId) : Body Bool := do
  let row ← Tx.select (ν := Row) (.inl (.occurrence id))
  pure row.isSome

/-- The typed envelope of a digest occurrence. -/
def digestOccurrence (scheduleId : ScheduleId) (schedule : Schedule) (id : MessageId) (operationId : OperationId)
    (now : Timestamp) : Except SchedulingError DigestEnvelope :=
  let unusable (column : String) := Except.error (SchedulingError.unusableRow scheduleId column)
  let dueAt := fromOffset schedule.nextDueAt
  match previousBefore library.cron schedule.cronExpression dueAt digestMaxSpan with
  | none => unusable "cron_expression"
  | some previousDueAt =>
    let payload : DigestOccurrence :=
      ⟨"schedule:" ++ library.uuidText scheduleId,occurrenceRef library id,previousDueAt,dueAt⟩
    if !library.isScheduleRef payload.scheduleRef then unusable "schedule_id"
    else if !library.isOccurrenceRef payload.occurrenceRef then unusable "schedule_id"
    else if !library.validForPublish payload then unusable "cron_expression"
    else if !library.isProducerName platformProducer then unusable "producer"
    else if !library.isEntityRef payload.occurrenceRef then unusable "schedule_id"
    else .ok ⟨id,digestCommandType,now,platformProducer,payload.occurrenceRef,operationId,schedule.ownerUserId,payload⟩

/-- The envelope of an occurrence, typed for a digest and untyped for every other command. -/
def envelope (scheduleId : ScheduleId) (schedule : Schedule) (id : MessageId) (draws : Draws) (now : Timestamp) :
    Except SchedulingError Message :=
  if schedule.commandType = digestCommandType then
    (digestOccurrence library scheduleId schedule id draws.operationId now).map .digest
  else
    .ok (.command ⟨draws.commandId,schedule.commandType,draws.operationId,schedule.ownerUserId,draws.correlation.val,
      library.uuidText id,now,schedule.payload⟩)

/-- The registering service, when the kind lists it. -/
def reporter (schedule : Schedule) : Option String :=
  (some schedule.serviceName).filter fun service => Operations.allows schedule.operationKind service

def occurrenceRow (scheduleId : ScheduleId) (schedule : Schedule) (driftSeconds : Int) (operationId : OperationId)
    (now : Timestamp) : Occurrence :=
  ⟨scheduleId,schedule.nextDueAt,toOffset now,driftSeconds,operationId⟩

/-- Inserts an occurrence under both of its unique keys. -/
def insertOccurrence (id : MessageId) (row : Occurrence) : Body Unit := do
  Tx.insertNew (ν := Row) (.inl (.occurrence id)) row
  Tx.insertNew (ν := Row) (.inl (.occurrenceDue row.scheduleId row.dueAt)) id

/-- Builds the envelope and enqueues it. -/
def enqueueOccurrence (scheduleId : ScheduleId) (schedule : Schedule) (id : MessageId) (subject : String) (draws : Draws)
    (now : Timestamp) : Body Publication :=
  match envelope library scheduleId schedule id draws now with
  | .error error => .abandon (some error)
  | .ok message => do
    let _ ← (Eventing.Outbox.enqueue draws.outboxId id subject (library.wire message) (some draws.operationId) now).widen
      (μ := SchedulingRow) fun error : SchedulingError => some error
    pure ⟨scheduleId,schedule.nextDueAt,draws.operationId,message⟩

/-- Creates the operation, records the occurrence, and enqueues the command. -/
def publish (scheduleId : ScheduleId) (schedule : Schedule) (id : MessageId) (driftSeconds : Int) (draws : Draws)
    (now : Timestamp) : Body Publication :=
  match Eventing.Subject.new .command schedule.commandType with
  | .error error => .abandon (some (.invalidSubject error))
  | .ok subject => do
    let accepted ← (Operations.accept draws.operationId schedule.ownerUserId schedule.operationKind draws.correlation.val
      (some (library.uuidText id)) (reporter schedule) now).widen (μ := SchedulingRow) fun error : SchedulingError => some error
    match accepted with
    | .error error => .abandon (some (.operation error))
    | .ok _ => do
      insertOccurrence id (occurrenceRow scheduleId schedule driftSeconds draws.operationId now)
      enqueueOccurrence library scheduleId schedule id subject draws now

def Schedule.rescheduled (row : Schedule) (nextDueAt : Timestamp) (published : Bool) (now : Timestamp) : Schedule :=
  { row with
    nextDueAt := toOffset nextDueAt
    updatedAt := toOffset now
    lastPublishedAt := if published then some (toOffset now) else row.lastPublishedAt }

/-- Moves the schedule to its next due time. -/
def reschedule (scheduleId : ScheduleId) (nextDueAt : Timestamp) (published : Bool) (now : Timestamp) : Body Unit := do
  let _ ← Tx.updateWhere (ν := Row) (.inl (.schedule scheduleId)) (fun _ => true) fun row : Schedule =>
    row.rescheduled nextDueAt published now

def driftSeconds (schedule : Schedule) (now : Timestamp) : Int :=
  max ((now - fromOffset schedule.nextDueAt).tdiv 1000000000) 0

/-- The publication of a due occurrence, `none` when it has been published before. -/
def publishOnce (scheduleId : ScheduleId) (schedule : Schedule) (draws : Draws) (now : Timestamp) :
    Body (Option Publication) := do
  let id := occurrenceId library scheduleId (fromOffset schedule.nextDueAt)
  if ← recorded id then pure none
  else do
    let publication ← publish library scheduleId schedule id (driftSeconds schedule now) draws now
    pure (some publication)

/-- Moves a handled schedule forward and says what happened. -/
def advance (scheduleId : ScheduleId) (schedule : Schedule) (now : Timestamp) (published : Option Publication) :
    Body Handled :=
  match nextAfter library.cron schedule.cronExpression (fromOffset schedule.nextDueAt) with
  | none => .abandon (some (.unusableRow scheduleId "cron_expression"))
  | some nextDueAt => do
    reschedule scheduleId nextDueAt published.isSome now
    pure ⟨schedule.name,published,driftSeconds schedule now⟩

def handle (scheduleId : ScheduleId) (draws : Draws) (now : Timestamp) : Body Handled := do
  match ← claim scheduleId now with
  | none => .abandon none
  | some schedule => do
    let published ← publishOnce library scheduleId schedule draws now
    advance library scheduleId schedule now published

end Publisher

section Retention

/-- Deletes one occurrence recorded before an instant. -/
def collectOccurrence (before : Timestamp) (id : MessageId) : Body Bool := do
  let found ← Tx.selectForUpdate (ν := Row) (.inl (.occurrence id)) fun row : Occurrence =>
    row.publishedAt < toOffset before
  match found with
  | none => pure false
  | some row => do
    let _ ← Tx.deleteWhere (ν := Row) (.inl (.occurrence id)) fun _ => true
    let _ ← Tx.deleteWhere (ν := Row) (.inl (.occurrenceDue row.scheduleId row.dueAt)) fun _ => true
    pure true

/-- Deletes occurrence records older than `before`; which ones, when there are more than the limit, is
not said. -/
def collectOccurrencesBefore (before : Timestamp) : List MessageId → Body Nat
  | [] => pure 0
  | id :: ids => do
    let removed ← collectOccurrence before id
    let others ← collectOccurrencesBefore before ids
    pure (if removed then others + 1 else others)

end Retention

/-- What one pass did. -/
structure SchedulerReport where
  due : Nat
  published : Nat
  suppressed : Nat
  failed : Nat
deriving DecidableEq

end Ratatoskr.Scheduling
