import Ratatoskr.Eventing.Inbox
import Ratatoskr.Scheduling.Publisher

/-! The command by which a domain service creates, edits, enables or disables a schedule of its own. -/
namespace Ratatoskr.Scheduling

open Transaction Eventing

def registrationCommandType : String := "platform.schedule.registration_requested.v1"

inductive ScheduleRegistration where
  | applied | rejected
deriving DecidableEq

/-- `PlatformScheduleRegistrationRequested`, in the texts its members print as -/
structure RegistrationRequested where
  serviceName : String
  name : String
  ownerUserId : UserId
  cronExpression : String
  commandType : String
  operationKind : String
  payload : List (String × Json)
  enabled : Bool

/-- The contract crate: what is a complete command envelope, and what its payload carries. -/
structure RegistrationContract where
  Envelope : Type
  fromJson : Json → Option Envelope
  producer : Envelope → String
  payloadAs : Envelope → Option RegistrationRequested

/-- One registration, read from the contract command. -/
structure Registration where
  serviceName : String
  name : String
  ownerUserId : UserId
  cronExpression : String
  commandType : String
  operationKind : String
  payload : Json
  enabled : Bool

/-- The ids drawn for the rows of one registration. -/
structure RegistrationDraws where
  scheduleId : ScheduleId
  auditEventId : Nat
deriving DecidableEq

/-- The registration a delivered message carries, `none` for anything but the contract command. -/
def Registration.read (contract : RegistrationContract) (message : Incoming Json) : Option Registration := do
  if message.subject ≠ "cmd." ++ registrationCommandType then none
  let envelope ← contract.fromJson message.payload
  if contract.producer envelope ≠ message.producer then none
  let body ← contract.payloadAs envelope
  return ⟨body.serviceName,body.name,body.ownerUserId,body.cronExpression,body.commandType,body.operationKind,
    .object body.payload,body.enabled⟩

/-- Tokens of at most 32 characters, of lower-case letters, digits and `_` -/
def isOperationKind (value : String) : Bool :=
  let segments := value.toList.splitOn '.'
  2 ≤ segments.length && segments.length ≤ 4 && segments.all (isToken Char.isLower isNameChar 31)

section Apply

variable (library : Library) (contract : RegistrationContract) (allowed : List String)

/-- The checks before the owner is looked up. -/
def Registration.admitted (input : Registration) (message : Incoming Json) (now : Timestamp) : Bool :=
  allowed.contains message.producer && message.producer == input.serviceName && isLabel input.serviceName &&
    isLabel input.name && isOperationKind input.operationKind &&
    (nextAfter library.cron input.cronExpression now).isSome && (Subject.new .command input.commandType).isOk &&
    input.payload.isObject

/-- What the audit trail says the correlation of a registration is. -/
def auditedCorrelation (message : Incoming Json) : String :=
  ((message.payload.get "correlation_id").bind Json.asStr).getD "correlation:unknown"

def auditEvent (ownerUserId : Option UserId) (scheduleId : Option ScheduleId) (outcome : AuditOutcome)
    (message : Incoming Json) (now : Timestamp) : AuditEvent where
  actorUserId := ownerUserId
  actorSessionId := none
  action := "schedule.registration"
  targetKind := "schedule"
  targetId := scheduleId
  outcome := outcome
  correlationId := auditedCorrelation message
  occurredAt := toOffset now

def audit (auditEventId : Nat) (event : AuditEvent) : Body Unit :=
  (AuditEvent.record auditEventId event).widen (μ := SchedulingRow) fun error : SchedulingError => some error

/-- A refusal that the audit trail keeps -/
def refuse (message : Incoming Json) (draws : RegistrationDraws) (now : Timestamp) : Body ScheduleRegistration := do
  audit draws.auditEventId (auditEvent none none .denied message now)
  pure .rejected

/-- The row a first registration inserts. -/
def Registration.row (input : Registration) (nextDueAt now : Timestamp) : Schedule where
  serviceName := input.serviceName
  name := input.name
  ownerUserId := input.ownerUserId
  commandType := input.commandType
  operationKind := input.operationKind
  payload := input.payload
  cronExpression := input.cronExpression
  nextDueAt := toOffset nextDueAt
  enabled := input.enabled
  createdAt := toOffset now
  updatedAt := toOffset now
  lastPublishedAt := none

/-- The row after a later registration; a due time that is already owed stays. -/
def Schedule.edited (row : Schedule) (input : Registration) (nextDueAt now : Timestamp) : Schedule :=
  { row with
    ownerUserId := input.ownerUserId
    commandType := input.commandType
    operationKind := input.operationKind
    payload := input.payload
    cronExpression := input.cronExpression
    enabled := input.enabled
    nextDueAt := if row.nextDueAt ≤ toOffset now then row.nextDueAt else toOffset nextDueAt
    updatedAt := toOffset now }

/-- Inserts the schedule of a service and name, or edits the one there is. Nothing deletes a schedule,
so a name that is taken has one. -/
def upsert (input : Registration) (nextDueAt : Timestamp) (scheduleId : ScheduleId) (now : Timestamp) : Body ScheduleId := do
  let fresh ← Tx.insertUnlessConflict (ν := Row) (.inl (.scheduleName input.serviceName input.name)) scheduleId
  if fresh then
    Tx.insertNew (ν := Row) (.inl (.schedule scheduleId)) (input.row nextDueAt now)
    pure scheduleId
  else
    match ← Tx.select (ν := Row) (.inl (.scheduleName input.serviceName input.name)) with
    | none => .refuse (.inl (.scheduleName input.serviceName input.name)) scheduleId
    | some stored => do
      let _ ← Tx.updateWhere (ν := Row) (.inl (.schedule stored)) (fun _ => true) fun row : Schedule =>
        row.edited input nextDueAt now
      pure stored

/-- Stores a registration that passed its checks, if its owner is an active user. -/
def store (input : Registration) (nextDueAt : Timestamp) (message : Incoming Json) (draws : RegistrationDraws)
    (now : Timestamp) : Body ScheduleRegistration := do
  let status ← Tx.select (ν := Row) (.inl (.userStatus input.ownerUserId))
  if status ≠ some "active" then refuse message draws now
  else do
    let scheduleId ← upsert input nextDueAt draws.scheduleId now
    audit draws.auditEventId (auditEvent (some input.ownerUserId) (some scheduleId) .allowed message now)
    pure .applied

def apply (message : Incoming Json) (draws : RegistrationDraws) (now : Timestamp) : Body ScheduleRegistration :=
  match Registration.read contract message with
  | none => refuse message draws now
  | some input =>
    if !input.admitted library allowed message now then refuse message draws now
    else
      match nextAfter library.cron input.cronExpression now with
      | none => pure .rejected
      | some nextDueAt => store input nextDueAt message draws now

end Apply

end Ratatoskr.Scheduling
