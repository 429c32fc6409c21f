import Ratatoskr.Eventing.Outbox
import Ratatoskr.Idempotency.Ledger
import Ratatoskr.Operations.Lifecycle

/-! The transaction that every accepting route shares. It reserves the key, creates the operation,
does the route's own work, completes the reservation and writes the audit record. -/
namespace Ratatoskr

open Transaction

/-- Adds a message to the outbox unless its id is there already. -/
def Eventing.Outbox.enqueue {β : Type} (outboxId : Nat) (messageId : MessageId) (subject payload : String)
    (operationId : Option OperationId) (now : Timestamp) : Tx TableRow β Bool :=
  Tx.insertUnlessConflict (ν := TableRow) (.outbox messageId)
    (Eventing.Outbox.enqueuedRow outboxId messageId subject payload operationId now)

/-- Appends an audit record. -/
def AuditEvent.record {β : Type} (auditEventId : Nat) (event : AuditEvent) : Tx TableRow β Unit :=
  Tx.insertNew (ν := TableRow) (.audit auditEventId) event

namespace PublicApi

/-- The refusals that a route can answer. -/
inductive FailureKind where
  | routeNotFound | methodNotAllowed | payloadTooLarge | requestTimeout | unauthenticated | forbidden
  | capabilityNotGranted | notFound | invalidRequest | missingIdempotencyKey | idempotencyConflict
  | manifestDigestStale | siteHostnameTaken | rateLimited | overloaded | upstreamUnavailable
  | upstreamInvalidResponse | upstreamTimeout
deriving DecidableEq

/-- How a request is answered that creates nothing. -/
inductive Answer where
  | replayed (operationId : OperationId)
  | refused (kind : FailureKind)
deriving DecidableEq

/-- The digest behind `of_key` and `of_body`, and the time a reservation lives. -/
structure Settings where
  sha256 : List UInt8 → Digest
  idempotencyTtl : Timestamp

def Settings.ofKey (settings : Settings) (key : String) : Digest := settings.sha256 key.toUTF8.toList

/-- What is fixed about an accepting route: the path its ledger rows carry, the kind of the operation
it creates, the audited action and the one service that may report. -/
structure Route where
  route : String
  kind : String
  auditAction : String
  reporter : Option String
deriving DecidableEq

/-- One request, with the ids that are drawn for its new rows. -/
structure Arrival where
  userId : UserId
  sessionId : Option Nat
  key : String
  fingerprint : List UInt8
  correlation : String
  now : Timestamp
  recordId : Nat
  operationId : OperationId
  auditEventId : Nat
deriving DecidableEq

structure Submission extends Route, Arrival
deriving DecidableEq

namespace Submission

variable (settings : Settings) (s : Submission)

def scope : Idempotency.Scope := ⟨s.userId,s.route,s.kind,settings.ofKey s.key⟩

def digest : Digest := settings.sha256 s.fingerprint

/-- The operation it creates. -/
def operation : Operations.Operation :=
  Operations.newOperation s.userId s.kind s.correlation (some s.key) s.reporter s.now

/-- The audit record of one accepted request. -/
def event : AuditEvent where
  actorUserId := some s.userId
  actorSessionId := s.sessionId
  action := s.auditAction
  targetKind := "operation"
  targetId := some s.operationId
  outcome := .allowed
  correlationId := s.correlation
  occurredAt := toOffset s.now

/-- What follows a fresh reservation. -/
def proceed (recordId : Nat) (work : Operations.Operation → Tx TableRow Answer Unit) : Tx TableRow Answer OperationId := do
  match ← Operations.accept s.operationId s.userId s.kind s.correlation (some s.key) s.reporter s.now with
  | .error _ => .abandon (.refused .requestTimeout)
  | .ok operation => do
    work operation
    Idempotency.complete (s.scope settings) recordId (some s.operationId) 202 s.now
    AuditEvent.record s.auditEventId s.event
    pure s.operationId

/-- The transaction of an accepting route around its own work; a value is the answer to a fresh
request, and leaving without a commit rolls everything back. -/
def accept (work : Operations.Operation → Tx TableRow Answer Unit) : Tx TableRow Answer OperationId := do
  match ← Idempotency.reserve (s.scope settings) (s.digest settings) s.now settings.idempotencyTtl s.recordId with
  | .error _ => .abandon (.refused .requestTimeout)
  | .ok reservation =>
    match reservation.outcome with
    | .replay operationId => .abandon (.replayed operationId)
    | .refuse => .abandon (.refused .idempotencyConflict)
    | .proceed recordId => s.proceed settings recordId work

end Submission

/-- The command one accepted request produces. -/
structure Prepared where
  subject : String
  commandId : MessageId
  payload : String
deriving DecidableEq

/-- A request of a route that uses `admit`. `prepare` builds its command once the operation exists. -/
structure Intake extends Submission where
  outboxId : Nat
  siteEdit : Option SiteEdit
  prepare : Operations.Operation → Except FailureKind (Option Prepared)

namespace Intake

variable (settings : Settings) (intake : Intake)

/-- Adds the command to the outbox, when the route enqueues one. -/
def command : Option Prepared → Tx TableRow Answer Unit
  | none => pure ()
  | some prepared => do
    let _ ← Eventing.Outbox.enqueue intake.outboxId prepared.commandId prepared.subject prepared.payload
      (some intake.operationId) intake.now

/-- Writes the row of a site edit in the transaction of its operation. -/
def record : Option SiteEdit → Tx TableRow Answer Unit
  | none => pure ()
  | some row => Tx.insertNew (ν := TableRow) (.siteEdit intake.operationId) row

def work (operation : Operations.Operation) : Tx TableRow Answer Unit :=
  match intake.prepare operation with
  | .error kind => .abandon (.refused kind)
  | .ok prepared => do
    intake.command prepared
    intake.record intake.siteEdit

def admitOperation : Tx TableRow Answer OperationId := intake.toSubmission.accept settings intake.work

end Intake

end PublicApi

end Ratatoskr
