import Ratatoskr.Eventing.Tables
import Ratatoskr.Lib.Transaction
import Ratatoskr.Operations.Record

/-! The tables that a transaction of the platform reads and writes, by primary key. -/
namespace Ratatoskr

open Transaction

/-- A SHA-256 digest. -/
abbrev Digest := BitVec 256

namespace Idempotency

/-- `idempotency_scope_key`: a key is only meaningful for one actor, route and operation kind. -/
structure Scope where
  ownerUserId : UserId
  route : String
  operationKind : String
  keyHash : Digest
deriving DecidableEq

/-- One row of `operations.idempotency_records` -/
structure Record where
  recordId : Nat
  requestFingerprint : Digest
  operationId : Option OperationId
  responseStatus : Option Nat
  reservedAt : Int
  completedAt : Option Int
  expiresAt : Int
deriving DecidableEq

/-- `^/v[1-9][0-9]{0,2}(/[a-z][a-z0-9_-]{0,63}){1,6}$` -/
def isVersionedPath (route : String) : Bool :=
  match route.toList.splitOn '/' with
  | [] :: version :: segments =>
    Eventing.isVersion version && 1 ≤ segments.length && segments.length ≤ 6 &&
      segments.all (isToken Char.isLower isNamespaceChar 63)
  | _ => false

def Record.checks (scope : Scope) (row : Record) : Bool :=
  isVersionedPath scope.route && isDottedName scope.operationKind &&
  row.responseStatus.all (fun status => 100 ≤ status && status ≤ 599) &&
  row.reservedAt < row.expiresAt && row.completedAt.all (row.reservedAt ≤ ·) &&
  (row.completedAt.isNone == row.responseStatus.isNone)

end Idempotency

/-- One row of `operations.site_edits` -/
structure SiteEdit where
  siteId : String
  sourceRef : String
  revision : String
deriving DecidableEq

inductive AuditOutcome where
  | allowed | denied | failed
deriving DecidableEq

/-- One row of `identity.audit_events` -/
structure AuditEvent where
  actorUserId : Option UserId
  actorSessionId : Option Nat
  action : String
  targetKind : String
  targetId : Option Nat
  outcome : AuditOutcome
  correlationId : String
  occurredAt : Int
deriving DecidableEq

def SiteEdit.checks (row : SiteEdit) : Bool :=
  lengthBetween 3 40 row.siteId && (row.siteId.toList.all fun c => c.isLower || c.isDigit || c == '-') &&
  lengthBetween 1 128 row.sourceRef &&
  (row.sourceRef.toList.all fun c => c.isAlphanum || c == '_' || c == '-') &&
  Operations.isLowerHex row.revision

def AuditEvent.checks (row : AuditEvent) : Bool :=
  lengthBetween 1 120 row.action && lengthBetween 1 60 row.targetKind && isNamespaced row.correlationId

/-- A primary or unique key with its values. The unique index of the operations on owner, kind and
idempotency key is a table of its own; the outbox is keyed by its unique message id. -/
inductive Table where
  | operation (operationId : OperationId)
  | operationKey (ownerUserId : UserId) (kind idempotencyKey : String)
  | archiveAcceptance (operationId : OperationId)
  | siteEdit (operationId : OperationId)
  | outbox (messageId : MessageId)
  | idempotency (scope : Idempotency.Scope)
  | audit (auditEventId : Nat)
deriving DecidableEq

abbrev TableRow : Table → Type
  | .operation _ => Operations.OperationRecord
  | .operationKey _ _ _ => OperationId
  | .archiveAcceptance _ => Operations.AiArchiveAcceptance
  | .siteEdit _ => SiteEdit
  | .outbox _ => Eventing.OutboxRow
  | .idempotency _ => Idempotency.Record
  | .audit _ => AuditEvent

abbrev Db := Store TableRow

/-- The CHECK constraints of the tables and the lifecycle guard of the operations. -/
def schema : Constraints TableRow
  | .operation _,stored,row => Operations.OperationRecord.admits stored row
  | .operationKey _ _ _,_,_ => true
  | .archiveAcceptance _,_,row => row.checks
  | .siteEdit _,_,row => row.checks
  | .outbox _,_,row => row.checks
  | .idempotency scope,_,row => row.checks scope
  | .audit _,_,row => row.checks

end Ratatoskr
