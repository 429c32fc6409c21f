import Ratatoskr.Json
import Ratatoskr.Schema

/-! The identity tables with their CHECK constraints. -/
namespace Ratatoskr.Identity

open Transaction

abbrev SessionId := Nat
abbrev DeviceId := Nat
abbrev TokenId := Nat
abbrev PairingCodeId := Nat
abbrev RevocationId := Nat
abbrev RelayId := Nat

/-- Which client installed itself. -/
inductive DeviceKind where
  | mobile | browserExtension | exportAgent | obsidianPlugin | siteDeployer
deriving DecidableEq

/-- How a session was established. -/
inductive SessionKind where
  | browser | device | telegramMiniApp | service | apiToken | siteOwner
deriving DecidableEq

inductive RevocationSubject where
  | user | session | device | refreshToken
deriving DecidableEq

inductive RevocationReason where
  | userRequest | administrative | credentialRotation | suspectedCompromise | expiryPolicy
deriving DecidableEq

/-- One row of `identity.users` -/
structure User where
  status : String
  createdAt : Int
  updatedAt : Int
deriving DecidableEq

/-- One row of `identity.registered_devices`. `sessions` are the ids a scan of the sessions by device
finds; only a transaction that holds the row opens a session of the device. -/
structure Device where
  userId : UserId
  kind : DeviceKind
  displayName : Option String
  secretHash : Digest
  createdAt : Int
  lastSeenAt : Option Int
  revokedAt : Option Int
  siteId : Option String
  sessions : List SessionId
deriving DecidableEq

/-- One row of `identity.sessions` -/
structure Session where
  userId : UserId
  kind : SessionKind
  deviceId : Option DeviceId
  audience : String
  issuedAt : Int
  expiresAt : Int
  lastSeenAt : Option Int
  revokedAt : Option Int
  tokenHash : Option Digest
deriving DecidableEq

/-- One row of `identity.refresh_tokens`, which is keyed by its unique digest -/
structure RefreshToken where
  tokenId : TokenId
  sessionId : SessionId
  issuedAt : Int
  expiresAt : Int
  consumedAt : Option Int
  replacedBy : Option TokenId
deriving DecidableEq

/-- One row of `identity.revocations` -/
structure Revocation where
  subjectKind : RevocationSubject
  subjectId : Nat
  reason : RevocationReason
  revokedAt : Int
  revokedBy : Option UserId
deriving DecidableEq

/-- One row of `identity.pairing_codes` -/
structure PairingCode where
  userId : UserId
  createdBySessionId : SessionId
  codeHash : Digest
  expectedKind : Option DeviceKind
  label : Option String
  createdAt : Int
  expiresAt : Int
  failedAttempts : Nat
  supersededAt : Option Int
  consumedAt : Option Int
  consumedByDeviceId : Option DeviceId
  siteId : Option String
deriving DecidableEq

/-- `^[a-z0-9-]{3,40}$` -/
def isSiteId (text : String) : Bool :=
  lengthBetween 3 40 text && text.toList.all fun c => c.isLower || c.isDigit || c == '-'

/-- `^site:[a-z0-9-]{3,40}$` -/
def isSiteAudience (audience : String) : Bool :=
  audience.toList.take 5 == "site:".toList && isSiteId (String.ofList (audience.toList.drop 5))

def User.checks (row : User) : Bool :=
  (row.status == "active" || row.status == "suspended" || row.status == "deleted") && row.createdAt ≤ row.updatedAt

def Device.checks (row : Device) : Bool :=
  (row.kind == .siteDeployer) == row.siteId.isSome && row.siteId.all isSiteId &&
  row.displayName.all (lengthBetween 1 120) && row.revokedAt.all (row.createdAt ≤ ·)

def Session.checks (row : Session) : Bool :=
  (row.kind == .siteOwner) == isSiteAudience row.audience && lengthBetween 1 120 row.audience &&
  row.issuedAt < row.expiresAt && row.revokedAt.all (row.issuedAt ≤ ·) && (row.kind == .device) == row.deviceId.isSome

def RefreshToken.checks (row : RefreshToken) : Bool :=
  row.issuedAt < row.expiresAt && row.consumedAt.all (row.issuedAt ≤ ·) &&
  (row.replacedBy.isNone || row.consumedAt.isSome) && row.replacedBy != some row.tokenId

/-- Neither consumed nor superseded -/
def PairingCode.pending (row : PairingCode) : Bool := row.consumedAt.isNone && row.supersededAt.isNone

def PairingCode.checks (row : PairingCode) : Bool :=
  (row.expectedKind == some .siteDeployer) == row.siteId.isSome && row.siteId.all isSiteId &&
  row.label.all (lengthBetween 1 120) && row.createdAt < row.expiresAt && row.failedAttempts ≤ 5 &&
  (row.consumedAt.isNone || row.supersededAt.isNone) && row.supersededAt.all (row.createdAt ≤ ·) &&
  row.consumedAt.all (row.createdAt ≤ ·)

/-- A primary or unique key with its values. The partial unique indexes of the pairing codes, on the
digest and on the owner of a pending code, are tables of their own. -/
inductive IdentityTable where
  | user (userId : UserId)
  | device (deviceId : DeviceId)
  | session (sessionId : SessionId)
  | refreshToken (tokenHash : Digest)
  | revocation (revocationId : RevocationId)
  | pairingCode (pairingCodeId : PairingCodeId)
  | codeHash (codeHash : Digest)
  | pendingCode (userId : UserId)
  | audit (auditEventId : Nat)
deriving DecidableEq

abbrev IdentityRow : IdentityTable → Type
  | .user _ => User
  | .device _ => Device
  | .session _ => Session
  | .refreshToken _ => RefreshToken
  | .revocation _ => Revocation
  | .pairingCode _ => PairingCode
  | .codeHash _ => PairingCodeId
  | .pendingCode _ => PairingCodeId
  | .audit _ => AuditEvent

abbrev Rows := Store IdentityRow

/-- The CHECK constraints, and that a text column takes no NUL. -/
def constraints : Constraints IdentityRow
  | .user _,_,row => row.checks
  | .device _,_,row => row.checks && row.displayName.all isText
  | .session _,_,row => row.checks
  | .refreshToken _,_,row => row.checks
  | .revocation _,_,_ => true
  | .pairingCode _,_,row => row.checks && row.label.all isText
  | .codeHash _,_,_ => true
  | .pendingCode _,_,_ => true
  | .audit _,_,row => row.checks

/-- Whether a session authenticates a request at `now`. -/
def Session.isLiveAt (row : Session) (now : Timestamp) : Bool := row.revokedAt.isNone && toOffset now < row.expiresAt

end Ratatoskr.Identity
