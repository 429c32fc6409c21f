import Ratatoskr.Identity.Tables

/-! The statements the identity crate issues in the transaction of its caller: devices, sessions,
refresh chains and pairing codes. Fresh ids come from the caller. -/
namespace Ratatoskr.Identity

open Transaction

/-- How a credential route refuses a request. -/
inductive Denial where
  | invalidRequest | unauthenticated | rateLimited | notFound
deriving DecidableEq

/-- A transaction over the identity tables -/
abbrev Statements (α : Type) := Tx IdentityRow Denial α

/-- `audit::record` -/
def recordAudit (auditEventId : Nat) (event : AuditEvent) : Statements Unit :=
  Tx.insertNew (ν := IdentityRow) (.audit auditEventId) event

/-- Adds to the durable revocation record. -/
def recordRevocation (revocationId : RevocationId) (subjectKind : RevocationSubject) (subjectId : Nat)
    (reason : RevocationReason) (revokedBy : Option UserId) (revokedAt : Timestamp) : Statements Unit :=
  Tx.insertNew (ν := IdentityRow) (.revocation revocationId) ⟨subjectKind,subjectId,reason,toOffset revokedAt,revokedBy⟩

section Sessions

structure NewSession where
  userId : UserId
  kind : SessionKind
  deviceId : Option DeviceId
  audience : String
  token : Option Digest
  issuedAt : Timestamp
  expiresAt : Timestamp

def NewSession.row (new : NewSession) : Session where
  userId := new.userId
  kind := new.kind
  deviceId := new.deviceId
  audience := new.audience
  issuedAt := toOffset new.issuedAt
  expiresAt := toOffset new.expiresAt
  lastSeenAt := some (toOffset new.issuedAt)
  revokedAt := none
  tokenHash := new.token

def Device.withSession (row : Device) (sessionId : SessionId) : Device :=
  { row with sessions := sessionId :: row.sessions }

/-- A session of a device refers to the row of its device. -/
def createSession (sessionId : SessionId) (new : NewSession) : Statements Unit := do
  Tx.insertNew (ν := IdentityRow) (.session sessionId) new.row
  match new.deviceId with
  | none => pure ()
  | some deviceId =>
    match ← Tx.selectForUpdate (ν := IdentityRow) (.device deviceId) fun _ => true with
    | some row => .write (.device deviceId) (row.withSession sessionId) (.done ())
    | none => .refuse (.session sessionId) new.row

/-- How long a `site_owner` session may stay unused. -/
def siteOwnerIdle : Timestamp := 3600 * 1000000000

/-- Whether the row is what `authenticate` finds for a presented credential. -/
def Session.authenticates (row : Session) (presented : Digest) (audience : String) (now : Timestamp) : Bool :=
  row.tokenHash == some presented && row.audience == audience && row.revokedAt.isNone && toOffset now < row.expiresAt &&
  (row.kind != .siteOwner || toOffset (now - siteOwnerIdle) < row.lastSeenAt.getD row.issuedAt)

def Session.revoked (row : Session) (revokedAt : Timestamp) : Session := { row with revokedAt := some (toOffset revokedAt) }

/-- `revoke_session` of the crate: the first instant is kept. -/
def closeSession (sessionId : SessionId) (revokedAt : Timestamp) : Statements Bool :=
  Tx.updateWhere (ν := IdentityRow) (.session sessionId) (fun row => row.revokedAt.isNone) fun row => row.revoked revokedAt

/-- `update .. where .. and revoked_at is null returning session_id` over the sessions its scan visits. -/
def closeSessions (matching : Session → Bool) (revokedAt : Timestamp) : List SessionId → Statements (List SessionId)
  | [] => pure []
  | sessionId :: visited => do
    let closed ← Tx.updateWhere (ν := IdentityRow) (.session sessionId)
      (fun row => matching row && row.revokedAt.isNone) fun row => row.revoked revokedAt
    let later ← closeSessions matching revokedAt visited
    pure (if closed then sessionId :: later else later)

def revokeAllSessionsOfUser (userId : UserId) (revokedAt : Timestamp) (visited : List SessionId) :
    Statements (List SessionId) :=
  closeSessions (fun row => row.userId == userId) revokedAt visited

def listLiveSessionIds (userId : UserId) (now : Timestamp) : List SessionId → Statements (List SessionId)
  | [] => pure []
  | sessionId :: visited => do
    let found ← Tx.select (ν := IdentityRow) (.session sessionId)
    let later ← listLiveSessionIds userId now visited
    pure (if found.any fun row => row.userId == userId && row.isLiveAt now then sessionId :: later else later)

def isStale (lastSeenAt : Option Int) (before : Timestamp) : Bool := lastSeenAt.all (· ≤ toOffset before)

/-- The first statement of `touch_last_seen` -/
def touchSession (sessionId : SessionId) (now minInterval : Timestamp) : Statements Unit := do
  let _ ← Tx.updateWhere (ν := IdentityRow) (.session sessionId)
    (fun row => row.revokedAt.isNone && isStale row.lastSeenAt (now - minInterval))
    fun row => { row with lastSeenAt := some (toOffset now) }

/-- Its second statement, a transaction of its own like the first -/
def touchDevice (deviceId : DeviceId) (now minInterval : Timestamp) : Statements Unit := do
  let _ ← Tx.updateWhere (ν := IdentityRow) (.device deviceId)
    (fun row => row.revokedAt.isNone && isStale row.lastSeenAt (now - minInterval))
    fun row => { row with lastSeenAt := some (toOffset now) }

end Sessions

section Devices

structure NewDevice where
  userId : UserId
  kind : DeviceKind
  displayName : Option String
  siteId : Option String

def NewDevice.row (new : NewDevice) (digest : Digest) (now : Timestamp) : Device where
  userId := new.userId
  kind := new.kind
  displayName := new.displayName
  secretHash := digest
  createdAt := toOffset now
  lastSeenAt := some (toOffset now)
  revokedAt := none
  siteId := new.siteId
  sessions := []

def registerSiteDevice (deviceId : DeviceId) (new : NewDevice) (digest : Digest) (now : Timestamp) : Statements Unit :=
  Tx.insertNew (ν := IdentityRow) (.device deviceId) (new.row digest now)

/-- Answers the owner, and holds the row until the transaction ends. -/
def authenticateDevice (deviceId : DeviceId) (presented : Digest) : Statements (Option UserId) := do
  let found ← Tx.selectForUpdate (ν := IdentityRow) (.device deviceId)
    fun row => row.revokedAt.isNone && row.secretHash == presented
  pure (found.map Device.userId)

def Device.revoked (row : Device) (revokedAt : Timestamp) : Device := { row with revokedAt := some (toOffset revokedAt) }

/-- The device first, then every session bound to it. -/
def revokeDevice (deviceId : DeviceId) (revokedAt : Timestamp) : Statements (List SessionId) := do
  let _ ← Tx.updateWhere (ν := IdentityRow) (.device deviceId) (fun row => row.revokedAt.isNone)
    fun row => row.revoked revokedAt
  match ← Tx.select (ν := IdentityRow) (.device deviceId) with
  | none => pure []
  | some row => closeSessions (fun session => session.deviceId == some deviceId) revokedAt row.sessions

end Devices

section RefreshChains

/-- The row of a link that nobody has spent -/
def refreshLink (tokenId : TokenId) (sessionId : SessionId) (issuedAt expiresAt : Timestamp) : RefreshToken where
  tokenId := tokenId
  sessionId := sessionId
  issuedAt := toOffset issuedAt
  expiresAt := toOffset expiresAt
  consumedAt := none
  replacedBy := none

def issueRefreshToken (tokenId : TokenId) (sessionId : SessionId) (digest : Digest) (issuedAt expiresAt : Timestamp) :
    Statements Unit :=
  Tx.insertNew (ν := IdentityRow) (.refreshToken digest) (refreshLink tokenId sessionId issuedAt expiresAt)

inductive RotationFailure where
  | unknown
  | expired
  | sessionNotLive
  | replayed (sessionId : SessionId) (userId : UserId)
deriving DecidableEq

/-- What a rotation is called with, and the ids it draws. -/
structure Rotation where
  presented : Digest
  replacementRefresh : Digest
  replacementAccess : Digest
  successor : TokenId
  revocationId : RevocationId
  now : Timestamp
  accessExpiresAt : Timestamp
  refreshExpiresAt : Timestamp

/-- The successor of a spent link -/
structure Rotated where
  tokenId : TokenId
  sessionId : SessionId
  issuedAt : Timestamp
  expiresAt : Timestamp

def burnFamily (revocationId : RevocationId) (sessionId : SessionId) (now : Timestamp) : Statements Unit := do
  let _ ← closeSession sessionId now
  recordRevocation revocationId .session sessionId .suspectedCompromise none now

/-- `select .. join identity.sessions .. for update of t`: the session is that of the snapshot, the
link is read again once it is locked. -/
def selectLink (presented : Digest) : Statements (Option (RefreshToken × Session)) := do
  match ← Tx.select (ν := IdentityRow) (.refreshToken presented) with
  | none => pure none
  | some seen =>
    match ← Tx.select (ν := IdentityRow) (.session seen.sessionId) with
    | none => pure none
    | some session => do
      let link ← Tx.selectForUpdate (ν := IdentityRow) (.refreshToken presented) fun _ => true
      pure (link.map fun link => (link,session))

def RefreshToken.spent (row : RefreshToken) (successor : TokenId) (now : Timestamp) : RefreshToken :=
  { row with consumedAt := some (toOffset now), replacedBy := some successor }

def Session.renewed (row : Session) (token : Digest) (now expiresAt : Timestamp) : Session :=
  { row with tokenHash := some token, expiresAt := toOffset expiresAt, lastSeenAt := some (toOffset now) }

/-- Spends a link and swaps the access credential of its session. -/
def rotateSession (r : Rotation) : Statements (Except RotationFailure Rotated) := do
  match ← selectLink r.presented with
  | none => pure (.error .unknown)
  | some (link,session) =>
    if link.consumedAt.isSome then do
      burnFamily r.revocationId link.sessionId r.now
      pure (.error (.replayed link.sessionId session.userId))
    else if fromOffset link.expiresAt ≤ r.now then pure (.error .expired)
    else if session.revokedAt.isSome || fromOffset session.expiresAt ≤ r.now then pure (.error .sessionNotLive)
    else do
      issueRefreshToken r.successor link.sessionId r.replacementRefresh r.now r.refreshExpiresAt
      let _ ← Tx.updateWhere (ν := IdentityRow) (.refreshToken r.presented) (fun row => row.tokenId == link.tokenId)
        fun row => row.spent r.successor r.now
      let swapped ← Tx.updateWhere (ν := IdentityRow) (.session link.sessionId) (fun row => row.revokedAt.isNone)
        fun row => row.renewed r.replacementAccess r.now r.accessExpiresAt
      if swapped then pure (.ok ⟨r.successor,link.sessionId,r.now,r.refreshExpiresAt⟩)
      else pure (.error .sessionNotLive)

end RefreshChains

section PairingCodes

structure NewPairingCode where
  userId : UserId
  createdBySessionId : SessionId
  expectedKind : Option DeviceKind
  siteId : Option String
  label : Option String
  codeDigest : Digest
  now : Timestamp
  expiresAt : Timestamp

def NewPairingCode.row (new : NewPairingCode) : PairingCode where
  userId := new.userId
  createdBySessionId := new.createdBySessionId
  codeHash := new.codeDigest
  expectedKind := new.expectedKind
  label := new.label
  createdAt := toOffset new.now
  expiresAt := toOffset new.expiresAt
  failedAttempts := 0
  supersededAt := none
  consumedAt := none
  consumedByDeviceId := none
  siteId := new.siteId

/-- An update that ends a pending code, which takes it out of both partial indexes. -/
def endPending (pairingCodeId : PairingCodeId) (matching : PairingCode → Bool) (change : PairingCode → PairingCode) :
    Statements Bool := do
  match ← Tx.selectForUpdate (ν := IdentityRow) (.pairingCode pairingCodeId) fun row => matching row && row.pending with
  | none => pure false
  | some row =>
    .write (.pairingCode pairingCodeId) (change row)
      (.remove (.codeHash row.codeHash) (.remove (.pendingCode row.userId) (.done true)))

def PairingCode.superseded (row : PairingCode) (now : Timestamp) : PairingCode :=
  { row with supersededAt := some (toOffset now) }

/-- `update .. where user_id = $1` and pending, found by the partial index -/
def supersedePending (userId : UserId) (now : Timestamp) : Statements Unit := do
  match ← Tx.select (ν := IdentityRow) (.pendingCode userId) with
  | none => pure ()
  | some pairingCodeId => do
    let _ ← endPending pairingCodeId (fun row => row.userId == userId) fun row => row.superseded now

/-- The row of the owner is held to the end, so that creations of one owner queue. -/
def createCode (pairingCodeId : PairingCodeId) (new : NewPairingCode) : Statements Unit := do
  let _ ← Tx.selectForUpdate (ν := IdentityRow) (.user new.userId) fun _ => true
  supersedePending new.userId new.now
  Tx.insertNew (ν := IdentityRow) (.pairingCode pairingCodeId) new.row
  Tx.insertNew (ν := IdentityRow) (.codeHash new.codeDigest) pairingCodeId
  Tx.insertNew (ν := IdentityRow) (.pendingCode new.userId) pairingCodeId

/-- What a redemption is called with, and the ids it draws. -/
structure PairRequest where
  presented : Digest
  declaredKind : DeviceKind
  displayName : Option String
  deviceSecret : Digest
  accessToken : Digest
  refreshToken : Digest
  audience : String
  now : Timestamp
  accessExpiresAt : Timestamp
  refreshExpiresAt : Timestamp
  deviceId : DeviceId
  sessionId : SessionId
  tokenId : TokenId

structure Redeemed where
  userId : UserId
  pairingCodeId : PairingCodeId
  deviceId : DeviceId
  sessionId : SessionId

/-- A code that a presentation at `now` may still redeem. -/
def PairingCode.redeemable (row : PairingCode) (presented : Digest) (now : Timestamp) : Bool :=
  row.codeHash == presented && row.pending && toOffset now < row.expiresAt && row.failedAttempts < 5

def selectCode (presented : Digest) (now : Timestamp) : Statements (Option (PairingCodeId × PairingCode)) := do
  match ← Tx.select (ν := IdentityRow) (.codeHash presented) with
  | none => pure none
  | some pairingCodeId => do
    let row ← Tx.selectForUpdate (ν := IdentityRow) (.pairingCode pairingCodeId) fun row => row.redeemable presented now
    pure (row.map fun row => (pairingCodeId,row))

def PairingCode.missed (row : PairingCode) : PairingCode := { row with failedAttempts := row.failedAttempts + 1 }

/-- Whether the code refuses the declared kind; a mismatch with a pinned kind is counted. -/
def kindRefused (pairingCodeId : PairingCodeId) (row : PairingCode) (declared : DeviceKind) : Statements Bool := do
  match row.expectedKind with
  | some pinned =>
    if pinned ≠ declared then do
      let _ ← Tx.updateWhere (ν := IdentityRow) (.pairingCode pairingCodeId) (fun row => row.failedAttempts < 5)
        PairingCode.missed
      pure true
    else pure false
  | none => pure (declared == .siteDeployer)

def PairingCode.consumed (row : PairingCode) (deviceId : DeviceId) (now : Timestamp) : PairingCode :=
  { row with consumedAt := some (toOffset now), consumedByDeviceId := some deviceId }

/-- Consumes a live code and grants the device; `none` is a refusal. -/
def redeem (r : PairRequest) : Statements (Option Redeemed) := do
  match ← selectCode r.presented r.now with
  | none => pure none
  | some (pairingCodeId,row) => do
    if ← kindRefused pairingCodeId row r.declaredKind then pure none
    else do
      registerSiteDevice r.deviceId ⟨row.userId,r.declaredKind,r.displayName,row.siteId⟩ r.deviceSecret r.now
      if ← endPending pairingCodeId (fun _ => true) fun row => row.consumed r.deviceId r.now then do
        createSession r.sessionId
          ⟨row.userId,.device,some r.deviceId,r.audience,some r.accessToken,r.now,r.accessExpiresAt⟩
        issueRefreshToken r.tokenId r.sessionId r.refreshToken r.now r.refreshExpiresAt
        pure (some ⟨row.userId,pairingCodeId,r.deviceId,r.sessionId⟩)
      else pure none

end PairingCodes

end Ratatoskr.Identity
