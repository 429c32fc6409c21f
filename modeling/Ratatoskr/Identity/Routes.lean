import Ratatoskr.Identity.Credentials

/-! The routes that open, rotate and revoke the credentials of devices. Each handler is one
transaction; leaving it without a commit is the answer given. -/
namespace Ratatoskr.Identity

open Transaction

def hours (count : Int) : Timestamp := count * (3600 * 1000000000)

/-- How long each device session credential lives before it must be refreshed. -/
def deviceSessionTtl : Timestamp := hours 1

/-- How long each refresh link lives. -/
def refreshTtl : Timestamp := hours (24 * 30)

def pairingCodeTtl : Timestamp := 600 * 1000000000

/-- The digest behind `SecretDigest::of`, and the audience this listener serves. -/
structure Settings where
  sha256 : List UInt8 → Digest
  audience : String

def Settings.digestOf (settings : Settings) (secret : String) : Digest := settings.sha256 secret.toUTF8.toList

/-- A request body: its length, and what the JSON reader makes of it. -/
structure Body (α : Type) where
  length : Nat
  parsed : Option α

/-- The believed caller of an authenticated route -/
structure Principal where
  userId : UserId
  sessionId : SessionId
  kind : SessionKind
deriving DecidableEq

/-- What every handler has beside its body. -/
structure Context where
  correlation : EntityRef
  now : Timestamp
  auditEventId : Nat

def Context.event (context : Context) (actorUserId : Option UserId) (actorSessionId : Option SessionId)
    (action targetKind : String) (targetId : Option Nat) (outcome : AuditOutcome) : AuditEvent where
  actorUserId := actorUserId
  actorSessionId := actorSessionId
  action := action
  targetKind := targetKind
  targetId := targetId
  outcome := outcome
  correlationId := context.correlation.val
  occurredAt := toOffset context.now

/-- What a handler committed. -/
inductive Granted where
  | opened (deviceId : DeviceId) (sessionId : SessionId)
  | rotated (spent : Digest) (sessionId : SessionId)
  | replayed (sessionId : SessionId)
  | codeCreated (pairingCodeId : PairingCodeId)
  | paired (pairingCodeId : PairingCodeId) (deviceId : DeviceId) (sessionId : SessionId)
  | deviceRevoked (deviceId : DeviceId)
  | sessionsRevoked (sessionIds : List SessionId)
  | denied
  | touched
deriving DecidableEq

/-- `name.is_empty() || name.chars().count() > 120 || name.contains(['\n', '\r'])`, for a text given at all. -/
def isBoundedName (name : Option String) : Bool :=
  name.all fun name => lengthBetween 1 120 name && name.toList.all fun c => c ≠ '\n' && c ≠ '\r'

def DeviceKind.fromStrOpt : String → Option DeviceKind
  | "mobile" => some .mobile
  | "browser_extension" => some .browserExtension
  | "export_agent" => some .exportAgent
  | "obsidian_plugin" => some .obsidianPlugin
  | "site_deployer" => some .siteDeployer
  | _ => none

section Login

structure OpenDeviceSession where
  deviceId : DeviceId
  deviceSecret : String

/-- A login with the ids and digests it draws -/
structure Login extends Context where
  body : Body OpenDeviceSession
  access : Digest
  refresh : Digest
  sessionId : SessionId
  tokenId : TokenId

def Login.parse (login : Login) : Except Denial OpenDeviceSession :=
  if 2048 < login.body.length then .error .unauthenticated
  else
    match login.body.parsed with
    | some request => .ok request
    | none => .error .invalidRequest

/-- `POST /v1/sessions/device` -/
def Login.openDeviceSession (settings : Settings) (login : Login) : Statements Granted := do
  match login.parse with
  | .error denial => .abandon denial
  | .ok request =>
    match ← authenticateDevice request.deviceId (settings.digestOf request.deviceSecret) with
    | none => .abandon .unauthenticated
    | some owner => do
      createSession login.sessionId ⟨owner,.device,some request.deviceId,settings.audience,some login.access,login.now,
        login.now + deviceSessionTtl⟩
      issueRefreshToken login.tokenId login.sessionId login.refresh login.now (login.now + refreshTtl)
      recordAudit login.auditEventId (login.event (some owner) (some login.sessionId) "session.open_device" "session"
        (some login.sessionId) .allowed)
      pure (.opened request.deviceId login.sessionId)

end Login

section Refreshing

/-- A refresh with the ids and digests it draws; the body is the presented token. -/
structure Refresh extends Context where
  body : Body String
  replacementRefresh : Digest
  replacementAccess : Digest
  successor : TokenId
  revocationId : RevocationId

/-- The digest of the token a readable body presents. -/
def Refresh.presented (settings : Settings) (request : Refresh) : Except Denial Digest :=
  if 2048 < request.body.length then .error .unauthenticated
  else
    match request.body.parsed with
    | none => .error .invalidRequest
    | some token =>
      if token.isEmpty || 512 < token.utf8ByteSize then .error .unauthenticated else .ok (settings.digestOf token)

def Refresh.rotation (request : Refresh) (presented : Digest) : Rotation where
  presented := presented
  replacementRefresh := request.replacementRefresh
  replacementAccess := request.replacementAccess
  successor := request.successor
  revocationId := request.revocationId
  now := request.now
  accessExpiresAt := request.now + deviceSessionTtl
  refreshExpiresAt := request.now + refreshTtl

def Refresh.audited (request : Refresh) (sessionId : SessionId) (outcome : AuditOutcome) : Statements Unit :=
  recordAudit request.auditEventId
    (request.event none (some sessionId) "session.refresh" "session" (some sessionId) outcome)

/-- What the handler does with the outcome of the rotation: a replay is committed although it is refused. -/
def Refresh.conclude (request : Refresh) (presented : Digest) : Except RotationFailure Rotated → Statements Granted
  | .ok rotated => do
    request.audited rotated.sessionId .allowed
    pure (.rotated presented rotated.sessionId)
  | .error (.replayed sessionId _) => do
    request.audited sessionId .denied
    pure (.replayed sessionId)
  | .error _ => .abandon .unauthenticated

/-- `POST /v1/sessions/refresh` -/
def Refresh.refresh (settings : Settings) (request : Refresh) : Statements Granted := do
  match request.presented settings with
  | .error denial => .abandon denial
  | .ok presented => do
    let outcome ← rotateSession (request.rotation presented)
    request.conclude presented outcome

end Refreshing

section Pairing

structure CreatePairingCode where
  expectedKind : Option String
  siteId : Option String
  label : Option String

/-- The kind and the site that a valid request pins. -/
def CreatePairingCode.pinned (request : CreatePairingCode) : Option (Option DeviceKind × Option String) := do
  let expectedKind ←
    match request.expectedKind with
    | none => some none
    | some raw => (DeviceKind.fromStrOpt raw).map some
  if !isBoundedName request.label then none
  else
    match expectedKind,request.siteId with
    | some .siteDeployer,some site => if isSiteId site then some (expectedKind,some site) else none
    | some .siteDeployer,none => none
    | _,some _ => none
    | _,none => some (expectedKind,none)

/-- A code creation; `owner` is whether the caller holds the live owner grant. -/
structure CodeCreation extends Context where
  principal : Principal
  body : Option CreatePairingCode
  owner : Bool
  code : Digest
  pairingCodeId : PairingCodeId

def CodeCreation.newCode (request : CodeCreation) (body : CreatePairingCode) (expectedKind : Option DeviceKind)
    (siteId : Option String) : NewPairingCode where
  userId := request.principal.userId
  createdBySessionId := request.principal.sessionId
  expectedKind := expectedKind
  siteId := siteId
  label := body.label
  codeDigest := request.code
  now := request.now
  expiresAt := request.now + pairingCodeTtl

/-- `POST /v1/devices/pairing-codes` -/
def CodeCreation.createPairingCode (request : CodeCreation) : Statements Granted := do
  if request.principal.kind = .device then .abandon .unauthenticated
  else
    match request.body with
    | none => .abandon .invalidRequest
    | some body =>
      match body.pinned with
      | none => .abandon .invalidRequest
      | some (expectedKind,siteId) =>
        if siteId.isSome && !request.owner then .abandon .notFound
        else do
          createCode request.pairingCodeId (request.newCode body expectedKind siteId)
          recordAudit request.auditEventId (request.event (some request.principal.userId)
            (some request.principal.sessionId) "device.pairing_code_create" "pairing_code" (some request.pairingCodeId)
            .allowed)
          pure (.codeCreated request.pairingCodeId)

structure PairDevice where
  code : String
  kind : String
  displayName : Option String

/-- A pairing with the ids and digests it draws; `withinLimit` is what the rate limit says. -/
structure Pairing extends Context where
  withinLimit : Bool
  body : Body PairDevice
  deviceSecret : Digest
  access : Digest
  refresh : Digest
  deviceId : DeviceId
  sessionId : SessionId
  tokenId : TokenId

/-- What the handler checks before it opens the transaction. -/
def Pairing.parse (request : Pairing) : Except Denial (PairDevice × DeviceKind) :=
  if !request.withinLimit then .error .rateLimited
  else if 4096 < request.body.length then .error .unauthenticated
  else
    match request.body.parsed with
    | none => .error .invalidRequest
    | some body =>
      if body.code.isEmpty || 128 < body.code.utf8ByteSize then .error .unauthenticated
      else
        match DeviceKind.fromStrOpt body.kind with
        | none => .error .invalidRequest
        | some kind => if isBoundedName body.displayName then .ok (body,kind) else .error .invalidRequest

def Pairing.request (settings : Settings) (request : Pairing) (body : PairDevice) (kind : DeviceKind) : PairRequest where
  presented := settings.digestOf body.code
  declaredKind := kind
  displayName := body.displayName
  deviceSecret := request.deviceSecret
  accessToken := request.access
  refreshToken := request.refresh
  audience := settings.audience
  now := request.now
  accessExpiresAt := request.now + deviceSessionTtl
  refreshExpiresAt := request.now + refreshTtl
  deviceId := request.deviceId
  sessionId := request.sessionId
  tokenId := request.tokenId

/-- What the handler does with the outcome: a refusal leaves the transaction uncommitted. -/
def Pairing.conclude (request : Pairing) : Option Redeemed → Statements Granted
  | none => .abandon .unauthenticated
  | some redeemed => do
    recordAudit request.auditEventId
      (request.event (some redeemed.userId) none "device.pair" "device" (some redeemed.deviceId) .allowed)
    pure (.paired redeemed.pairingCodeId redeemed.deviceId redeemed.sessionId)

/-- `POST /v1/devices/pair` -/
def Pairing.pair (settings : Settings) (request : Pairing) : Statements Granted := do
  match request.parse with
  | .error denial => .abandon denial
  | .ok (body,kind) => do
    let outcome ← redeem (request.request settings body kind)
    request.conclude outcome

end Pairing

section Revoking

/-- The revocations of sessions, each under the next id that is drawn. -/
def recordSessionRevocations (drawn : Nat → RevocationId) (revokedBy : UserId) (now : Timestamp) :
    List SessionId → Statements Unit
  | [] => pure ()
  | sessionId :: rest => do
    recordRevocation (drawn rest.length) .session sessionId .userRequest (some revokedBy) now
    recordSessionRevocations drawn revokedBy now rest

/-- A revocation of a device -/
structure DeviceDeletion extends Context where
  principal : Principal
  deviceId : DeviceId
  revocationId : RevocationId
  drawn : Nat → RevocationId

def DeviceDeletion.audited (request : DeviceDeletion) (outcome : AuditOutcome) : Statements Unit :=
  recordAudit request.auditEventId (request.event (some request.principal.userId) (some request.principal.sessionId)
    "device.revoke" "device" (some request.deviceId) outcome)

/-- `DELETE /v1/devices/{device_id}` -/
def DeviceDeletion.deleteDevice (request : DeviceDeletion) : Statements Granted := do
  match ← Tx.select (ν := IdentityRow) (.device request.deviceId) with
  | none => .abandon .notFound
  | some device =>
    if device.userId ≠ request.principal.userId then do
      request.audited .denied
      pure .denied
    else if device.revokedAt.isSome then .abandon .notFound
    else do
      let revoked ← revokeDevice request.deviceId request.now
      recordRevocation request.revocationId .device request.deviceId .userRequest (some request.principal.userId) request.now
      recordSessionRevocations request.drawn request.principal.userId request.now revoked
      request.audited .allowed
      pure (.deviceRevoked request.deviceId)

structure SessionDeletion extends Context where
  principal : Principal
  sessionId : SessionId
  revocationId : RevocationId

def SessionDeletion.audited (request : SessionDeletion) (outcome : AuditOutcome) : Statements Unit :=
  recordAudit request.auditEventId (request.event (some request.principal.userId) (some request.principal.sessionId)
    "session.revoke" "session" (some request.sessionId) outcome)

/-- `DELETE /v1/sessions/{session_id}` -/
def SessionDeletion.revokeSession (request : SessionDeletion) : Statements Granted := do
  match ← Tx.select (ν := IdentityRow) (.session request.sessionId) with
  | none => .abandon .notFound
  | some session =>
    if session.userId ≠ request.principal.userId then do
      request.audited .denied
      pure .denied
    else if session.revokedAt.isSome || fromOffset session.expiresAt ≤ request.now then .abandon .notFound
    else do
      let _ ← closeSession request.sessionId request.now
      recordRevocation request.revocationId .session request.sessionId .userRequest (some request.principal.userId)
        request.now
      request.audited .allowed
      pure (.sessionsRevoked [request.sessionId])

/-- A revocation of every session; `listed` and `visited` are what the scans of its two statements visit. -/
structure Sweep extends Context where
  principal : Principal
  listed : List SessionId
  visited : List SessionId
  drawn : Nat → RevocationId

/-- `POST /v1/sessions/revoke-all` -/
def Sweep.revokeAll (request : Sweep) : Statements Granted := do
  let live ← listLiveSessionIds request.principal.userId request.now request.listed
  let revoked ← revokeAllSessionsOfUser request.principal.userId request.now request.visited
  recordSessionRevocations request.drawn request.principal.userId request.now live
  recordAudit request.auditEventId (request.event (some request.principal.userId) (some request.principal.sessionId)
    "session.revoke_all" "session" none .allowed)
  pure (.sessionsRevoked revoked)

end Revoking

/-- A transaction of the credential routes, of the liveness touch, or of a denial that is audited by itself. -/
inductive Job where
  | login (request : Login)
  | refresh (request : Refresh)
  | createCode (request : CodeCreation)
  | pair (request : Pairing)
  | deleteDevice (request : DeviceDeletion)
  | revokeSession (request : SessionDeletion)
  | revokeAll (request : Sweep)
  | touchSession (sessionId : SessionId) (now minInterval : Timestamp)
  | touchDevice (deviceId : DeviceId) (now minInterval : Timestamp)
  | refuse (auditEventId : Nat) (event : AuditEvent)

def Job.program (settings : Settings) : Job → Statements Granted
  | login request => request.openDeviceSession settings
  | refresh request => request.refresh settings
  | createCode request => request.createPairingCode
  | pair request => request.pair settings
  | deleteDevice request => request.deleteDevice
  | revokeSession request => request.revokeSession
  | revokeAll request => request.revokeAll
  | touchSession sessionId now minInterval => do
    Identity.touchSession sessionId now minInterval
    pure .touched
  | touchDevice deviceId now minInterval => do
    Identity.touchDevice deviceId now minInterval
    pure .touched
  | refuse auditEventId event => do
    recordAudit auditEventId event
    pure .denied

end Ratatoskr.Identity
