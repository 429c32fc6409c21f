import Ratatoskr.Identity.Exchanges
import Ratatoskr.Sites.SignIn

/-! The users with their status, and every path on which a credential of theirs is opened, one transaction after another. -/
namespace Ratatoskr.Accounts

open Transaction Identity Sites

open PublicApi (SiteId)

/-- Whether a user may authenticate at all. -/
inductive UserStatus where
  | active | suspended | deleted
deriving DecidableEq

def UserStatus.asStr : UserStatus → String
  | active => "active"
  | suspended => "suspended"
  | deleted => "deleted"

def UserStatus.fromStrOpt : String → Option UserStatus
  | "active" => some .active
  | "suspended" => some .suspended
  | "deleted" => some .deleted
  | _ => none

/-- Whether a principal in this state may hold a live session. -/
def UserStatus.mayAuthenticate : UserStatus → Bool
  | active => true
  | suspended => false
  | deleted => false

@[simp] theorem fromStrOpt_asStr (status : UserStatus) : UserStatus.fromStrOpt status.asStr = some status := by
  cases status <;> rfl

/-- `set_user_status` -/
def setUserStatus (userId : UserId) (status : UserStatus) (now : Timestamp) : Statements Bool :=
  Tx.updateWhere (ν := IdentityRow) (.user userId) (fun _ => true)
    fun row => { row with status := status.asStr, updatedAt := toOffset now }

/-- The tables of the identity schema and the site approvals. No request comes before the clock. -/
structure Directory where
  rows : Rows
  subjects : IdentityProvider → String → Option ExternalIdentity
  assertions : String → String → Option Assertion
  codes : Digest → Option SignInCode
  approvals : SiteId → Option Approval
  grants : List Grant
  clock : Timestamp

inductive Move where
  | job (job : Job)
  | exchange (job : ExchangeJob)
  | issue (call : IssueCode)
  | openSite (call : OpenSession)
  | setStatus (userId : UserId) (status : UserStatus) (now : Timestamp)
  /-- The approvals and the grants are changed by others. -/
  | elsewhere (approvals : SiteId → Option Approval) (grants : List Grant)

/-- The instant a transaction of the credential routes acts at. -/
def jobNow : Job → Option Timestamp
  | .login request => some request.now
  | .refresh request => some request.now
  | .createCode request => some request.now
  | .pair request => some request.now
  | .deleteDevice request => some request.now
  | .revokeSession request => some request.now
  | .revokeAll request => some request.now
  | .touchSession _ now _ => some now
  | .touchDevice _ now _ => some now
  | .refuse _ _ => none

def Move.now : Move → Option Timestamp
  | .job request => jobNow request
  | .exchange (.exchange request) => some request.now
  | .exchange (.refuse _ _) => none
  | .issue call => some call.now
  | .openSite call => some call.now
  | .setStatus _ _ now => some now
  | .elsewhere _ _ => none

section Requests

/-- A redemption that nothing else is interleaved with. -/
def redeemAlone (contract : SiteContract) (call : OpenSession) : Nat → World → Opening → World × Opening
  | 0,world,at_ => (world,at_)
  | turns + 1,world,at_ =>
    match openSession contract call 0 world at_ .done with
    | some (later,next) => redeemAlone contract call turns later next
    | none => (world,at_)

namespace Directory

variable (s : Directory)

def empty : Directory := ⟨fun _ => none,fun _ _ => none,fun _ _ => none,fun _ => none,fun _ => none,[],0⟩

/-- The tables an exchange reads and writes. -/
def exchangeRows : ExchangeRows
  | .user userId => s.rows (.user userId)
  | .identity provider externalId => s.subjects provider externalId
  | .assertion issuer nonce => s.assertions issuer nonce
  | .session sessionId => s.rows (.session sessionId)
  | .audit auditEventId => s.rows (.audit auditEventId)

def withExchange (later : ExchangeRows) : Directory :=
  { s with
    rows := fun
      | .user userId => later (.user userId)
      | .session sessionId => later (.session sessionId)
      | .audit auditEventId => later (.audit auditEventId)
      | key => s.rows key
    subjects := fun provider externalId => later (.identity provider externalId)
    assertions := fun issuer nonce => later (.assertion issuer nonce) }

/-- The sessions under these ids -/
def sessionsAt (ids : List SessionId) : List (SessionId × Session) :=
  ids.filterMap fun id => (s.rows (.session id)).map fun row => (id,row)

/-- What a request on the sign-ins of sites sees, who looks up the sessions under these ids. -/
def siteWorld (ids : List SessionId) : World :=
  { World.initial with approvals := s.approvals, codes := s.codes, sessions := s.sessionsAt ids, grants := s.grants }

/-- The approving session of the code that a redemption presents, and the session that it would open. -/
def redemptionSessions (contract : SiteContract) (call : OpenSession) : List SessionId :=
  call.sessionId :: ((call.body.bind fun request => s.codes (contract.digestOf request.code)).map (·.createdBySessionId)).toList

/-- The rows after the sessions of a site sign-in are stored. -/
def withOpened (world : World) : Directory :=
  { s with
    codes := world.codes
    rows := world.openings.foldl (fun rows opened => Function.update rows (.session opened.sessionId) (some opened.session)) s.rows }

/-- A transaction alone, from begin to commit or rollback. -/
def perform (settings : Settings) (contract : SiteContract) : Move → Directory
  | .job job => { s with rows := (exec constraints (job.program settings) s.rows).publish s.rows }
  | .exchange job => s.withExchange ((exec exchangeConstraints (job.program settings) s.exchangeRows).publish s.exchangeRows)
  | .issue call => { s with codes := (issueCode contract call (s.siteWorld [call.principal.sessionId])).1.codes }
  | .openSite call =>
    s.withOpened (redeemAlone contract call 5 (s.siteWorld (s.redemptionSessions contract call)) call.begin_).1
  | .setStatus userId status now => { s with rows := (exec constraints (setUserStatus userId status now) s.rows).publish s.rows }
  | .elsewhere approvals grants => { s with approvals := approvals, grants := grants }

end Directory

end Requests

def step (settings : Settings) (contract : SiteContract) (s : Directory) (move : Move) : Option Directory :=
  let now := move.now.getD s.clock
  if now < s.clock then none else some ({ s with clock := now }.perform settings contract move)

section Barred

/-- The status of the user is one that bars from authenticating. -/
def Barred (rows : Rows) (userId : UserId) : Prop :=
  ∃ row, rows (.user userId) = some row ∧ (UserStatus.fromStrOpt row.status).any (fun status => !status.mayAuthenticate) = true

/-- A session, a device or a refresh link of the user has come up. -/
structure Creates (rows later : Rows) (userId : UserId) : Prop where
  created : (∃ id row, rows (.session id) = none ∧ later (.session id) = some row ∧ row.userId = userId) ∨
    (∃ id row, rows (.device id) = none ∧ later (.device id) = some row ∧ row.userId = userId) ∨
    ∃ hash link session, rows (.refreshToken hash) = none ∧ later (.refreshToken hash) = some link ∧
      later (.session link.sessionId) = some session ∧ session.userId = userId

/-- What the status of a user promises. -/
structure ShutOut (settings : Settings) (contract : SiteContract) (s : Directory) : Prop where
  /-- `authenticate` finds no session of a barred user, -/
  sessions : ∀ id row presented audience now, s.rows (.session id) = some row → s.clock ≤ now →
    row.authenticates presented audience now = true → ¬Barred s.rows row.userId
  /-- `authenticate_device` no device, -/
  devices : ∀ id row, s.rows (.device id) = some row → row.revokedAt = none → ¬Barred s.rows row.userId
  /-- and no transaction opens a credential of one. -/
  creates : ∀ move next, step settings contract s move = some next → ∀ userId, Creates s.rows next.rows userId →
    ¬Barred s.rows userId ∧ ¬Barred next.rows userId

/-- The session neither authenticates nor is it renewed. -/
def isOver (row : Session) (now : Timestamp) : Bool := row.revokedAt.isSome || fromOffset row.expiresAt ≤ now

/-- The user holds nothing that is live at `now`. -/
structure Bare (s : Directory) (now : Timestamp) (userId : UserId) : Prop where
  sessions : ∀ id row, s.rows (.session id) = some row → row.userId = userId → isOver row now = true
  devices : ∀ id row, s.rows (.device id) = some row → row.userId = userId → row.revokedAt.isSome = true
  pairingCodes : ∀ id row, s.rows (.pairingCode id) = some row → row.userId = userId →
    (row.pending && toOffset now < row.expiresAt) = false
  subjects : ∀ provider externalId row, s.subjects provider externalId = some row → row.userId ≠ userId
  codes : ∀ hash code, s.codes hash = some code → code.userId = userId → code.redeemable now = false

/-- A user is only barred who holds nothing that is live, and no pairing code is created in the name of a barred user. -/
def Stripped (s : Directory) : Move → Prop
  | .setStatus userId status now => status.mayAuthenticate = false → Bare s now userId
  | .job (.createCode request) => ¬Barred s.rows request.principal.userId
  | _ => True

end Barred

end Ratatoskr.Accounts
