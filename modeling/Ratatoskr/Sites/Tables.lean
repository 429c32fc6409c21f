import Ratatoskr.Identity.Routes
import Ratatoskr.Operations.Record
import Ratatoskr.PublicApi.Intake
import Ratatoskr.PublicApi.SiteEvents

/-! The approvals of sites, the codes of site sign-ins, and what they touch of the other tables. -/
namespace Ratatoskr.Sites

open Identity PublicApi

inductive ApprovalState where
  | approved | withdrawn
deriving DecidableEq

structure GitHubRepositoryBinding where
  repository : String
  repositoryId : String
deriving DecidableEq

/-- The payload of an approval event -/
structure SiteApprovalChanged where
  siteId : SiteId
  manifestSha256 : String
  capabilities : List String
  hostname : String
  state : ApprovalState
  githubRepository : Option GitHubRepositoryBinding
deriving DecidableEq

/-- One row of `identity.site_approvals` -/
structure Approval where
  changedBy : UserId
  manifestSha256 : String
  capabilities : List String
  hostname : String
  state : ApprovalState
  changedAt : Int
  githubRepository : Option GitHubRepositoryBinding
deriving DecidableEq

/-- One row of `identity.site_sign_in_codes`, which is keyed by its unique digest -/
structure SignInCode where
  userId : UserId
  createdBySessionId : SessionId
  siteId : SiteId
  challenge : String
  returnPath : String
  hostname : String
  createdAt : Int
  expiresAt : Int
  consumedAt : Option Int
deriving DecidableEq

/-- One row of `identity.grants` -/
structure Grant where
  userId : UserId
  capability : String
  expiresAt : Option Int
  revokedAt : Option Int
deriving DecidableEq

/-- The event envelope around a change of an approval, as the outbox row of the drawn number has it -/
structure Announcement where
  outboxId : Nat
  eventId : MessageId
  occurredAt : Timestamp
  aggregateId : String
  correlationId : String
  tenantId : UserId
  payload : SiteApprovalChanged
deriving DecidableEq

def capabilitySet : List String :=
  ["pages.read","assets.read","search.publication","live.release","draft.read","notes.edit","library.read",
    "knowledge.search"]

/-- The two patterns of the column `github_repository` -/
def GitHubRepositoryBinding.checks (binding : GitHubRepositoryBinding) : Bool :=
  let (owner,rest) := binding.repository.toList.span (· ≠ '/')
  let ownerChar (c : Char) := c.isLower || c.isDigit
  let name := rest.drop 1
  isToken ownerChar (fun c => ownerChar c || c == '-') 38 owner && rest.head? == some '/' && !name.isEmpty &&
    name.length ≤ 100 && (name.all fun c => ownerChar c || c == '_' || c == '.' || c == '-') &&
    isToken (fun c => c.isDigit && c != '0') Char.isDigit 19 binding.repositoryId.toList

def Approval.checks (site : SiteId) (row : Approval) : Bool :=
  isSiteId site && Operations.isLowerHex row.manifestSha256 && row.capabilities.all capabilitySet.contains &&
    lengthBetween 1 253 row.hostname && row.githubRepository.all GitHubRepositoryBinding.checks

def isChallenge (text : String) : Bool :=
  text.utf8ByteSize == 43 && text.toList.all fun c => c.isAlphanum || c == '-' || c == '_'

def SignInCode.checks (row : SignInCode) : Bool :=
  isSiteId row.siteId && isChallenge row.challenge && row.returnPath.startsWith "/" && row.returnPath.length ≤ 1024 &&
    lengthBetween 1 253 row.hostname && row.createdAt < row.expiresAt && row.consumedAt.all (row.createdAt ≤ ·)

/-- `CODE_TTL` -/
def codeTtl : Timestamp := 60 * 1000000000

/-- `OWNER_GRANT` -/
def ownerGrant : String := "platform.owner"

/-- `SITE_OWNER_LIFETIME` -/
def siteOwnerLifetime : Timestamp := hours 12

/-- The audience of a `site_owner` session of a site. -/
def siteAudience (site : SiteId) : String := "site:" ++ site

/-- `NewSession::site_owner` -/
def siteOwnerSession (userId : UserId) (audience : String) (token : Digest) (now : Timestamp) : NewSession :=
  ⟨userId,.siteOwner,none,audience,some token,now,now + siteOwnerLifetime⟩

/-- The owner grant of a user is live. -/
def Grant.holds (userId : UserId) (now : Timestamp) (row : Grant) : Bool :=
  row.userId == userId && row.capability == ownerGrant && row.revokedAt.isNone && row.expiresAt.all (toOffset now < ·)

/-- What a presentation at `now` still redeems. -/
def SignInCode.redeemable (row : SignInCode) (now : Timestamp) : Bool := row.consumedAt.isNone && toOffset now < row.expiresAt

/-- A live session of the owner of a site. -/
def isSiteSession (site : SiteId) (row : Session) : Bool :=
  row.kind == .siteOwner && row.audience == siteAudience site && row.revokedAt.isNone

/-- What a change announces of an approval. -/
def Approval.mark (row : Approval) : String × ApprovalState := (row.manifestSha256,row.state)

def SiteApprovalChanged.mark (change : SiteApprovalChanged) : String × ApprovalState := (change.manifestSha256,change.state)

/-- The contracts crate decides the grammars of what a site names, `challenge_of` is base64 of SHA-256. -/
structure SiteContract where
  isDigestHex : String → Bool
  isSiteId : String → Bool
  isHostname : String → Bool
  isCapability : String → Bool
  isEntityRef : String → Bool
  digestOf : String → Digest
  challengeOf : String → String

/-- How a statement ended; `lost` took effect and was not answered. -/
inductive Ending where
  | done | failed | lost
deriving DecidableEq

/-- What a request is answered with. -/
inductive Answer where
  | refused (kind : FailureKind)
  | approval (site : SiteId) (row : Approval)
  | opened (sessionId : SessionId) (returnPath : String)
  | issued
deriving DecidableEq

/-- A redemption that opened a session: the code as it was redeemed, the approving session and the grants as the
redeeming statement found them, and how many withdrawals of the site had committed when the approval was read. -/
structure Opened where
  sessionId : SessionId
  codeHash : Digest
  site : SiteId
  verifier : String
  origin : Option String
  now : Timestamp
  code : SignInCode
  approving : Option Session
  grants : List Grant
  withdrawals : Nat
  session : Session

/-- The committed rows with the locks on them, by the number of the request that holds one. `withdrawals` and
`openings` are what happened so far. -/
structure World where
  approvals : SiteId → Option Approval
  /-- The partial unique index on the hostname of approved sites. -/
  hostnames : String → Option SiteId
  codes : Digest → Option SignInCode
  sessions : List (SessionId × Session)
  grants : List Grant
  revocations : List Revocation
  announcements : List Announcement
  audits : List AuditEvent
  drawn : Nat
  siteHolder : SiteId → Option Nat
  hostnameHolder : String → Option Nat
  codeHolder : Digest → Option Nat
  withdrawals : SiteId → Nat
  openings : List Opened

/-- Nobody else holds it. -/
def isFree {κ : Type} (number : Nat) (holder : κ → Option Nat) (key : κ) : Bool := (holder key).all (· == number)

namespace World

variable (world : World) (number : Nat)

def initial : World :=
  ⟨fun _ => none,fun _ => none,fun _ => none,[],[],[],[],[],0,fun _ => none,fun _ => none,fun _ => none,fun _ => 0,[]⟩

def holdSite (site : SiteId) : World := { world with siteHolder := Function.update world.siteHolder site (some number) }

/-- Whoever holds the entry of a hostname keeps it. -/
def holdHostname (hostname : String) : World :=
  let holder := (world.hostnameHolder hostname).getD number
  { world with hostnameHolder := Function.update world.hostnameHolder hostname (some holder) }

def holdCode (hash : Digest) : World := { world with codeHolder := Function.update world.codeHolder hash (some number) }

/-- The transaction of a request ends: its locks go. -/
def release : World :=
  { world with
    siteHolder := fun site => (world.siteHolder site).filter (· ≠ number)
    hostnameHolder := fun hostname => (world.hostnameHolder hostname).filter (· ≠ number)
    codeHolder := fun hash => (world.codeHolder hash).filter (· ≠ number) }

/-- The index on hostnames without the row of a site. -/
def hostnamesWithout (site : SiteId) : String → Option SiteId :=
  match (world.approvals site).filter (·.state = .approved) with
  | some old => Function.update world.hostnames old.hostname none
  | none => world.hostnames

/-- The row of a site is replaced, and with it its entry in the index on hostnames. -/
def putApproval (site : SiteId) (row : Approval) : World :=
  let cleared := world.hostnamesWithout site
  { world with
    approvals := Function.update world.approvals site (some row)
    hostnames := if row.state = .approved then Function.update cleared row.hostname (some site) else cleared }

end World

end Ratatoskr.Sites
