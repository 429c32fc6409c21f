import Ratatoskr.Sites.Tables

/-! Approving the manifest of a site and withdrawing the approval, as what each does between two of its awaited
statements. The lock on the row of the site is held to the end of the transaction. -/
namespace Ratatoskr.Sites

open Identity PublicApi

variable (contract : SiteContract)

section Announce

/-- What an approval request and a withdrawal have in common. -/
structure Caller where
  principal : Principal
  correlation : String
  site : SiteId
  now : Timestamp
  auditEventId : Nat

/-- The event of a change in its envelope. -/
def Caller.announcement (caller : Caller) (change : SiteApprovalChanged) (outboxId : Nat) (eventId : MessageId) :
    Option Announcement :=
  let aggregateId := "site:" ++ change.siteId
  if contract.isEntityRef aggregateId && contract.isEntityRef caller.correlation then
    some ⟨outboxId,eventId,caller.now,aggregateId,caller.correlation,caller.principal.userId,change⟩
  else none

/-- The audit record of a change. -/
def Caller.audit (caller : Caller) (change : SiteApprovalChanged) : AuditEvent where
  actorUserId := some caller.principal.userId
  actorSessionId := some caller.principal.sessionId
  action := if change.state = .withdrawn then "site.approval.withdraw" else "site.approval.approve"
  targetKind := "site"
  targetId := none
  outcome := .allowed
  correlationId := caller.correlation
  occurredAt := toOffset caller.now

/-- `announce`: both rows are new and its own, so that its statements wait for nobody. -/
def announce (caller : Caller) (world : World) (change : SiteApprovalChanged) : World × Option Announcement :=
  ({ world with drawn := world.drawn + 1 },caller.announcement contract change world.drawn world.drawn)

/-- The committed rows of a transaction that changed the approval of a site. -/
def commitChange (number : Nat) (caller : Caller) (world : World) (row : Approval) (announcement : Announcement) : World :=
  { (world.putApproval caller.site row).release number with
    announcements := world.announcements ++ [announcement]
    audits := world.audits ++ [caller.audit announcement.payload] }

end Announce

section Approve

/-- The active manifest of a site, as the sites service answers it. -/
structure ActiveManifest where
  siteId : SiteId
  manifestSha256 : String
  hostname : String
  capabilities : List String
  githubRepository : Option GitHubRepositoryBinding

/-- An approval with its body and what the sites service answered. -/
structure Approve extends Caller where
  body : Option String
  active : Except FailureKind ActiveManifest

/-- What `approve` checks before it stores anything. -/
def Approve.change (call : Approve) : Except FailureKind SiteApprovalChanged :=
  match call.body.filter contract.isDigestHex with
  | none => .error .invalidRequest
  | some requested =>
    match call.active with
    | .error kind => .error kind
    | .ok active =>
      if active.siteId ≠ call.site then .error .upstreamInvalidResponse
      else if active.manifestSha256 ≠ requested then .error .manifestDigestStale
      else if active.githubRepository.isNone then .error .invalidRequest
      else .ok ⟨active.siteId,active.manifestSha256,active.capabilities,active.hostname,.approved,active.githubRepository⟩

/-- Where an approval awaits. -/
inductive Approving where
  | locking (change : SiteApprovalChanged)
  | storing (change : SiteApprovalChanged) (stored : Option Approval)
  | announcing (change : SiteApprovalChanged) (row : Approval)
  | committing (row : Approval) (announcement : Announcement)
  | answered (answer : Answer)

def Approve.begin_ (call : Approve) : Approving :=
  match call.change contract with
  | .ok change => .locking change
  | .error kind => .answered (.refused kind)

/-- The site already has that approval. -/
def Approval.isApprovalOf (change : SiteApprovalChanged) (row : Approval) : Bool :=
  row.state == .approved && row.manifestSha256 == change.manifestSha256

/-- The row of the upsert -/
def Approve.row (call : Approve) (change : SiteApprovalChanged) : Approval :=
  ⟨call.principal.userId,change.manifestSha256,change.capabilities,change.hostname,.approved,toOffset call.now,
    change.githubRepository⟩

/-- The upsert. It waits for a request that holds the row or has just given the hostname to a site or taken it from
one; a hostname of another approved site violates the index. -/
def Approve.upsert (call : Approve) (number : Nat) (world : World) (change : SiteApprovalChanged) : Option (World × Approving) :=
  if !isFree number world.siteHolder call.site || !isFree number world.hostnameHolder change.hostname then none
  else
    let row := call.row change
    if !row.checks call.site then some (world.release number,.answered (.refused .requestTimeout))
    else if (world.hostnames change.hostname).any (· ≠ call.site) then
      some (world.release number,.answered (.refused .siteHostnameTaken))
    else
      let held := (world.holdSite number call.site).holdHostname number change.hostname
      match (world.approvals call.site).filter (·.state = .approved) with
      | some old => some (held.holdHostname number old.hostname,.announcing change row)
      | none => some (held,.announcing change row)

/-- `store` -/
def approve (call : Approve) (number : Nat) (world : World) : Approving → Ending → Option (World × Approving)
  | .locking change,.done =>
    match world.approvals call.site with
    | none => some (world,.storing change none)
    | some row =>
      if isFree number world.siteHolder call.site then some (world.holdSite number call.site,.storing change (some row))
      else none
  | .storing change stored,.done =>
    match stored.filter (Approval.isApprovalOf change) with
    | some row =>
      let answer := if row.githubRepository ≠ change.githubRepository then .refused .upstreamInvalidResponse
        else .approval call.site row
      some (world.release number,.answered answer)
    | none => call.upsert number world change
  | .announcing change row,.done =>
    match announce contract call.toCaller world change with
    | (drawn,some announcement) => some (drawn,.committing row announcement)
    | (drawn,none) => some (drawn.release number,.answered (.refused .requestTimeout))
  | .committing row announcement,.done =>
    some (commitChange number call.toCaller world row announcement,.answered (.approval call.site row))
  | .committing row announcement,.lost =>
    some (commitChange number call.toCaller world row announcement,.answered (.refused .requestTimeout))
  | .answered _,_ => none
  | _,_ => some (world.release number,.answered (.refused .requestTimeout))

end Approve

section Withdraw

/-- A withdrawal -/
abbrev Withdraw := Caller

/-- The withdrawal event of a stored approval, when the row parses. -/
def withdrawal (site : SiteId) (stored : Approval) : Option SiteApprovalChanged :=
  if stored.capabilities.all contract.isCapability && contract.isSiteId site && contract.isDigestHex stored.manifestSha256 &&
      contract.isHostname stored.hostname then
    some ⟨site,stored.manifestSha256,stored.capabilities,stored.hostname,.withdrawn,stored.githubRepository⟩
  else none

/-- Where a withdrawal awaits; `opened` is how many sessions of the site had been opened at the revoking statement. -/
inductive Withdrawing where
  | locking
  | updating (stored : Approval) (change : SiteApprovalChanged)
  | revoking (row : Approval) (change : SiteApprovalChanged)
  | announcing (row : Approval) (change : SiteApprovalChanged) (revoked : List SessionId) (opened : Nat)
  | committing (row : Approval) (announcement : Announcement) (revoked : List SessionId) (opened : Nat)
  | answered (answer : Answer)

/-- The row that a withdrawal leaves -/
def Withdraw.row (call : Withdraw) (stored : Approval) : Approval :=
  { stored with state := .withdrawn, changedBy := call.principal.userId, changedAt := toOffset call.now }

/-- `revoke_site_sessions`: the live sessions of the site among the committed ones. -/
def siteSessions (world : World) (site : SiteId) : List SessionId :=
  (world.sessions.filter fun entry => isSiteSession site entry.2).map Prod.fst

/-- The sessions that a redemption has opened of a site. -/
def openedSessions (world : World) (site : SiteId) : Nat := world.openings.countP fun opened => opened.site = site

def closeSessions (sessions : List (SessionId × Session)) (revoked : List SessionId) (now : Timestamp) :
    List (SessionId × Session) :=
  sessions.map fun entry => if entry.1 ∈ revoked then (entry.1,entry.2.revoked now) else entry

def Withdraw.revocation (call : Withdraw) (sessionId : SessionId) : Revocation :=
  ⟨.session,sessionId,.userRequest,toOffset call.now,some call.principal.userId⟩

/-- The committed rows of a withdrawal: the approval, and in the same transaction the sessions of the site. -/
def commitWithdrawal (number : Nat) (call : Withdraw) (world : World) (row : Approval) (announcement : Announcement)
    (revoked : List SessionId) : World :=
  { commitChange number call world row announcement with
    sessions := closeSessions world.sessions revoked call.now
    revocations := world.revocations ++ revoked.map call.revocation
    withdrawals := Function.update world.withdrawals call.site (world.withdrawals call.site + 1) }

/-- `withdraw_stored` -/
def withdraw (call : Withdraw) (number : Nat) (world : World) : Withdrawing → Ending → Option (World × Withdrawing)
  | .locking,.done =>
    match world.approvals call.site with
    | none => some (world.release number,.answered (.refused .notFound))
    | some stored =>
      if !isFree number world.siteHolder call.site then none
      else if stored.state = .withdrawn then some (world.release number,.answered (.approval call.site stored))
      else
        match withdrawal contract call.site stored with
        | none => some (world.release number,.answered (.refused .requestTimeout))
        | some change => some (world.holdSite number call.site,.updating stored change)
  | .updating stored change,.done => some (world.holdHostname number stored.hostname,.revoking (call.row stored) change)
  | .revoking row change,.done =>
    some (world,.announcing row change (siteSessions world call.site) (openedSessions world call.site))
  | .announcing row change revoked opened,.done =>
    match announce contract call world change with
    | (drawn,some announcement) => some (drawn,.committing row announcement revoked opened)
    | (drawn,none) => some (drawn.release number,.answered (.refused .requestTimeout))
  | .committing row announcement revoked _,.done =>
    some (commitWithdrawal number call world row announcement revoked,.answered (.approval call.site row))
  | .committing row announcement revoked _,.lost =>
    some (commitWithdrawal number call world row announcement revoked,.answered (.refused .requestTimeout))
  | .answered _,_ => none
  | _,_ => some (world.release number,.answered (.refused .requestTimeout))

end Withdraw

end Ratatoskr.Sites
