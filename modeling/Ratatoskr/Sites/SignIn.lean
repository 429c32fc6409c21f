import Ratatoskr.Sites.Approvals

/-! Issuing the codes of site sign-ins and redeeming them. A code is consumed by the transaction that redeems it,
which commits also when it refuses. -/
namespace Ratatoskr.Sites

open Identity PublicApi

variable (contract : SiteContract)

section Issue

/-- A path on the site that a redirect may lead to. -/
def isReturnPath (path : String) : Bool :=
  path.startsWith "/" && !path.startsWith "//" && !path.startsWith "/\\" && path.utf8ByteSize ≤ 1024 &&
    path.toList.all fun c => !(c.toNat < 0x20 || 0x7f ≤ c.toNat && c.toNat < 0xa0)

/-- A request for a code: the challenge and the path of its body, the hostname that the approval had when it was read
before, and the code that is drawn. -/
structure IssueCode where
  principal : Principal
  site : SiteId
  body : Option (String × String)
  hostname : Option String
  now : Timestamp
  hash : Digest

def IssueCode.row (call : IssueCode) (challenge returnPath hostname : String) : SignInCode :=
  ⟨call.principal.userId,call.principal.sessionId,call.site,challenge,returnPath,hostname,toOffset call.now,
    toOffset (call.now + codeTtl),none⟩

/-- The approving session is a live browser session that no device opened. -/
def IssueCode.primary (call : IssueCode) (sessions : List (SessionId × Session)) : Bool :=
  sessions.any fun entry => entry.1 == call.principal.sessionId && entry.2.userId == call.principal.userId &&
    entry.2.isLiveAt call.now && entry.2.deviceId.isNone && entry.2.kind == .browser

/-- `issue_code`: it reads one session and inserts one new row. -/
def issueCode (call : IssueCode) (world : World) : World × Answer :=
  match call.body with
  | none => (world,.refused .invalidRequest)
  | some (challenge,returnPath) =>
    if !isChallenge challenge || !isReturnPath returnPath then (world,.refused .invalidRequest)
    else if !contract.isSiteId call.site then (world,.refused .notFound)
    else
      match call.hostname with
      | none => (world,.refused .notFound)
      | some hostname =>
        let row := call.row challenge returnPath hostname
        if !call.primary world.sessions then (world,.refused .forbidden)
        else if !row.checks || (world.codes call.hash).isSome then (world,.refused .requestTimeout)
        else ({ world with codes := Function.update world.codes call.hash (some row) },.issued)

end Issue

section Open

structure SiteSessionRequest where
  code : String
  verifier : String

/-- A redemption with its body, its `Origin` and what it draws. -/
structure OpenSession where
  site : SiteId
  body : Option SiteSessionRequest
  origin : Option String
  now : Timestamp
  token : Digest
  sessionId : SessionId

/-- What the redeeming statement saw: the approving session and the grants. -/
structure Sight where
  approving : Option Session
  grants : List Grant

/-- Where a redemption awaits. `code` is the row as it was redeemed; `presented` is the digest of a live code that
the redeeming statement found. -/
inductive Opening where
  | redeeming (request : SiteSessionRequest)
  | consuming (request : SiteSessionRequest) (sight : Sight)
  | reading (request : SiteSessionRequest) (code : SignInCode) (sight : Sight)
  | creating (request : SiteSessionRequest) (code : SignInCode) (sight : Sight) (withdrawals : Nat)
  | opening (request : SiteSessionRequest) (code : SignInCode) (sight : Sight) (withdrawals : Nat) (session : Session)
  | refusing (presented : Option Digest) (code : Option SignInCode)
  | answered (presented : Option Digest) (answer : Answer)

/-- What is refused before the database is asked. -/
def OpenSession.begin_ (call : OpenSession) : Opening :=
  match call.body with
  | none => .answered none (.refused .invalidRequest)
  | some request =>
    if request.code.isEmpty || 128 < request.code.utf8ByteSize || 128 < request.verifier.utf8ByteSize then
      .answered none (.refused .unauthenticated)
    else .redeeming request

/-- Whether the approving session and the owner grant are live. -/
def Sight.approves (sight : Sight) (code : SignInCode) (now : Timestamp) : Bool :=
  (sight.approving.any fun session => session.isLiveAt now) && sight.grants.any (Grant.holds code.userId now)

/-- What `redeem` accepts: the code at its own site, with the verifier of its challenge. -/
def OpenSession.accepts (call : OpenSession) (request : SiteSessionRequest) (code : SignInCode) (sight : Sight) : Bool :=
  sight.approves code call.now && code.siteId == call.site && code.challenge == contract.challengeOf request.verifier

/-- `origin_is` -/
def OpenSession.originIs (call : OpenSession) (hostname : String) : Bool := call.origin == some ("https://" ++ hostname)

/-- `approved_now` -/
def approvedNow (world : World) (site : SiteId) (hostname : String) : Bool :=
  (world.approvals site).any fun row => row.state == .approved && row.hostname == hostname

def OpenSession.session (call : OpenSession) (code : SignInCode) : Session :=
  (siteOwnerSession code.userId (siteAudience call.site) call.token call.now).row

def SignInCode.consumed (row : SignInCode) (now : Timestamp) : SignInCode := { row with consumedAt := some (toOffset now) }

/-- What the redeeming statement saw is of its start; the row it changes is read again once it is free. -/
def sightOf (world : World) (code : SignInCode) : Sight :=
  ⟨(world.sessions.find? fun entry => entry.1 == code.createdBySessionId).map Prod.snd,world.grants⟩

/-- The committed rows of a presentation that has consumed its code. -/
def consume (number : Nat) (world : World) (hash : Digest) (code : SignInCode) (now : Timestamp) : World :=
  { world.release number with codes := Function.update world.codes hash (some (code.consumed now)) }

/-- The committed rows of a presentation that has opened a session. -/
def OpenSession.commit (call : OpenSession) (number : Nat) (world : World) (hash : Digest) (opened : Opened) : World :=
  { consume number world hash opened.code call.now with
    sessions := world.sessions ++ [(call.sessionId,opened.session)]
    openings := world.openings ++ [opened] }

def OpenSession.opened (call : OpenSession) (hash : Digest) (request : SiteSessionRequest) (code : SignInCode)
    (sight : Sight) (withdrawals : Nat) (session : Session) : Opened :=
  ⟨call.sessionId,hash,call.site,request.verifier,call.origin,call.now,code,sight.approving,sight.grants,withdrawals,session⟩

/-- `open_session` -/
def openSession (call : OpenSession) (number : Nat) (world : World) : Opening → Ending → Option (World × Opening)
  | .redeeming request,.done =>
    let hash := contract.digestOf request.code
    match (world.codes hash).filter (·.redeemable call.now) with
    | none => some (world,.refusing none none)
    | some code => some (world,.consuming request (sightOf world code))
  | .consuming request sight,.done =>
    let hash := contract.digestOf request.code
    if !isFree number world.codeHolder hash then none
    else
      match (world.codes hash).filter (·.redeemable call.now) with
      | none => some (world,.refusing (some hash) none)
      | some code =>
        let held := world.holdCode number hash
        if !(code.consumed call.now).checks then
          some (world.release number,.answered (some hash) (.refused .requestTimeout))
        else if call.accepts contract request code sight && call.originIs code.hostname then
          some (held,.reading request code sight)
        else some (held,.refusing (some hash) (some code))
  | .reading request code sight,.done =>
    if approvedNow world call.site code.hostname then some (world,.creating request code sight (world.withdrawals call.site))
    else some (world,.refusing (some (contract.digestOf request.code)) (some code))
  | .creating request code sight withdrawals,.done =>
    let session := call.session code
    if !session.checks || world.sessions.any (·.1 == call.sessionId) then
      some (world.release number,.answered (some (contract.digestOf request.code)) (.refused .requestTimeout))
    else some (world,.opening request code sight withdrawals session)
  | .opening request code sight withdrawals session,.done =>
    let hash := contract.digestOf request.code
    some (call.commit number world hash (call.opened hash request code sight withdrawals session),
      .answered (some hash) (.opened call.sessionId code.returnPath))
  | .opening request code sight withdrawals session,.lost =>
    let hash := contract.digestOf request.code
    some (call.commit number world hash (call.opened hash request code sight withdrawals session),
      .answered (some hash) (.refused .requestTimeout))
  | .refusing (some hash) (some code),.done =>
    some (consume number world hash code call.now,.answered (some hash) (.refused .unauthenticated))
  | .refusing (some hash) (some code),.lost =>
    some (consume number world hash code call.now,.answered (some hash) (.refused .requestTimeout))
  | .refusing presented _,.done => some (world.release number,.answered presented (.refused .unauthenticated))
  | .redeeming _,_ => some (world.release number,.answered none (.refused .requestTimeout))
  | .consuming request _,_ | .reading request _ _,_ | .creating request _ _ _,_ | .opening request _ _ _ _,_ =>
    some (world.release number,.answered (some (contract.digestOf request.code)) (.refused .requestTimeout))
  | .refusing presented _,_ => some (world.release number,.answered presented (.refused .requestTimeout))
  | .answered _ _,_ => none

end Open

end Ratatoskr.Sites
