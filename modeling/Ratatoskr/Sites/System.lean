import Ratatoskr.Lib.Tasks
import Ratatoskr.Sites.SignIn

/-! Any number of requests on the approvals and the sign-ins of sites, interleaved statement by statement. -/
namespace Ratatoskr.Sites

open Identity PublicApi

inductive Call where
  | approve (call : Approve)
  | withdraw (call : Withdraw)
  | open_ (call : OpenSession)

/-- A request, and where it awaits. -/
inductive Task where
  | approving (call : Approve) (at_ : Approving)
  | withdrawing (call : Withdraw) (at_ : Withdrawing)
  | opening (call : OpenSession) (at_ : Opening)
  | dropped

/-- What other requests do to the tables that these share. -/
inductive Outside where
  | issue (call : IssueCode)
  | signIn (sessionId : SessionId) (session : Session)
  | revoke (sessionId : SessionId) (now : Timestamp)
  | grants (rows : List Grant)

variable (contract : SiteContract)

def Call.task : Call → Task
  | .approve call => .approving call (call.begin_ contract)
  | .withdraw call => .withdrawing call .locking
  | .open_ call => .opening call call.begin_

/-- What a request does when an awaited statement has ended. A dropped one leaves its locks to the database. -/
def Task.resume (number : Nat) (world : World) (ending : Ending) : Task → Option (World × Task)
  | .approving call at_ => (approve contract call number world at_ ending).map fun turn => (turn.1,.approving call turn.2)
  | .withdrawing call at_ => (withdraw contract call number world at_ ending).map fun turn => (turn.1,.withdrawing call turn.2)
  | .opening call at_ => (openSession contract call number world at_ ending).map fun turn => (turn.1,.opening call turn.2)
  | .dropped => some (world.release number,.dropped)

def World.outside (world : World) : Outside → Option World
  | .issue call => some (issueCode contract call world).1
  | .signIn sessionId session =>
    if session.kind = .siteOwner || world.sessions.any (·.1 == sessionId) then none
    else some { world with sessions := world.sessions ++ [(sessionId,session)] }
  | .revoke sessionId now => some { world with
      sessions := world.sessions.map fun entry =>
        if entry.1 = sessionId ∧ entry.2.revokedAt.isNone then (entry.1,entry.2.revoked now) else entry }
  | .grants rows => some { world with grants := rows }

def machine : Tasks.Machine World Task Ending Call Outside where
  begin_ _ := Call.task contract
  resume := Task.resume contract
  dropped := .dropped
  outside := World.outside contract

abbrev System := Tasks.System World Task

abbrev Action := Tasks.Action Ending Call Outside

abbrev step : System → Action → Option System := (machine contract).step

/-- No site has been approved and nobody has signed in. -/
def initial : System := ⟨.initial,fun _ => none⟩

def Task.settled : Task → Bool
  | .approving _ (.answered _) | .withdrawing _ (.answered _) | .opening _ (.answered _ _) => true
  | _ => false

/-- No transaction is in progress. -/
def Settled (s : System) : Prop := ∀ number task, s.tasks number = some task → task.settled = true

/-- In a run that moves only these requests, the others need no look. -/
theorem settled_of_run {contract : SiteContract} {actions : List Action} {s : System} (numbers : List Nat)
    (moved : ∀ action ∈ actions, ∀ number, action.number = some number → number ∈ numbers)
    (ran : StateMachine.run (step contract) initial actions = some s)
    (settled : (numbers.all fun number => (s.tasks number).all Task.settled) = true) : Settled s := by
  intro number task there
  by_cases listed : number ∈ numbers
  · have one := List.all_eq_true.mp settled number listed
    rw [there] at one
    exact one
  · have untouched := (machine contract).untouched number actions (fun action member same => listed (moved action member number same)) ran
    rw [there] at untouched
    cases untouched

section Sample

/-- The digest and the challenge are those of the texts `code` and `verifier`. -/
def sampleContract : SiteContract where
  isDigestHex := Operations.isLowerHex
  isSiteId := Identity.isSiteId
  isHostname hostname := !hostname.isEmpty
  isCapability := capabilitySet.contains
  isEntityRef text := !text.isEmpty
  digestOf _ := 0x5694d08a2e53ffcae0c3103e5ad6f6076abd960eb1f8a56577040bc1028f702b#256
  challengeOf _ := "iMnq5o6zALKXGivsnlom_0F5_WYda32GHkxlV7mq7hQ"

def sampleManifest : String := "05b3abf2579a5eb66403cd78be557fd860633a1fe2103c7642030defe32c657f"

def sampleCaller (now : Timestamp) (site : SiteId) : Caller := ⟨⟨1,1,.browser⟩,"operation:1",site,now,1⟩

def sampleApprove (now : Timestamp) (site : SiteId) (hostname : String) : Approve :=
  ⟨sampleCaller now site,some sampleManifest,.ok ⟨site,sampleManifest,hostname,["pages.read"],some ⟨"owner/site","1"⟩⟩⟩

def sampleIssue : IssueCode where
  principal := ⟨1,1,.browser⟩
  site := "notes"
  body := some ("iMnq5o6zALKXGivsnlom_0F5_WYda32GHkxlV7mq7hQ","/")
  hostname := some "notes.example"
  now := hours 2
  hash := sampleContract.digestOf "code"

def sampleOpen : OpenSession :=
  ⟨"notes",some ⟨"code","verifier"⟩,some "https://notes.example",hours 2,7,2⟩

/-- A user signs in and is the owner. -/
def sampleOwner : List Action :=
  [.outside (.signIn 1 (NewSession.row ⟨1,.browser,none,"edge",some 5,0,hours 24⟩)),
    .outside (.grants [⟨1,ownerGrant,none,none⟩])]

/-- A request from its beginning to where it awaits after so many statements. -/
def sampleTurns (number : Nat) (call : Call) (turns : Nat) : List Action :=
  .begin_ number call :: List.replicate turns (.resume number .done)

end Sample

end Ratatoskr.Sites
