import Ratatoskr.Sites.System

/-! What a turn of a request does to the committed rows and to the locks of the others. -/
namespace Ratatoskr.Sites

open Identity PublicApi

section Locks

variable {κ : Type} {number : Nat} {holder : κ → Option Nat} {key : κ}

/-- The holders that are not this request. -/
def SameOthers (number : Nat) (holder later : κ → Option Nat) : Prop :=
  ∀ key other, other ≠ number → (later key = some other ↔ holder key = some other)

theorem SameOthers.refl (number : Nat) (holder : κ → Option Nat) : SameOthers number holder holder := fun _ _ _ => Iff.rfl

theorem SameOthers.trans {middle later : κ → Option Nat} (first : SameOthers number holder middle)
    (second : SameOthers number middle later) : SameOthers number holder later :=
  fun key other different => (second key other different).trans (first key other different)

theorem sameOthers_release (holder : κ → Option Nat) :
    SameOthers number holder fun key => (holder key).filter (· ≠ number) := by
  intro key other different
  rw [Option.filter_eq_some_iff]
  simp [different]

theorem sameOthers_hold [DecidableEq κ] (free : isFree number holder key = true) :
    SameOthers number holder (Function.update holder key (some number)) := by
  intro place other different
  rw [Function.update_apply]
  split
  · rename_i same
    subst same
    rw [isFree,Option.all_eq_true] at free
    constructor
    · intro held
      exact absurd (Option.some.inj held).symm different
    · intro held
      exact absurd (by simpa using free other held) different
  · exact Iff.rfl

theorem sameOthers_getD [DecidableEq κ] (holder : κ → Option Nat) (key : κ) :
    SameOthers number holder (Function.update holder key (some ((holder key).getD number))) := by
  intro place other different
  rw [Function.update_apply]
  split
  · rename_i same
    subst same
    cases held : holder place with
    | none => simp [Ne.symm different]
    | some => simp
  · exact Iff.rfl

end Locks

/-- The committed rows that the requests share are the same, and so are the locks of the others. -/
structure Quiet (number : Nat) (world later : World) : Prop where
  approvals : later.approvals = world.approvals
  hostnames : later.hostnames = world.hostnames
  codes : later.codes = world.codes
  sessions : later.sessions = world.sessions
  announcements : later.announcements = world.announcements
  withdrawals : later.withdrawals = world.withdrawals
  openings : later.openings = world.openings
  drawn : world.drawn ≤ later.drawn
  sites : SameOthers number world.siteHolder later.siteHolder
  hostnameHolders : SameOthers number world.hostnameHolder later.hostnameHolder
  codeHolders : SameOthers number world.codeHolder later.codeHolder

section Quiet

variable {number : Nat} {world middle later : World}

theorem Quiet.refl (number : Nat) (world : World) : Quiet number world world :=
  ⟨rfl,rfl,rfl,rfl,rfl,rfl,rfl,Nat.le_refl _,.refl _ _,.refl _ _,.refl _ _⟩

theorem Quiet.trans (first : Quiet number world middle) (second : Quiet number middle later) : Quiet number world later where
  approvals := second.approvals.trans first.approvals
  hostnames := second.hostnames.trans first.hostnames
  codes := second.codes.trans first.codes
  sessions := second.sessions.trans first.sessions
  announcements := second.announcements.trans first.announcements
  withdrawals := second.withdrawals.trans first.withdrawals
  openings := second.openings.trans first.openings
  drawn := Nat.le_trans first.drawn second.drawn
  sites := first.sites.trans second.sites
  hostnameHolders := first.hostnameHolders.trans second.hostnameHolders
  codeHolders := first.codeHolders.trans second.codeHolders

theorem quiet_release (number : Nat) (world : World) : Quiet number world (world.release number) :=
  ⟨rfl,rfl,rfl,rfl,rfl,rfl,rfl,Nat.le_refl _,sameOthers_release _,sameOthers_release _,sameOthers_release _⟩

theorem quiet_holdSite {site : SiteId} (free : isFree number world.siteHolder site = true) :
    Quiet number world (world.holdSite number site) :=
  ⟨rfl,rfl,rfl,rfl,rfl,rfl,rfl,Nat.le_refl _,sameOthers_hold free,.refl _ _,.refl _ _⟩

theorem quiet_holdHostname (number : Nat) (world : World) (hostname : String) :
    Quiet number world (world.holdHostname number hostname) :=
  ⟨rfl,rfl,rfl,rfl,rfl,rfl,rfl,Nat.le_refl _,.refl _ _,sameOthers_getD _ _,.refl _ _⟩

theorem quiet_holdCode {hash : Digest} (free : isFree number world.codeHolder hash = true) :
    Quiet number world (world.holdCode number hash) :=
  ⟨rfl,rfl,rfl,rfl,rfl,rfl,rfl,Nat.le_refl _,.refl _ _,.refl _ _,sameOthers_hold free⟩

theorem quiet_drawn (number : Nat) (world : World) : Quiet number world { world with drawn := world.drawn + 1 } :=
  ⟨rfl,rfl,rfl,rfl,rfl,rfl,rfl,Nat.le_succ _,.refl _ _,.refl _ _,.refl _ _⟩

end Quiet

variable (contract : SiteContract) (number : Nat)

/-- A turn leaves the rows as they are, or it is a commit. -/
inductive Turned (world : World) : Task → World → Prop where
  | quiet (task : Task) (later : World) (quiet : Quiet number world later) : Turned world task later
  | approved (call : Approve) (row : Approval) (announcement : Announcement) :
      Turned world (.approving call (.committing row announcement)) (commitChange number call.toCaller world row announcement)
  | withdrawn (call : Withdraw) (row : Approval) (announcement : Announcement) (revoked : List SessionId) (opened : Nat) :
      Turned world (.withdrawing call (.committing row announcement revoked opened))
        (commitWithdrawal number call world row announcement revoked)
  | consumed (call : OpenSession) (hash : Digest) (code : SignInCode) :
      Turned world (.opening call (.refusing (some hash) (some code))) (consume number world hash code call.now)
  | opened (call : OpenSession) (request : SiteSessionRequest) (code : SignInCode) (sight : Sight) (withdrawals : Nat)
      (session : Session) :
      Turned world (.opening call (.opening request code sight withdrawals session))
        (call.commit number world (contract.digestOf request.code)
          (call.opened (contract.digestOf request.code) request code sight withdrawals session))

variable {contract number} {world later : World}

theorem announce_quiet {caller : Caller} {change : SiteApprovalChanged} {announced : Option Announcement}
    (drawn : announce contract caller world change = (later,announced)) : Quiet number world later := by
  obtain ⟨rfl,-⟩ := Prod.mk.inj drawn
  exact quiet_drawn number world

theorem upsert_quiet {call : Approve} {change : SiteApprovalChanged} {next : Approving}
    (stepped : call.upsert number world change = some (later,next)) : Quiet number world later := by
  unfold Approve.upsert at stepped
  split at stepped
  · cases stepped
  · rename_i free
    simp only [Bool.or_eq_true,Bool.not_eq_true',not_or,Bool.not_eq_false] at free
    have held := (quiet_holdSite free.1).trans (quiet_holdHostname number (world.holdSite number call.site) change.hostname)
    simp only at stepped
    split at stepped
    · cases stepped
      exact quiet_release number world
    · split at stepped
      · cases stepped
        exact quiet_release number world
      · split at stepped
        · cases stepped
          exact held.trans (quiet_holdHostname number _ _)
        · cases stepped
          exact held

theorem approve_turned {call : Approve} {at_ next : Approving} {ending : Ending}
    (stepped : approve contract call number world at_ ending = some (later,next)) :
    Turned contract number world (.approving call at_) later := by
  unfold approve at stepped
  split at stepped
  · split at stepped
    · cases stepped
      exact .quiet _ _ (.refl number world)
    · split at stepped
      · rename_i free
        cases stepped
        exact .quiet _ _ (quiet_holdSite free)
      · cases stepped
  · split at stepped
    · cases stepped
      exact .quiet _ _ (quiet_release number world)
    · exact .quiet _ _ (upsert_quiet stepped)
  · split at stepped
    · rename_i drawn
      cases stepped
      exact .quiet _ _ (announce_quiet drawn)
    · rename_i drawn
      cases stepped
      exact .quiet _ _ ((announce_quiet drawn).trans (quiet_release number _))
  · cases stepped
    exact .approved call _ _
  · cases stepped
    exact .approved call _ _
  · cases stepped
  · cases stepped
    exact .quiet _ _ (quiet_release number world)

theorem withdraw_turned {call : Withdraw} {at_ next : Withdrawing} {ending : Ending}
    (stepped : withdraw contract call number world at_ ending = some (later,next)) :
    Turned contract number world (.withdrawing call at_) later := by
  unfold withdraw at stepped
  split at stepped
  · split at stepped
    · cases stepped
      exact .quiet _ _ (quiet_release number world)
    · split at stepped
      · cases stepped
      · rename_i free
        split at stepped
        · cases stepped
          exact .quiet _ _ (quiet_release number world)
        · split at stepped
          · cases stepped
            exact .quiet _ _ (quiet_release number world)
          · cases stepped
            exact .quiet _ _ (quiet_holdSite (by simpa using free))
  · cases stepped
    exact .quiet _ _ (quiet_holdHostname number world _)
  · cases stepped
    exact .quiet _ _ (.refl number world)
  · split at stepped
    · rename_i drawn
      cases stepped
      exact .quiet _ _ (announce_quiet drawn)
    · rename_i drawn
      cases stepped
      exact .quiet _ _ ((announce_quiet drawn).trans (quiet_release number _))
  · cases stepped
    exact .withdrawn call _ _ _ _
  · cases stepped
    exact .withdrawn call _ _ _ _
  · cases stepped
  · cases stepped
    exact .quiet _ _ (quiet_release number world)

theorem openSession_turned {call : OpenSession} {at_ next : Opening} {ending : Ending}
    (stepped : openSession contract call number world at_ ending = some (later,next)) :
    Turned contract number world (.opening call at_) later := by
  unfold openSession at stepped
  split at stepped
  · simp only at stepped
    split at stepped <;> cases stepped <;> exact .quiet _ _ (.refl number world)
  · simp only at stepped
    split at stepped
    · cases stepped
    · rename_i free
      have held : Quiet number world (world.holdCode number (contract.digestOf _)) := quiet_holdCode (by simpa using free)
      split at stepped
      · cases stepped
        exact .quiet _ _ (.refl number world)
      · split at stepped
        · cases stepped
          exact .quiet _ _ (quiet_release number world)
        · split at stepped <;> cases stepped <;> exact .quiet _ _ held
  · split at stepped <;> cases stepped <;> exact .quiet _ _ (.refl number world)
  · simp only at stepped
    split at stepped
    · cases stepped
      exact .quiet _ _ (quiet_release number world)
    · cases stepped
      exact .quiet _ _ (.refl number world)
  · cases stepped
    exact .opened call _ _ _ _ _
  · cases stepped
    exact .opened call _ _ _ _ _
  · cases stepped
    exact .consumed call _ _
  · cases stepped
    exact .consumed call _ _
  all_goals
    first
    | cases stepped; done
    | cases stepped
      exact .quiet _ _ (quiet_release number world)

theorem resume_turned {task after : Task} {ending : Ending}
    (stepped : task.resume contract number world ending = some (later,after)) : Turned contract number world task later := by
  cases task with
  | approving call at_ =>
    obtain ⟨⟨_,_⟩,turn,same⟩ := Option.map_eq_some_iff.mp stepped
    cases same
    exact approve_turned turn
  | withdrawing call at_ =>
    obtain ⟨⟨_,_⟩,turn,same⟩ := Option.map_eq_some_iff.mp stepped
    cases same
    exact withdraw_turned turn
  | opening call at_ =>
    obtain ⟨⟨_,_⟩,turn,same⟩ := Option.map_eq_some_iff.mp stepped
    cases same
    exact openSession_turned turn
  | dropped =>
    cases stepped
    exact .quiet _ _ (quiet_release number world)

/-- A code is issued to a live session under a digest that had no row, or nothing changes. -/
theorem issueCode_cases (contract : SiteContract) (call : IssueCode) (world : World) :
    (issueCode contract call world).1 = world ∨ ∃ row, world.codes call.hash = none ∧
      (row.userId = call.principal.userId ∧ call.primary world.sessions = true) ∧
      (issueCode contract call world).1 = { world with codes := Function.update world.codes call.hash (some row) } := by
  unfold issueCode
  split
  · exact Or.inl rfl
  · split
    · exact Or.inl rfl
    · split
      · exact Or.inl rfl
      · split
        · exact Or.inl rfl
        · simp only
          split
          · exact Or.inl rfl
          · rename_i primary
            split
            · exact Or.inl rfl
            · rename_i absent
              simp only [Bool.or_eq_true,Bool.not_eq_true',not_or,Bool.not_eq_false,Option.not_isSome_iff_eq_none] at primary absent
              exact Or.inr ⟨_,absent.2,⟨rfl,primary⟩,rfl⟩

end Ratatoskr.Sites
