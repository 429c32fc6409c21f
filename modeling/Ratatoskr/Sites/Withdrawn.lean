import Ratatoskr.Sites.Effects

/-! The sessions of a site whose approval is withdrawn. A redemption reads the approval without a lock and a withdrawal
revokes the sessions that its statement sees, so that one of the two may miss the other. -/
namespace Ratatoskr.Sites

open Identity PublicApi

/-- No session of the owner of a withdrawn site is live, and every live one was opened under an approval that was
read after the last withdrawal of its site. -/
structure Shut (world : World) : Prop where
  withdrawn : ∀ site row, world.approvals site = some row → row.state = .withdrawn →
    ∀ entry ∈ world.sessions, isSiteSession site entry.2 = false
  current : ∀ site, ∀ entry ∈ world.sessions, isSiteSession site entry.2 = true → ∃ opened ∈ world.openings,
    opened.sessionId = entry.1 ∧ opened.site = site ∧ opened.withdrawals = world.withdrawals site

/-- What a commit must not meet: a redemption no withdrawal of its site since it has read the approval, a withdrawal no
session of its site that was opened since it has revoked them. -/
def Task.apart (world : World) : Task → Prop
  | .opening call (.opening _ _ _ withdrawals _) => world.withdrawals call.site = withdrawals
  | .withdrawing call (.committing _ _ _ opened) => openedSessions world call.site = opened
  | _ => True

instance (world : World) : (task : Task) → Decidable (task.apart world)
  | .opening call (.opening _ _ _ withdrawals _) => inferInstanceAs (Decidable (world.withdrawals call.site = withdrawals))
  | .withdrawing call (.committing _ _ _ opened) => inferInstanceAs (Decidable (openedSessions world call.site = opened))
  | .opening _ (.redeeming _) | .opening _ (.consuming _ _) | .opening _ (.reading _ _ _) | .opening _ (.creating _ _ _ _)
  | .opening _ (.refusing _ _) | .opening _ (.answered _ _) | .withdrawing _ .locking | .withdrawing _ (.updating _ _)
  | .withdrawing _ (.revoking _ _) | .withdrawing _ (.announcing _ _ _ _) | .withdrawing _ (.answered _)
  | .approving _ _ | .dropped => inferInstanceAs (Decidable True)

/-- No redemption and no withdrawal of one site commit so that one has missed the other. -/
def Apart (s : System) : Action → Prop
  | .resume number ending => ending ≠ .failed → ∀ task ∈ s.tasks number, task.apart s.world
  | .begin_ _ _ | .drop _ | .outside _ => True

instance (s : System) : (action : Action) → Decidable (Apart s action)
  | .resume number ending => inferInstanceAs (Decidable (ending ≠ .failed → ∀ task ∈ s.tasks number, task.apart s.world))
  | .begin_ _ _ | .drop _ | .outside _ => inferInstanceAs (Decidable True)

section Locals

def Approved (world : World) (site : SiteId) : Prop := ∃ row, world.approvals site = some row ∧ row.state = .approved

/-- What every request may count on while others take their turns. -/
structure SessionsStay (world later : World) : Prop where
  withdrawals : ∀ site, world.withdrawals site ≤ later.withdrawals site
  approved : ∀ site, later.withdrawals site = world.withdrawals site → Approved world site → Approved later site
  opened : ∀ site, openedSessions world site ≤ openedSessions later site
  sessions : ∀ site, openedSessions later site = openedSessions world site → ∀ entry ∈ later.sessions,
    isSiteSession site entry.2 = true → ∃ before ∈ world.sessions, before.1 = entry.1 ∧ isSiteSession site before.2 = true

/-- A request read the site as approved when so many withdrawals of it had committed. -/
structure SeenApproved (world : World) (site : SiteId) (withdrawals : Nat) : Prop where
  bound : withdrawals ≤ world.withdrawals site
  approved : world.withdrawals site = withdrawals → Approved world site

/-- A withdrawal revokes these, which were the live sessions of the site when so many had been opened. -/
structure Covers (world : World) (site : SiteId) (revoked : List SessionId) (opened : Nat) : Prop where
  bound : opened ≤ openedSessions world site
  revoked : openedSessions world site = opened → ∀ entry ∈ world.sessions, isSiteSession site entry.2 = true →
    entry.1 ∈ revoked

def ApprovingShut : Approving → Prop
  | .announcing _ row | .committing row _ => row.state = .approved
  | _ => True

def WithdrawingShut (world : World) (site : SiteId) : Withdrawing → Prop
  | .announcing _ _ revoked opened | .committing _ _ revoked opened => Covers world site revoked opened
  | _ => True

def OpeningShut (world : World) (call : OpenSession) : Opening → Prop
  | .creating _ _ _ withdrawals => SeenApproved world call.site withdrawals
  | .opening _ code _ withdrawals session => SeenApproved world call.site withdrawals ∧ session = call.session code
  | _ => True

def ShutLocal (world : World) : Task → Prop
  | .approving _ at_ => ApprovingShut at_
  | .withdrawing call at_ => WithdrawingShut world call.site at_
  | .opening call at_ => OpeningShut world call at_
  | .dropped => True

variable {world later : World} {site : SiteId}

theorem SeenApproved.stays {withdrawals : Nat} (seen : SeenApproved world site withdrawals) (stay : SessionsStay world later) :
    SeenApproved later site withdrawals where
  bound := Nat.le_trans seen.bound (stay.withdrawals site)
  approved same := by
    have before := seen.bound
    have since := stay.withdrawals site
    exact stay.approved site (by omega) (seen.approved (by omega))

theorem Covers.stays {revoked : List SessionId} {opened : Nat} (covers : Covers world site revoked opened)
    (stay : SessionsStay world later) : Covers later site revoked opened where
  bound := Nat.le_trans covers.bound (stay.opened site)
  revoked same entry member live := by
    have before := covers.bound
    have since := stay.opened site
    obtain ⟨earlier,listed,id,alive⟩ := stay.sessions site (by omega) entry member live
    rw [← id]
    exact covers.revoked (by omega) earlier listed alive

theorem ShutLocal.stays {task : Task} (known : ShutLocal world task) (stay : SessionsStay world later) : ShutLocal later task := by
  cases task with
  | approving call at_ => exact known
  | withdrawing call at_ =>
    cases at_ with
    | announcing => exact Covers.stays known stay
    | committing => exact Covers.stays known stay
    | _ => trivial
  | opening call at_ =>
    cases at_ with
    | creating => exact SeenApproved.stays known stay
    | opening => exact ⟨known.1.stays stay,known.2⟩
    | _ => trivial
  | dropped => trivial

end Locals

section Turns

variable {contract : SiteContract} {world later : World} {number : Nat}

/-- A move that opens no session, withdraws nothing and makes no session live. -/
theorem shut_kept (valid : Shut world) (approvals : ∀ site row, later.approvals site = some row → row.state = .withdrawn →
      world.approvals site = some row)
    (approved : ∀ site, Approved world site → Approved later site)
    (withdrawals : later.withdrawals = world.withdrawals) (openings : later.openings = world.openings)
    (sessions : ∀ site, ∀ entry ∈ later.sessions, isSiteSession site entry.2 = true →
      ∃ before ∈ world.sessions, before.1 = entry.1 ∧ isSiteSession site before.2 = true) :
    Shut later ∧ SessionsStay world later := by
  refine ⟨⟨?_,?_⟩,⟨?_,fun site _ => approved site,?_,fun site _ => sessions site⟩⟩
  · intro site row stored withdrawn entry member
    by_contra live
    obtain ⟨before,listed,_,alive⟩ := sessions site entry member (Bool.not_eq_false _ ▸ live)
    rw [valid.withdrawn site row (approvals site row stored withdrawn) withdrawn before listed] at alive
    cases alive
  · intro site entry member live
    obtain ⟨before,listed,id,alive⟩ := sessions site entry member live
    obtain ⟨opened,there,same,at_,current⟩ := valid.current site before listed alive
    exact ⟨opened,openings ▸ there,same.trans id,at_,withdrawals ▸ current⟩
  · intro site
    rw [withdrawals]
  · intro site
    rw [openedSessions,openedSessions,openings]

theorem Quiet.shut (quiet : Quiet number world later) (valid : Shut world) : Shut later ∧ SessionsStay world later := by
  refine shut_kept valid ?_ ?_ quiet.withdrawals quiet.openings ?_
  · intro site row stored _
    rw [← quiet.approvals]
    exact stored
  · intro site approved
    rw [Approved,quiet.approvals]
    exact approved
  · intro site entry member live
    exact ⟨entry,quiet.sessions ▸ member,rfl,live⟩

/-- A session of the site that the redemption is at, and of no other. -/
theorem isSiteSession_session (call : OpenSession) (code : SignInCode) (site : SiteId) :
    isSiteSession site (call.session code) = true ↔ site = call.site := by
  simp only [isSiteSession,OpenSession.session,siteOwnerSession,NewSession.row,siteAudience,Bool.and_eq_true,beq_iff_eq,
    String.append_right_inj,Option.isNone_none,and_true,true_and]
  exact eq_comm

/-- The approval of a site is replaced by an approved row. -/
theorem commitChange_shut (valid : Shut world) (caller : Caller) {row : Approval} (announcement : Announcement)
    (approved : row.state = .approved) :
    Shut (commitChange number caller world row announcement) ∧
      SessionsStay world (commitChange number caller world row announcement) := by
  have stored : ∀ site, (commitChange number caller world row announcement).approvals site =
      if site = caller.site then some row else world.approvals site := fun site => Function.update_apply ..
  refine shut_kept valid ?_ ?_ rfl rfl fun site entry member live => ⟨entry,member,rfl,live⟩
  · intro site found there withdrawn
    rw [stored] at there
    split at there
    · obtain rfl := Option.some.inj there
      rw [approved] at withdrawn
      cases withdrawn
    · exact there
  · intro site before
    rw [Approved,stored]
    split
    · exact ⟨row,rfl,approved⟩
    · exact before

/-- A session that is live after some were closed was live before and is none of them. -/
theorem live_of_closeSessions {sessions : List (SessionId × Session)} {revoked : List SessionId} {now : Timestamp}
    {site : SiteId} {entry : SessionId × Session} (member : entry ∈ closeSessions sessions revoked now)
    (live : isSiteSession site entry.2 = true) : entry ∈ sessions ∧ entry.1 ∉ revoked := by
  obtain ⟨before,listed,rfl⟩ := List.mem_map.mp member
  split
  · rename_i closed
    rw [if_pos closed] at live
    simp [isSiteSession,Session.revoked] at live
  · rename_i open_
    exact ⟨listed,open_⟩

/-- A withdrawal that has missed no session leaves none of its site live. -/
theorem commitWithdrawal_shut (valid : Shut world) (call : Withdraw) (row : Approval) (announcement : Announcement)
    {revoked : List SessionId} {opened : Nat} (covers : Covers world call.site revoked opened)
    (apart : openedSessions world call.site = opened) :
    Shut (commitWithdrawal number call world row announcement revoked) ∧
      SessionsStay world (commitWithdrawal number call world row announcement revoked) := by
  have stored : ∀ site, (commitWithdrawal number call world row announcement revoked).approvals site =
      if site = call.site then some row else world.approvals site := fun site => Function.update_apply ..
  have counted : ∀ site, (commitWithdrawal number call world row announcement revoked).withdrawals site =
      if site = call.site then world.withdrawals call.site + 1 else world.withdrawals site := fun site => Function.update_apply ..
  have closed : ∀ entry ∈ (commitWithdrawal number call world row announcement revoked).sessions,
      ¬isSiteSession call.site entry.2 = true := by
    intro entry member live
    obtain ⟨listed,missed⟩ := live_of_closeSessions member live
    exact missed (covers.revoked apart entry listed live)
  refine ⟨⟨?_,?_⟩,⟨?_,?_,fun site => Nat.le_refl _,?_⟩⟩
  · intro site found there withdrawn entry member
    by_cases same : site = call.site
    · rw [same]
      exact Bool.not_eq_true _ ▸ closed entry member
    · rw [stored,if_neg same] at there
      by_contra live
      obtain ⟨listed,_⟩ := live_of_closeSessions member (Bool.not_eq_false _ ▸ live)
      exact live (valid.withdrawn site found there withdrawn entry listed)
  · intro site entry member live
    have other : site ≠ call.site := by
      rintro rfl
      exact closed entry member live
    rw [counted,if_neg other]
    exact valid.current site entry (live_of_closeSessions member live).1 live
  · intro site
    rw [counted]
    split
    · rename_i same
      rw [same]
      omega
    · omega
  · intro site same approved
    rw [counted] at same
    split at same
    · rename_i at_
      rw [at_] at same
      omega
    · rename_i other
      rw [Approved,stored,if_neg other]
      exact approved
  · intro site _ entry member live
    exact ⟨entry,(live_of_closeSessions member live).1,rfl,live⟩

/-- A redemption that has missed no withdrawal opens a session of an approved site. -/
theorem commit_shut (valid : Shut world) (call : OpenSession) (hash : Digest) (request : SiteSessionRequest)
    (code : SignInCode) (sight : Sight) {withdrawals : Nat} (seen : SeenApproved world call.site withdrawals)
    (apart : world.withdrawals call.site = withdrawals) :
    Shut (call.commit number world hash (call.opened hash request code sight withdrawals (call.session code))) ∧
      SessionsStay world
        (call.commit number world hash (call.opened hash request code sight withdrawals (call.session code))) := by
  obtain ⟨row,stored,approved⟩ := seen.approved apart
  refine ⟨⟨?_,?_⟩,⟨fun site => Nat.le_refl _,fun site _ approved => approved,?_,?_⟩⟩
  · intro site found there withdrawn entry member
    rcases List.mem_append.mp member with earlier | own
    · exact valid.withdrawn site found there withdrawn entry earlier
    · obtain rfl := List.mem_singleton.mp own
      by_contra live
      obtain rfl := (isSiteSession_session call code site).mp (Bool.not_eq_false _ ▸ live)
      obtain rfl := Option.some.inj (stored.symm.trans there)
      rw [approved] at withdrawn
      cases withdrawn
  · intro site entry member live
    rcases List.mem_append.mp member with earlier | own
    · obtain ⟨opened,there,current⟩ := valid.current site entry earlier live
      exact ⟨opened,List.mem_append_left _ there,current⟩
    · obtain rfl := List.mem_singleton.mp own
      obtain rfl := (isSiteSession_session call code site).mp live
      exact ⟨_,List.mem_append_right _ (List.mem_singleton_self _),rfl,rfl,apart.symm⟩
  · intro site
    change _ ≤ (world.openings ++ [_]).countP _
    rw [List.countP_append]
    exact Nat.le_add_right _ _
  · intro site same entry member live
    rcases List.mem_append.mp member with earlier | own
    · exact ⟨entry,earlier,rfl,live⟩
    · obtain rfl := List.mem_singleton.mp own
      obtain rfl := (isSiteSession_session call code site).mp live
      change (world.openings ++ [_]).countP _ = world.openings.countP _ at same
      rw [List.countP_append,List.countP_singleton] at same
      simp [OpenSession.opened] at same

theorem turned_shut {task : Task} (turned : Turned contract number world task later) (apart : task.apart world)
    (valid : Shut world) (known : ShutLocal world task) : Shut later ∧ SessionsStay world later := by
  cases turned with
  | quiet _ _ still => exact still.shut valid
  | approved call row announcement => exact commitChange_shut valid call.toCaller announcement known
  | withdrawn call row announcement revoked opened => exact commitWithdrawal_shut valid call row announcement known apart
  | consumed call hash code =>
    refine shut_kept valid (fun _ _ stored _ => stored) (fun _ approved => approved) rfl rfl fun site entry member live => ?_
    exact ⟨entry,member,rfl,live⟩
  | opened call request code sight withdrawals session =>
    obtain ⟨seen,rfl⟩ := known
    exact commit_shut valid call _ request code sight seen apart

theorem approve_shut {call : Approve} {at_ next : Approving} {ending : Ending} (known : ApprovingShut at_)
    (stepped : approve contract call number world at_ ending = some (later,next)) : ApprovingShut next := by
  unfold approve at stepped
  split at stepped
  · split at stepped
    · cases stepped
      trivial
    · split at stepped <;> cases stepped
      trivial
  · split at stepped
    · cases stepped
      trivial
    · unfold Approve.upsert at stepped
      split at stepped
      · cases stepped
      · simp only at stepped
        split at stepped
        · cases stepped
          trivial
        · split at stepped
          · cases stepped
            trivial
          · split at stepped <;> cases stepped <;> exact rfl
  · split at stepped
    · cases stepped
      exact known
    · cases stepped
      trivial
  all_goals cases stepped
  all_goals trivial

theorem withdraw_shut {call : Withdraw} {at_ next : Withdrawing} {ending : Ending}
    (known : WithdrawingShut world call.site at_)
    (stepped : withdraw contract call number world at_ ending = some (later,next)) : WithdrawingShut later call.site next := by
  unfold withdraw at stepped
  split at stepped
  · split at stepped
    · cases stepped
      trivial
    · split at stepped
      · cases stepped
      · split at stepped
        · cases stepped
          trivial
        · split at stepped <;> cases stepped <;> trivial
  · cases stepped
    trivial
  · cases stepped
    refine ⟨Nat.le_refl _,fun _ entry member live => ?_⟩
    exact List.mem_map.mpr ⟨entry,List.mem_filter.mpr ⟨member,live⟩,rfl⟩
  · split at stepped
    · rename_i drawn
      cases stepped
      obtain ⟨rfl,-⟩ := Prod.mk.inj drawn
      exact ⟨known.bound,known.revoked⟩
    · cases stepped
      trivial
  all_goals cases stepped
  all_goals trivial

theorem openSession_shut {call : OpenSession} {at_ next : Opening} {ending : Ending} (known : OpeningShut world call at_)
    (stepped : openSession contract call number world at_ ending = some (later,next)) : OpeningShut later call next := by
  unfold openSession at stepped
  split at stepped
  · simp only at stepped
    split at stepped <;> cases stepped <;> trivial
  · simp only at stepped
    split at stepped
    · cases stepped
    · split at stepped
      · cases stepped
        trivial
      · split at stepped
        · cases stepped
          trivial
        · split at stepped <;> cases stepped <;> trivial
  · split at stepped
    · rename_i approved
      cases stepped
      refine ⟨Nat.le_refl _,fun _ => ?_⟩
      rw [approvedNow,Option.any_eq_true] at approved
      obtain ⟨row,stored,matches_⟩ := approved
      rw [Bool.and_eq_true,beq_iff_eq] at matches_
      exact ⟨row,stored,matches_.1⟩
    · cases stepped
      trivial
  · simp only at stepped
    split at stepped
    · cases stepped
      trivial
    · cases stepped
      exact ⟨known,rfl⟩
  all_goals cases stepped
  all_goals trivial

/-- A statement that fails leaves the rows as they are. -/
theorem failed_quiet {task after : Task} (stepped : task.resume contract number world .failed = some (later,after)) :
    Quiet number world later := by
  have released : Quiet number world (world.release number) := quiet_release number world
  cases task with
  | approving call at_ => cases at_ <;> simp only [Task.resume,approve,Option.map_some,Option.map_none] at stepped <;>
      cases stepped <;> exact released
  | withdrawing call at_ => cases at_ <;> simp only [Task.resume,withdraw,Option.map_some,Option.map_none] at stepped <;>
      cases stepped <;> exact released
  | opening call at_ => cases at_ <;> simp only [Task.resume,openSession,Option.map_some,Option.map_none] at stepped <;>
      cases stepped <;> exact released
  | dropped =>
    cases stepped
    exact released

end Turns

section Routes

variable {contract : SiteContract} {world later : World}

theorem outside_shut (valid : Shut world) (move : Outside) (moved : world.outside contract move = some later) :
    Shut later ∧ SessionsStay world later := by
  cases move with
  | issue call =>
    obtain rfl := Option.some.inj moved
    rcases issueCode_cases contract call world with same | ⟨row,_,_,same⟩ <;> rw [same] <;>
      exact shut_kept valid (fun _ _ stored _ => stored) (fun _ approved => approved) rfl rfl
        fun site entry member live => ⟨entry,member,rfl,live⟩
  | signIn sessionId session =>
    rw [World.outside] at moved
    split at moved
    · cases moved
    · rename_i foreign
      cases moved
      simp only [Bool.or_eq_true,decide_eq_true_eq,not_or] at foreign
      refine shut_kept valid (fun _ _ stored _ => stored) (fun _ approved => approved) rfl rfl fun site entry member live => ?_
      rcases List.mem_append.mp member with earlier | own
      · exact ⟨entry,earlier,rfl,live⟩
      · obtain rfl := List.mem_singleton.mp own
        simp only [isSiteSession,Bool.and_eq_true,beq_iff_eq] at live
        exact absurd live.1.1 foreign.1
  | revoke sessionId now =>
    cases moved
    refine shut_kept valid (fun _ _ stored _ => stored) (fun _ approved => approved) rfl rfl fun site entry member live => ?_
    obtain ⟨before,listed,rfl⟩ := List.mem_map.mp member
    split at live
    · simp [isSiteSession,Session.revoked] at live
    · rename_i kept
      rw [if_neg kept]
      exact ⟨before,listed,rfl,live⟩
  | grants rows =>
    cases moved
    exact shut_kept valid (fun _ _ stored _ => stored) (fun _ approved => approved) rfl rfl
      fun site entry member live => ⟨entry,member,rfl,live⟩

theorem shut_keep (contract : SiteContract) :
    (machine contract).Keeps Apart Shut (fun _ => SessionsStay) fun world _ => ShutLocal world where
  begins world number call _ := by
    cases call with
    | approve call =>
      change ApprovingShut (call.begin_ contract)
      unfold Approve.begin_
      split <;> trivial
    | withdraw => trivial
    | open_ call =>
      change OpeningShut world call call.begin_
      unfold OpenSession.begin_
      split
      · trivial
      · split <;> trivial
  drops _ _ _ := trivial
  stays world later number task _ stay known := known.stays stay
  resumes system number ending task later after apart stored holds stepped := by
    have known := holds.tasks number task stored
    have turned : Shut later ∧ SessionsStay system.world later := by
      by_cases failed : ending = .failed
      · subst failed
        exact (failed_quiet stepped).shut holds.world
      · exact turned_shut (resume_turned stepped) (apart failed task stored) holds.world known
    refine ⟨turned.1,?_,fun _ _ => turned.2⟩
    cases task with
    | approving call at_ =>
      obtain ⟨⟨_,_⟩,turn,same⟩ := Option.map_eq_some_iff.mp stepped
      cases same
      exact approve_shut known turn
    | withdrawing call at_ =>
      obtain ⟨⟨_,_⟩,turn,same⟩ := Option.map_eq_some_iff.mp stepped
      cases same
      exact withdraw_shut known turn
    | opening call at_ =>
      obtain ⟨⟨_,_⟩,turn,same⟩ := Option.map_eq_some_iff.mp stepped
      cases same
      exact openSession_shut known turn
    | dropped =>
      cases stepped
      trivial
  outside world move later valid moved :=
    ⟨(outside_shut valid move moved).1,fun _ => (outside_shut valid move moved).2⟩

theorem initial_shut : Tasks.Holds Shut (fun world _ => ShutLocal world) initial := by
  refine ⟨⟨?_,?_⟩,?_⟩
  · intro site row stored
    cases stored
  · intro site entry member
    cases member
  · intro number task there
    cases there

/-- While no redemption and no withdrawal of one site miss each other, a withdrawn site has no live session. -/
theorem sessions_shut (contract : SiteContract) (actions : List Action)
    (apart : StateMachine.Along (step contract) Apart initial actions) :
    StateMachine.Throughout (step contract) (fun s => Shut s.world) initial actions :=
  (shut_keep contract).throughout (fun _ holds => holds.world) actions apart initial_shut

/-- The site is approved, a session of its owner is opened, and the approval is withdrawn. -/
def withdrawnAfterwards : List Action :=
  sampleOwner ++ sampleTurns 0 (.approve (sampleApprove (hours 1) "notes" "notes.example")) 4 ++ [.outside (.issue sampleIssue)] ++
    sampleTurns 1 (.open_ sampleOpen) 5 ++ sampleTurns 2 (.withdraw (sampleCaller (hours 3) "notes")) 5

theorem sessions_shut_afterwards : StateMachine.Throughout (step sampleContract) (fun s => Shut s.world) initial withdrawnAfterwards ∧
    ((StateMachine.run (step sampleContract) initial withdrawnAfterwards).map fun s =>
      (s.world.sessions.filter fun entry => entry.2.kind = .siteOwner).map fun entry => entry.2.revokedAt) = some [some (toOffset (hours 3))] :=
  ⟨sessions_shut sampleContract withdrawnAfterwards (by decide +kernel),by decide +kernel⟩

/-- The withdrawal commits while the redemption is about to. -/
def withdrawnMeanwhile : List Action :=
  sampleOwner ++ sampleTurns 0 (.approve (sampleApprove (hours 1) "notes" "notes.example")) 4 ++ [.outside (.issue sampleIssue)] ++
    sampleTurns 1 (.open_ sampleOpen) 4 ++ sampleTurns 2 (.withdraw (sampleCaller (hours 3) "notes")) 5 ++ [.resume 1 .done]

theorem session_survives_withdrawal : ∃ s, StateMachine.run (step sampleContract) initial withdrawnMeanwhile = some s ∧
    Settled s ∧ (∃ row, s.world.approvals "notes" = some row ∧ row.state = .withdrawn) ∧
    ∃ entry ∈ s.world.sessions, isSiteSession "notes" entry.2 = true ∧ entry.2.isLiveAt (hours 4) = true := by
  have ran : ((StateMachine.run (step sampleContract) initial withdrawnMeanwhile).map fun s =>
      (([0,1,2].all fun number => (s.tasks number).all Task.settled),(s.world.approvals "notes").map (·.state),
        s.world.sessions.any fun entry => isSiteSession "notes" entry.2 && entry.2.isLiveAt (hours 4))) =
      some (true,some .withdrawn,true) := by
    decide +kernel
  obtain ⟨s,ran,same⟩ := Option.map_eq_some_iff.mp ran
  obtain ⟨settled,same⟩ := Prod.mk.inj same
  obtain ⟨state,live⟩ := Prod.mk.inj same
  obtain ⟨row,stored,withdrawn⟩ := Option.map_eq_some_iff.mp state
  obtain ⟨entry,member,live⟩ := List.any_eq_true.mp live
  refine ⟨s,ran,settled_of_run [0,1,2] (by decide) ran settled,⟨row,stored,withdrawn⟩,entry,member,?_⟩
  simpa only [Bool.and_eq_true] using live

end Routes

end Ratatoskr.Sites
