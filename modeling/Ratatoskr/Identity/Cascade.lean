import Ratatoskr.Identity.Chains

/-! A revoked device is out for good: its secret, the credentials of its sessions and their links are
refused in whatever order logins, refreshes and pairings are interleaved with the revocation. -/
set_option linter.unusedSectionVars false

namespace Ratatoskr.Identity

open Transaction

/-- The row of the device is revoked. -/
def Tables.Revoked (t : Tables) (deviceId : DeviceId) : Prop :=
  ∃ device, t.device deviceId = some device ∧ device.revokedAt.isSome

theorem Later.stays_revoked {before after : Tables} (later : Later before after) {deviceId : DeviceId}
    (revoked : before.Revoked deviceId) : after.Revoked deviceId := by
  obtain ⟨device,stored,ended⟩ := revoked
  obtain ⟨now,stored',moves⟩ := later.device deviceId device stored
  exact ⟨now,stored',moves.revoked ended ▸ ended⟩

theorem Consistent.bound_revoked {t : Tables} (valid : Consistent t) {deviceId : DeviceId} (revoked : t.Revoked deviceId)
    (sessionId : SessionId) (session : Session) (stored : t.session sessionId = some session)
    (bound : session.deviceId = some deviceId) : session.revokedAt.isSome := by
  obtain ⟨device,found,ended⟩ := revoked
  obtain ⟨owner,there,_,cascaded⟩ := valid.bound sessionId session deviceId stored bound
  obtain rfl := Option.some.inj (found.symm.trans there)
  exact cascaded ended

/-- What the committed rows say of a device that is out: neither its secret nor any credential of its
sessions is believed. -/
structure Out (deviceId : DeviceId) (rows : Rows) : Prop where
  secret : ∀ presented, exec constraints (authenticateDevice deviceId presented) rows = .done none rows
  sessions : ∀ sessionId session, rows (.session sessionId) = some session → session.deviceId = some deviceId →
    session.revokedAt.isSome ∧ ∀ presented audience now, session.authenticates presented audience now = false

theorem out_of_revoked {rows : Rows} (valid : Consistent (tables rows)) {deviceId : DeviceId}
    (revoked : (tables rows).Revoked deviceId) : Out deviceId rows := by
  refine ⟨fun presented => ?_,fun sessionId session stored bound => ?_⟩
  · obtain ⟨device,stored,ended⟩ := revoked
    obtain ⟨instant,ended⟩ := Option.isSome_iff_exists.mp ended
    have stored : rows (.device deviceId) = some device := stored
    simp [authenticateDevice,exec_bind,stored,ended]
  · have ended := valid.bound_revoked revoked sessionId session stored bound
    exact ⟨ended,session.revoked_authenticates_nothing ended⟩

/-- Whether a commit gives out credentials of the device, to which its sessions are bound in `rows`. -/
def Granted.serves (deviceId : DeviceId) (rows : Rows) : Granted → Prop
  | .opened other _ => other = deviceId
  | .paired _ other _ => other = deviceId
  | .rotated _ sessionId => ∃ session, rows (.session sessionId) = some session ∧ session.deviceId = some deviceId
  | _ => False

section Runs

variable {τ : Type} [DecidableEq τ] (settings : Settings)

theorem serves_no_revoked {value : Granted} {s later : Rows} {after : Tables} (valid : Consistent (tables s))
    (committed : Committed value (tables s) after) (moved : Later after (tables later)) {deviceId : DeviceId}
    (revoked : (tables s).Revoked deviceId) : ¬value.serves deviceId later := by
  obtain ⟨device,stored,ended⟩ := revoked
  have told := committed.told
  cases value with
  | opened other sessionId =>
    rintro rfl
    obtain ⟨_,⟨row,there,unrevoked⟩,_⟩ := told
    obtain rfl := Option.some.inj (stored.symm.trans there)
    simp [unrevoked] at ended
  | paired code other sessionId =>
    rintro rfl
    obtain ⟨absent,_⟩ := told
    rw [stored] at absent
    cases absent
  | rotated spent sessionId =>
    rintro ⟨session,found,bound⟩
    obtain ⟨_,_,row,there,unrevoked⟩ := told
    -- the session was bound to the device when it was rotated as well
    obtain ⟨now,found',moves⟩ := (committed.advance.later.trans moved).session sessionId row there
    obtain rfl : session = now := Option.some.inj (found.symm.trans found')
    have closed := valid.bound_revoked ⟨device,stored,ended⟩ sessionId row there (moves.deviceId ▸ bound)
    simp [unrevoked] at closed
  | replayed | codeCreated | deviceRevoked | sessionsRevoked | denied | touched => exact fun served => served

/-- A login at a device that is out is answered with one refusal. -/
def shutPromise (deviceId : DeviceId) (t : τ) : Protocol.Promise (credentialProtocol (τ := τ)) t where
  Fact s := (tables s).Revoked deviceId
  Commits _ _ _ := False
  Abandons answer _ := answer = .unauthenticated
  Refuses _ := False
  stable _ _ rely revoked := rely.stays_revoked revoked
  abandon_stable _ _ _ _ abandoned := abandoned

theorem login_shut (login : Login) (body : OpenDeviceSession) (readable : login.parse = .ok body) (t : τ) (s : Rows) :
    (shutPromise body.deviceId t).protocol.Safe constraints t (shutPromise body.deviceId t).Commits
      (login.openDeviceSession settings) Drafts.none s := by
  rw [Login.openDeviceSession,readable]
  simp only [authenticateDevice,Tx.bind_eq,Tx.bind_assoc]
  refine Protocol.Safe.lockKnown (Protocol.knows_nothing _ _) (by simp) (fun s₁ _ _ => ?_) fun s₁ row env matched knows => ?_
  · exact fun _ _ => ⟨trivial,fun _ => rfl⟩
  · obtain ⟨device,stored,ended⟩ := env.1.2
    obtain rfl : row = device :=
      Option.some.inj ((knows.of_mem (.device body.deviceId) (some row) (by simp)).symm.trans stored)
    simp only [Bool.and_eq_true,Option.isNone_iff_eq_none] at matched
    simp [matched.1] at ended

/-- Nor does a link of a revoked session rotate, whether it was spent or not. -/
def barrenPromise (presented : Digest) (sessionId : SessionId) (t : τ) :
    Protocol.Promise (credentialProtocol (τ := τ)) t where
  Fact s := (∃ link, (tables s).link presented = some link ∧ link.sessionId = sessionId) ∧
    ∃ session, (tables s).session sessionId = some session ∧ session.revokedAt.isSome
  Commits value _ _ := value = .replayed sessionId
  Abandons answer _ := answer = .unauthenticated
  Refuses _ := True
  stable := by
    rintro s s' rely ⟨⟨link,linked,same⟩,session,stored,ended⟩
    obtain ⟨link',linked',moved⟩ := Later.link rely presented link linked
    obtain ⟨session',stored',moves⟩ := Later.session rely sessionId session stored
    exact ⟨⟨link',linked',moved.sessionId.trans same⟩,session',stored',moves.stays_revoked ended⟩
  abandon_stable _ _ _ _ abandoned := abandoned

theorem refresh_barren (request : Refresh) (presented : Digest) (sessionId : SessionId)
    (readable : request.presented settings = .ok presented) (t : τ) (s : Rows) :
    (barrenPromise presented sessionId t).protocol.Safe constraints t (barrenPromise presented sessionId t).Commits
      (request.refresh settings) Drafts.none s := by
  have shut {drafts : Drafts IdentityRow} {s : Rows} : (barrenPromise presented sessionId t).protocol.Safe constraints t
      (barrenPromise presented sessionId t).Commits (.abandon .unauthenticated) drafts s := fun _ _ => ⟨trivial,fun _ => rfl⟩
  rw [Refresh.refresh,readable]
  simp only [rotateSession,selectLink,burnFamily,closeSession,Tx.bind_eq,Tx.bind_assoc]
  refine Protocol.Safe.select fun s₁ env₁ => ?_
  obtain ⟨⟨seen,linked,same⟩,_⟩ := env₁.1.2
  have linked : s₁ (.refreshToken presented) = some seen := linked
  simp only [overlay_none,Refresh.rotation,linked,Tx.bind_assoc]
  refine Protocol.Safe.select fun s₂ env₂ => ?_
  obtain ⟨_,session,stored,ended⟩ := env₂.1.2
  have stored : s₂ (.session seen.sessionId) = some session := by
    rw [same]
    exact stored
  simp only [overlay_none,stored,Tx.bind_assoc]
  refine Protocol.Safe.lockKnown (Protocol.knows_nothing _ _) (by simp) (fun s₃ _ _ => shut) fun s₃ link env₃ _ knows => ?_
  obtain ⟨⟨found,there,own⟩,_⟩ := env₃.1.2
  obtain rfl : link = found :=
    Option.some.inj ((knows.of_mem (.refreshToken presented) (some link) (by simp)).symm.trans there)
  subst own
  simp only [Tx.pure_eq,Tx.bind,Option.map_some,ended,Bool.true_or,if_true]
  split
  · have tail := burned_tail (Q := (barrenPromise presented link.sessionId t).protocol) (t := t)
      (barrenPromise presented link.sessionId t).Commits request presented link.sessionId
      (fun _ _ => ⟨trivial,fun _ => trivial⟩) fun _ _ => rfl
    simp only [Tx.bind_assoc]
    exact Protocol.Safe.updateWhere (fun _ => ⟨trivial,fun _ => trivial⟩) (fun s₄ _ _ => tail _ s₄ session.userId)
      fun s₄ _ _ _ _ => tail _ s₄ session.userId
  · split
    · exact shut
    · exact shut

variable (job : τ → Job) {store : Rows} {pool later : Pool IdentityRow Denial Granted τ}

/-- The commit of a revocation leaves the device revoked, and nothing takes that back. -/
theorem revoked_of_journal (valid : Consistent (tables store))
    (reached : Pool.Reachable constraints (fun t => (job t).program settings) store pool)
    (entry : Commit IdentityRow Granted τ) (member : entry ∈ pool.journal) (deviceId : DeviceId)
    (revoked : entry.value = .deviceRevoked deviceId) : (tables pool.committed).Revoked deviceId := by
  refine (jobs_keep settings job).journal store valid (fun rows journal => ∀ entry ∈ journal,
    entry.value = .deviceRevoked deviceId → (tables rows).Revoked deviceId) (by simp)
    (fun s journal t value drafts _ kept committed entry member revoked => ?_) pool reached entry member revoked
  rcases List.mem_append.mp member with old | new
  · exact (Committed.advance committed).later.stays_revoked (kept entry old revoked)
  · obtain rfl := List.mem_singleton.mp new
    have told := Committed.told committed
    rw [show value = .deviceRevoked deviceId from revoked] at told
    exact told

/-- How the requests that use the credentials of a device can end once it is revoked. -/
structure Shut (deviceId : DeviceId) (pool later : Pool IdentityRow Denial Granted τ) : Prop where
  login : ∀ t login body, job t = .login login → login.parse = .ok body → body.deviceId = deviceId →
    pool.phase t = .idle → (∀ value, later.phase t ≠ .committed value) ∧ (∀ refusal, later.phase t ≠ .refused refusal) ∧
      ∀ answer, later.phase t = .abandoned answer → answer = .unauthenticated
  refresh : ∀ t request presented link session, job t = .refresh request → request.presented settings = .ok presented →
    pool.committed (.refreshToken presented) = some link → pool.committed (.session link.sessionId) = some session →
    session.deviceId = some deviceId → pool.phase t = .idle →
    (∀ value, later.phase t = .committed value → value = .replayed link.sessionId) ∧
      ∀ answer, later.phase t = .abandoned answer → answer = .unauthenticated

theorem shut_of_revoked (valid : Consistent (tables store))
    (reached : Pool.Reachable constraints (fun t => (job t).program settings) store pool) {deviceId : DeviceId}
    (revoked : (tables pool.committed).Revoked deviceId) (actions : List (Action τ))
    (ran : StateMachine.run (Pool.step constraints fun t => (job t).program settings) pool actions = some later) :
    Shut settings job deviceId pool later := by
  have sound := (jobs_keep settings job).sound store valid pool reached
  refine ⟨?_,?_⟩
  · rintro t login body own readable rfl idle
    obtain ⟨committed,abandoned,refused⟩ := Protocol.Keeps.promised (shutPromise body.deviceId t) (jobs_keep settings job)
      (fun s _ => by
        rw [own]
        exact login_shut settings login body readable t s)
      reached sound revoked idle actions ran
    refine ⟨fun value ended => ?_,fun refusal ended => refused refusal ended,abandoned⟩
    obtain ⟨_,_,impossible⟩ := committed value ended
    exact impossible
  · intro t request presented link session own readable linked stored bound idle
    have closed := Consistent.bound_revoked sound.invariant revoked link.sessionId session stored bound
    obtain ⟨committed,abandoned,_⟩ := Protocol.Keeps.promised (barrenPromise presented link.sessionId t)
      (jobs_keep settings job) (fun s _ => by
        rw [own]
        exact refresh_barren settings request presented link.sessionId readable t s)
      reached sound ⟨⟨link,linked,rfl⟩,session,stored,closed⟩ idle actions ran
    refine ⟨fun value ended => ?_,abandoned⟩
    obtain ⟨_,_,replayed⟩ := committed value ended
    exact replayed

/-- Once the revocation of a device has committed, in every later pool no credential of the device is
believed, no commit gives one out, and the requests that present one are refused. -/
theorem revoked_device_stays_out (store : Rows) (valid : Consistent (tables store))
    (pool : Pool IdentityRow Denial Granted τ)
    (reached : Pool.Reachable constraints (fun t => (job t).program settings) store pool)
    (entry : Commit IdentityRow Granted τ) (member : entry ∈ pool.journal) (deviceId : DeviceId)
    (revoked : entry.value = .deviceRevoked deviceId) (actions : List (Action τ))
    (later : Pool IdentityRow Denial Granted τ)
    (ran : StateMachine.run (Pool.step constraints fun t => (job t).program settings) pool actions = some later) :
    Out deviceId later.committed ∧ Shut settings job deviceId pool later ∧
    ∃ more, later.journal = pool.journal ++ more ∧ ∀ entry ∈ more, ¬entry.value.serves deviceId later.committed := by
  have keeps := jobs_keep settings job
  have sound := keeps.sound store valid pool reached
  have ended := revoked_of_journal settings job valid reached entry member deviceId revoked
  have there := (keeps.sound store valid later (reached.run actions ran)).invariant
  have rely := keeps.rely pool later sound actions ran
  refine ⟨out_of_revoked there (rely.stays_revoked ended),shut_of_revoked settings job valid reached ended actions ran,?_⟩
  obtain ⟨more,journal,allowed⟩ := keeps.commits_between pool later sound actions ran
  refine ⟨more,journal,fun entry member => ?_⟩
  obtain ⟨found,consistent,before,committed,after⟩ := allowed entry member
  exact serves_no_revoked consistent committed after (Later.stays_revoked before ended)

end Runs

section Revoked

/-- A device logs in, and then its owner revokes it. -/
def revokedJob : Nat → Job
  | 0 => .login (loginAt (hours 2))
  | _ => .deleteDevice ⟨sampleContext (hours 3) 2,⟨1,9,.browser⟩,1,1,fun drawn => drawn + 2⟩

def revokingRun : List (Action Nat) :=
  .start 0 :: List.replicate 7 (.advance 0) ++ .start 1 :: List.replicate 10 (.advance 1)

def revokesDevice : Bool :=
  (StateMachine.run (Pool.step constraints fun t => (revokedJob t).program sampleSettings) (Pool.initial deviceRows)
    revokingRun).any fun pool =>
      pool.journal.any (·.value == .deviceRevoked 1) && (pool.committed (.session 1)).any (·.deviceId == some 1)

/-- The session that was open when the device was revoked is out with it. -/
theorem revoked_device_stays_out_of_login : ∃ (pool : Pool IdentityRow Denial Granted Nat) (session : Session),
    Pool.Reachable constraints (fun t => (revokedJob t).program sampleSettings) deviceRows pool ∧
    pool.committed (.session 1) = some session ∧ session.deviceId = some 1 ∧ Out 1 pool.committed := by
  have revokes : revokesDevice = true := by decide +kernel
  simp only [revokesDevice,Option.any_eq_true,Bool.and_eq_true,List.any_eq_true,beq_iff_eq] at revokes
  obtain ⟨pool,ran,⟨entry,member,revoked⟩,session,stored,bound⟩ := revokes
  exact ⟨pool,session,⟨revokingRun,ran⟩,stored,bound,(revoked_device_stays_out sampleSettings revokedJob deviceRows
    device_rows_consistent pool ⟨revokingRun,ran⟩ entry member 1 revoked [] pool rfl).1⟩

end Revoked

end Ratatoskr.Identity
