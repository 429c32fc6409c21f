import Ratatoskr.Identity.Interleaving
import Ratatoskr.Identity.Rotation

/-! Refresh chains under any interleaving: a link is spent once, a session has one usable link and one
usable credential, and a spent link that is presented again ends the whole session. -/
set_option linter.unusedSectionVars false

namespace Ratatoskr.Identity

open Transaction

def Granted.spends (hash : Digest) : Granted → Bool
  | .rotated spent _ => spent == hash
  | _ => false

section Chains

variable {τ : Type} [DecidableEq τ]

/-- The commits that spent the link under a digest -/
def rotationsOf (journal : List (Commit IdentityRow Granted τ)) (hash : Digest) : List (Commit IdentityRow Granted τ) :=
  journal.filter fun entry => entry.value.spends hash

/-- What holds of the chains of every pool. -/
structure ChainsHold (store : Rows) (pool : Pool IdentityRow Denial Granted τ) : Prop where
  once : ∀ hash, (rotationsOf pool.journal hash).length ≤ 1
  spent : ∀ hash, (tables pool.committed).Spent hash ↔ (tables store).Spent hash ∨ rotationsOf pool.journal hash ≠ []
  link : ∀ hash other link otherLink, pool.committed (.refreshToken hash) = some link →
    pool.committed (.refreshToken other) = some otherLink → link.consumedAt = none → otherLink.consumedAt = none →
    link.sessionId = otherLink.sessionId → hash = other
  credential : ∀ sessionId row presented other audience otherAudience now later,
    pool.committed (.session sessionId) = some row → row.authenticates presented audience now = true →
    row.authenticates other otherAudience later = true → presented = other

/-- A session that is revoked in one pool authenticates nothing in a later one, and no commit between
the two rotated it. -/
def StaysRevoked (pool later : Pool IdentityRow Denial Granted τ) : Prop :=
  ∀ sessionId row, pool.committed (.session sessionId) = some row → row.revokedAt.isSome →
    (∃ row', later.committed (.session sessionId) = some row' ∧ row'.revokedAt = row.revokedAt ∧
      ∀ presented audience now, row'.authenticates presented audience now = false) ∧
    ∃ more, later.journal = pool.journal ++ more ∧ ∀ entry ∈ more, ∀ spent, entry.value ≠ .rotated spent sessionId

/-- The database refuses the burn: its clock reads before the session began, or an id it drew is taken. -/
inductive Refresh.Unburned (request : Refresh) (sessionId : SessionId) : Refusal IdentityRow → Prop where
  | clock (row : Session) (early : toOffset request.now < row.issuedAt) :
      Refresh.Unburned request sessionId ⟨.session sessionId,some row,row.revoked request.now⟩
  | revocationTaken (refusal : Refusal IdentityRow) (key : refusal.key = .revocation request.revocationId) :
      Refresh.Unburned request sessionId refusal
  | auditTaken (refusal : Refusal IdentityRow) (key : refusal.key = .audit request.auditEventId) :
      Refresh.Unburned request sessionId refusal

/-- How a request that presents a link of the session, spent before it began, can end. -/
structure Burns (request : Refresh) (sessionId : SessionId) (t : τ) (later : Pool IdentityRow Denial Granted τ) : Prop where
  committed : ∀ value, later.phase t = .committed value → value = .replayed sessionId ∧
    ∃ row, later.committed (.session sessionId) = some row ∧ row.revokedAt.isSome
  abandoned : ∀ answer, later.phase t ≠ .abandoned answer
  refused : ∀ refusal, later.phase t = .refused refusal → request.Unburned sessionId refusal

theorem revoked_checks (row : Session) (revokedAt : Timestamp) (valid : row.checks = true) :
    (row.revoked revokedAt).checks = true ↔ row.issuedAt ≤ toOffset revokedAt := by
  simp only [Session.checks,Bool.and_eq_true,decide_eq_true_eq] at valid ⊢
  obtain ⟨⟨⟨⟨kind,audience⟩,lives⟩,_⟩,bound⟩ := valid
  simp only [Session.revoked,Option.all_some]
  exact ⟨fun all => of_decide_eq_true all.1.2,fun after => ⟨⟨⟨⟨kind,audience⟩,lives⟩,decide_eq_true after⟩,bound⟩⟩

theorem Session.revoked_authenticates_nothing (row : Session) (revoked : row.revokedAt.isSome) (presented : Digest)
    (audience : String) (now : Timestamp) : row.authenticates presented audience now = false := by
  obtain ⟨instant,ended⟩ := Option.isSome_iff_exists.mp revoked
  simp [Session.authenticates,ended]

/-- The two inserts that end a burn, under any protocol that lets the database refuse them. -/
theorem burned_tail {Q : Protocol IdentityRow Denial Granted τ} {t : τ} (post : Granted → Drafts IdentityRow → Rows → Prop)
    (request : Refresh) (presented : Digest) (sessionId : SessionId)
    (refuses : ∀ refusal : Refusal IdentityRow,
      refusal.key = .revocation request.revocationId ∨ refusal.key = .audit request.auditEventId → Q.Refuses t refusal)
    (ends : ∀ drafts s, post (.replayed sessionId) drafts s) (drafts : Drafts IdentityRow) (s : Rows) (userId : UserId) :
    Q.Safe constraints t post
      ((recordRevocation request.revocationId .session sessionId .suspectedCompromise none request.now).bind fun _ =>
        request.conclude presented (.error (.replayed sessionId userId))) drafts s := by
  simp only [recordRevocation,Refresh.conclude,Refresh.audited,recordAudit,Tx.bind_eq]
  refine Protocol.Safe.insertNew (fun _ => refuses _ (Or.inl rfl)) fun _ _ _ => ?_
  exact Protocol.Safe.insertNew (fun _ => refuses _ (Or.inr rfl)) fun _ _ _ _ _ => ends _ _

section Replay

variable (settings : Settings) (request : Refresh) (sessionId : SessionId) (presented : Digest)

/-- From a moment on at which the link is spent, whoever presents it burns the session. -/
def replayPromise (t : τ) : Protocol.Promise (credentialProtocol (τ := τ)) t where
  Fact s := ∃ link, (tables s).link presented = some link ∧ link.consumedAt.isSome ∧ link.sessionId = sessionId
  Commits value _ _ := value = .replayed sessionId
  Abandons _ _ := False
  Refuses refusal := request.Unburned sessionId refusal
  stable := by
    rintro s s' rely ⟨link,stored,spent,rfl⟩
    obtain ⟨link',stored',moves⟩ := Later.link rely presented link stored
    exact ⟨link',stored',moves.spent spent ▸ spent,moves.sessionId⟩
  abandon_stable _ _ _ _ abandoned := abandoned

theorem replay_burns (readable : request.presented settings = .ok presented) (t : τ) (s : Rows) :
    (replayPromise request sessionId presented t).protocol.Safe constraints t
      (replayPromise request sessionId presented t).Commits (request.refresh settings) Drafts.none s := by
  have refuses (refusal : Refusal IdentityRow) (unburned : request.Unburned sessionId refusal) :
      (replayPromise request sessionId presented t).protocol.Refuses t refusal := ⟨trivial,fun _ => unburned⟩
  rw [Refresh.refresh,readable]
  simp only [rotateSession,selectLink,burnFamily,closeSession,Tx.bind_eq,Tx.bind_assoc]
  refine Protocol.Safe.select fun s₁ env₁ => ?_
  obtain ⟨seen,linked,_,_⟩ := env₁.1.2
  have linked : s₁ (.refreshToken presented) = some seen := linked
  obtain ⟨session,stored⟩ := Consistent.linked env₁.1.1 presented seen linked
  simp only [overlay_none,Refresh.rotation,linked,Tx.bind_assoc]
  refine Protocol.Safe.select fun s₂ env₂ => ?_
  obtain ⟨session,stored,_⟩ := Later.session env₂.2.1 seen.sessionId session stored
  have stored : s₂ (.session seen.sessionId) = some session := stored
  simp only [overlay_none,stored,Tx.bind_assoc]
  refine Protocol.Safe.lockKnown (Protocol.knows_nothing _ _) (by simp) (fun s₃ env₃ missed => ?_)
    fun s₃ link env₃ _ knows => ?_
  · obtain ⟨link,found,_⟩ := env₃.1.2
    have found : s₃ (.refreshToken presented) = some link := found
    simp [found] at missed
  -- the link that is now held is spent like the one that was seen, and of the same session
  obtain ⟨found,there,spent,same⟩ := env₃.1.2
  obtain rfl : link = found :=
    Option.some.inj ((knows.of_mem (.refreshToken presented) (some link) (by simp)).symm.trans there)
  subst same
  simp only [Tx.pure_eq,Tx.bind,Option.map_some,if_pos spent,Tx.bind_assoc]
  have tail := burned_tail (Q := (replayPromise request link.sessionId presented t).protocol) (t := t)
    (replayPromise request link.sessionId presented t).Commits request presented link.sessionId
    (fun refusal key => refuses refusal (key.elim (.revocationTaken refusal) (.auditTaken refusal))) fun _ _ => rfl
  refine Protocol.Safe.updateKnown knows (by simp) (fun s₄ row env found matched refused => ?_)
    (fun s₄ _ _ => tail _ s₄ _) fun s₄ _ _ _ _ _ => tail _ s₄ _
  have checks := Consistent.checked env.1.1 link.sessionId row found
  have early : ¬row.issuedAt ≤ toOffset request.now := fun after =>
    Bool.eq_false_iff.mp refused ((revoked_checks row request.now checks).mpr after)
  exact refuses _ (.clock row (not_le.mp early))

/-- A replay run alone is burned whenever the clock and the drawn ids let the database accept it. -/
theorem exec_replay (rows : Rows) (link : RefreshToken) (session : Session)
    (readable : request.presented settings = .ok presented) (linked : rows (.refreshToken presented) = some link)
    (spent : link.consumedAt.isSome) (stored : rows (.session link.sessionId) = some session)
    (valid : session.checks = true) (clock : session.issuedAt ≤ toOffset request.now)
    (revocation : rows (.revocation request.revocationId) = none) (audit : rows (.audit request.auditEventId) = none) :
    ∃ later row, exec constraints (request.refresh settings) rows = .done (.replayed link.sessionId) later ∧
      later (.session link.sessionId) = some row ∧ row.revokedAt.isSome := by
  have audited := audited_checks request link.sessionId .denied
  have tail (s : Rows) (row : Session) (there : s (.session link.sessionId) = some row) (revoked : row.revokedAt.isSome)
      (revocation : s (.revocation request.revocationId) = none) (audit : s (.audit request.auditEventId) = none) :
      ∃ later row, (exec constraints ((recordRevocation request.revocationId .session link.sessionId .suspectedCompromise
        none request.now).bind fun _ => .done (.error (.replayed link.sessionId session.userId))) s).bind
          (fun outcome rows => exec constraints (request.conclude presented outcome) rows) =
          .done (.replayed link.sessionId) later ∧ later (.session link.sessionId) = some row ∧ row.revokedAt.isSome := by
    refine ⟨Function.update (Function.update s (.revocation request.revocationId)
      (some ⟨.session,link.sessionId,.suspectedCompromise,toOffset request.now,none⟩)) (.audit request.auditEventId)
      (some (request.event none (some link.sessionId) "session.refresh" "session" (some link.sessionId) .denied)),row,?_,
      by simp [there],revoked⟩
    simp [recordRevocation,Refresh.conclude,Refresh.audited,recordAudit,exec_bind,exec_insertNew,revocation,audit,
      constraints,audited]
  rw [Refresh.refresh,readable]
  simp only [rotateSession,Tx.bind_eq,exec_bind,exec_selectLink rows presented link session linked stored,Refresh.rotation,
    Outcome.done_bind,if_pos spent,burnFamily,closeSession]
  cases revokedAt : session.revokedAt with
  | none =>
    rw [exec_updateWhere_match (ν := IdentityRow) _ _ _ _ _ session stored (by simp [revokedAt])]
    have accepted : constraints (.session link.sessionId) (some session) (session.revoked request.now) = true :=
      (revoked_checks session request.now valid).mpr clock
    have ended := tail (Function.update rows (.session link.sessionId) (some (session.revoked request.now))) _
      (Function.update_self _ _ _) rfl (by simp [revocation]) (by simp [audit])
    simpa [accepted,exec_bind] using ended
  | some instant =>
    rw [exec_updateWhere_none (ν := IdentityRow) _ _ _ _ _ (by simp [stored,revokedAt])]
    have ended := tail rows session stored (by simp [revokedAt]) revocation audit
    simpa [exec_bind] using ended

end Replay

section Runs

variable (settings : Settings) (job : τ → Job) {store : Rows} {pool later : Pool IdentityRow Denial Granted τ}

/-- A rotation spends a link that was not, and spent links stay so. -/
theorem spent_once (valid : Consistent (tables store))
    (reached : Pool.Reachable constraints (fun t => (job t).program settings) store pool) (hash : Digest) :
    (rotationsOf pool.journal hash).length ≤ 1 ∧ ((tables pool.committed).Spent hash ↔
      (tables store).Spent hash ∨ rotationsOf pool.journal hash ≠ []) := by
  refine (jobs_keep settings job).journal store valid (fun rows journal => (rotationsOf journal hash).length ≤ 1 ∧
    ((tables rows).Spent hash ↔ (tables store).Spent hash ∨ rotationsOf journal hash ≠ [])) (by simp [rotationsOf])
    (fun s journal t value drafts _ kept committed => ?_) pool reached
  obtain ⟨once,spent⟩ := kept
  have committed : Committed value (tables s) (tables (overlay drafts s)) := committed
  have stays (before : (tables s).Spent hash) : (tables (overlay drafts s)).Spent hash := by
    obtain ⟨link,stored,consumed⟩ := before
    obtain ⟨link',stored',moves⟩ := committed.advance.later.link hash link stored
    exact ⟨link',stored',moves.spent consumed ▸ consumed⟩
  by_cases spends : value.spends hash = true
  · obtain ⟨sessionId,rfl⟩ : ∃ sessionId, value = .rotated hash sessionId := by
      cases value <;> simp_all [Granted.spends]
    obtain ⟨⟨link,stored,unspent,_⟩,after,_⟩ := committed.told
    -- the link was not spent before, so no earlier commit spent it
    have unspent : ¬(tables s).Spent hash := by
      rintro ⟨other,there,consumed⟩
      obtain rfl := Option.some.inj (stored.symm.trans there)
      simp [unspent] at consumed
    have none_ : rotationsOf journal hash = [] := by
      by_contra some_
      exact unspent (spent.mpr (Or.inr some_))
    have appended : rotationsOf (journal ++ [⟨t,.rotated hash sessionId,drafts⟩]) hash = [⟨t,.rotated hash sessionId,drafts⟩] := by
      rw [rotationsOf,List.filter_append,show journal.filter (fun entry => entry.value.spends hash) = [] from none_]
      simp [Granted.spends]
    rw [appended]
    exact ⟨Nat.le_refl 1,iff_of_true after (Or.inr (List.cons_ne_nil _ _))⟩
  · have same : rotationsOf (journal ++ [⟨t,value,drafts⟩]) hash = rotationsOf journal hash := by
      simp [rotationsOf,List.filter_append,spends]
    rw [same,← spent]
    refine ⟨once,fun after => ?_,stays⟩
    rcases committed.spends hash after with before | ⟨sessionId,rfl⟩
    · exact before
    · simp [Granted.spends] at spends

theorem chains_hold (valid : Consistent (tables store))
    (reached : Pool.Reachable constraints (fun t => (job t).program settings) store pool) : ChainsHold store pool := by
  have consistent : Consistent (tables pool.committed) := ((jobs_keep settings job).sound store valid pool reached).invariant
  refine ⟨fun hash => (spent_once settings job valid reached hash).1,
    fun hash => (spent_once settings job valid reached hash).2,
    fun hash other link otherLink found found' => consistent.single hash other link otherLink found found',
    fun sessionId row presented other audience otherAudience now later stored first second => ?_⟩
  simp only [Session.authenticates,Bool.and_eq_true,beq_iff_eq] at first second
  exact Option.some.inj (first.1.1.1.1.symm.trans second.1.1.1.1)

theorem stays_revoked (sound : (credentialProtocol (τ := τ)).Sound constraints pool) (actions : List (Action τ))
    (ran : StateMachine.run (Pool.step constraints fun t => (job t).program settings) pool actions = some later) :
    StaysRevoked pool later := by
  intro sessionId row stored revoked
  have rely := (jobs_keep settings job).rely pool later sound actions ran
  obtain ⟨row',stored',moves⟩ := Later.session rely sessionId row stored
  refine ⟨⟨row',stored',moves.revoked revoked,row'.revoked_authenticates_nothing (moves.stays_revoked revoked)⟩,?_⟩
  obtain ⟨more,journal,allowed⟩ := (jobs_keep settings job).commits_between pool later sound actions ran
  refine ⟨more,journal,fun entry member spent rotated => ?_⟩
  obtain ⟨s,_,rely,committed,_⟩ := allowed entry member
  have told := Committed.told committed
  rw [rotated] at told
  obtain ⟨_,_,session,found,unrevoked⟩ := told
  obtain ⟨now,there,moves⟩ := Later.session rely sessionId row stored
  obtain rfl := Option.some.inj (found.symm.trans there)
  have ended := moves.stays_revoked revoked
  simp [unrevoked] at ended

/-- A burn that was committed is never undone. -/
theorem burned_stays (valid : Consistent (tables store))
    (reached : Pool.Reachable constraints (fun t => (job t).program settings) store pool)
    (entry : Commit IdentityRow Granted τ) (member : entry ∈ pool.journal) (sessionId : SessionId)
    (burned : entry.value = .replayed sessionId) :
    ∃ row, pool.committed (.session sessionId) = some row ∧ row.revokedAt.isSome := by
  refine (jobs_keep settings job).journal store valid (fun rows journal => ∀ entry ∈ journal,
    entry.value = .replayed sessionId → ∃ row, rows (.session sessionId) = some row ∧ row.revokedAt.isSome) (by simp)
    (fun s journal t value drafts _ kept committed entry member burned => ?_) pool reached entry member burned
  rcases List.mem_append.mp member with old | new
  · obtain ⟨row,stored,revoked⟩ := kept entry old burned
    obtain ⟨row',stored',moves⟩ := (Committed.advance committed).later.session sessionId row stored
    exact ⟨row',stored',moves.stays_revoked revoked⟩
  · obtain rfl := List.mem_singleton.mp new
    have told := Committed.told committed
    rw [show value = .replayed sessionId from burned] at told
    exact told

theorem burns (valid : Consistent (tables store))
    (reached : Pool.Reachable constraints (fun t => (job t).program settings) store pool) (actions : List (Action τ))
    (ran : StateMachine.run (Pool.step constraints fun t => (job t).program settings) pool actions = some later)
    (t : τ) (request : Refresh) (presented : Digest) (link : RefreshToken) (own : job t = .refresh request)
    (readable : request.presented settings = .ok presented) (stored : pool.committed (.refreshToken presented) = some link)
    (spent : link.consumedAt.isSome) (idle : pool.phase t = .idle) : Burns request link.sessionId t later := by
  have sound := (jobs_keep settings job).sound store valid pool reached
  obtain ⟨committed,abandoned,refused⟩ := Protocol.Keeps.promised (replayPromise request link.sessionId presented t)
    (jobs_keep settings job) (fun s _ => by
      rw [own]
      exact replay_burns settings request link.sessionId presented readable t s)
    reached sound ⟨link,stored,spent,rfl⟩ idle actions ran
  refine ⟨fun value ended => ?_,abandoned,refused⟩
  obtain ⟨_,_,burned⟩ := committed value ended
  have burned : value = .replayed link.sessionId := burned
  obtain ⟨entry,member,_,same⟩ := Pool.journal_of_committed (reached.run actions ran) t value ended
  exact ⟨burned,burned_stays settings job valid (reached.run actions ran) entry member link.sessionId (same.trans burned)⟩

end Runs

end Chains

section SetBack

/-- A device that logs in, refreshes, and presents the spent link again. -/
def deviceRows : Rows := Function.update (fun _ => none) (.device 1)
  (some (NewDevice.row ⟨1,.mobile,none,none⟩ (sampleSettings.digestOf "secret") 0))

def sampleContext (now : Timestamp) (auditEventId : Nat) : Context := ⟨⟨"correlation:2",by decide⟩,now,auditEventId⟩

def loginAt (now : Timestamp) : Login where
  toContext := sampleContext now 1
  body := ⟨64,some ⟨1,"secret"⟩⟩
  access := 7
  refresh := sampleSettings.digestOf "link"
  sessionId := 1
  tokenId := 1

def presentLinkAt (now : Timestamp) (auditEventId : Nat) : Refresh where
  toContext := sampleContext now auditEventId
  body := ⟨24,some "link"⟩
  replacementRefresh := 8
  replacementAccess := 9
  successor := 2
  revocationId := 1

/-- The clock of the last of the three requests reads two hours before the login. -/
def setBackJob : Nat → Job
  | 0 => .login (loginAt (hours 2))
  | 1 => .refresh (presentLinkAt (hours 2 + 1000000) 2)
  | _ => .refresh (presentLinkAt 0 3)

def setBackStep := Pool.step (τ := Nat) constraints fun t => (setBackJob t).program sampleSettings

/-- The login and the first refresh, then the replay. -/
def spendingRun : List (Action Nat) :=
  .start 0 :: List.replicate 7 (.advance 0) ++ .start 1 :: List.replicate 10 (.advance 1)

def replayRun : List (Action Nat) := .start 2 :: List.replicate 5 (.advance 2)

def isIdle : Phase IdentityRow Denial Granted → Bool
  | .idle => true
  | _ => false

def isRefused : Phase IdentityRow Denial Granted → Bool
  | .refused _ => true
  | _ => false

def sparesSession : Bool :=
  (StateMachine.run setBackStep (Pool.initial deviceRows) spendingRun).any fun pool =>
    isIdle (pool.phase 2) && (pool.committed (.refreshToken (sampleSettings.digestOf "link"))).any (·.consumedAt.isSome) &&
    (StateMachine.run setBackStep pool replayRun).any fun later =>
      isRefused (later.phase 2) && (later.committed (.session 1)).any (·.revokedAt.isNone)

theorem device_rows_consistent : Consistent (tables deviceRows) := by
  have advance := consistent_empty.addDevice 1 (NewDevice.row ⟨1,.mobile,none,none⟩ (sampleSettings.digestOf "secret") 0)
    rfl rfl
  rw [deviceRows,tables_update_device]
  exact advance.consistent

end SetBack

end Ratatoskr.Identity
