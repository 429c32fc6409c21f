import Mathlib.Data.Set.Insert
import Ratatoskr.Identity.Chains
import Ratatoskr.Identity.Exchanges

/-! Whom the exchanges of one subject create. The loser of a race for the first link commits with the user
it created for nothing. -/
set_option linter.unusedSectionVars false

namespace Ratatoskr.Identity

open Transaction

section Sole

/-- The users that a transaction created -/
def createdUsers (drafts : Drafts ExchangeRow) : Set UserId :=
  {userId | ∃ row, drafts (.user userId) = some (.written (some row))}

/-- The transaction opens a session for the user its subject is linked to, and created no other. -/
def Sole (subject : String) (value : Exchanged) (drafts : Drafts ExchangeRow) (rows : ExchangeRows) : Prop :=
  ∃ row sessionId, overlay drafts rows (.identity .telegram subject) = some row ∧ value = .opened row.userId sessionId ∧
    ∀ userId ∈ createdUsers drafts, userId = row.userId

variable {τ : Type} [DecidableEq τ]

/-- A subject that is not linked is not linked by others. -/
def unlinked (subject : String) : Protocol ExchangeRow ExchangeDenial Exchanged τ where
  Invariant _ := True
  Rely rows later := rows (.identity .telegram subject) = none → later (.identity .telegram subject) = none
  Commits _ _ _ _ := False
  Abandons _ _ _ := True
  Refuses _ _ := True
  rely_refl _ absent := absent
  rely_trans _ _ _ first second absent := second (first absent)
  commit_invariant _ _ _ _ _ impossible := impossible.elim
  commit_rely _ _ _ _ _ impossible := impossible.elim
  abandon_stable _ _ _ _ _ _ := trivial

variable {t : τ} {settings : Settings} {request : Exchange} {claims : AssertionClaims} {drafts : Drafts ExchangeRow}
  {s : ExchangeRows}

theorem unlinked_lenient (subject : String) : Lenient (unlinked (τ := τ) subject) t := ⟨fun _ _ => trivial,fun _ => trivial⟩

theorem created_put_other (key : ExchangeTable) (other : ∀ userId, key ≠ .user userId) (row : Option (ExchangeRow key)) :
    createdUsers (drafts.put key row) = createdUsers drafts := by
  ext userId
  simp only [createdUsers,Set.mem_ofPred_eq,put_of_ne drafts key (.user userId) row (other userId).symm]

theorem openFor_sole (userId : UserId) (row : ExternalIdentity) (linked : overlay drafts s (.identity .telegram claims.subject) = some row)
    (held : (drafts (.identity .telegram claims.subject)).isSome) (same : row.userId = userId)
    (free : drafts (.assertion claims.issuer claims.nonce) = none ∧ drafts (.session request.sessionId) = none)
    (created : ∀ other ∈ createdUsers drafts, other = userId) :
    (unlinked (τ := τ) claims.subject).Safe exchangeConstraints t (Sole claims.subject) (request.openFor settings claims userId)
      drafts s := by
  refine openFor_safe (unlinked_lenient _) settings request claims userId free fun s' assertion session event env _ _ => ?_
  subst same
  refine ⟨row,request.sessionId,?_,rfl,?_⟩
  · rw [← linked,← env.overlay_eq _ held]
    simp
  · rwa [created_put_other _ (by simp),created_put_other _ (by simp),created_put_other _ (by simp)]

theorem mint_sole : (unlinked (τ := τ) claims.subject).Safe exchangeConstraints t (Sole claims.subject)
    (request.mint settings claims) Drafts.none s := by
  have nobody (row : ExternalIdentity) :
      createdUsers (Drafts.none.put (.identity .telegram claims.subject) (some row)) = ∅ := by
    rw [created_put_other _ (by simp)]
    exact Set.eq_empty_of_forall_notMem fun userId ⟨_,held⟩ => by cases held
  simp only [Exchange.mint,resolvePerson,Exchange.resolve,Tx.bind_eq,Tx.bind_assoc]
  refine Protocol.Safe.select fun s₁ env₁ => ?_
  rw [overlay_none]
  cases stored : s₁ (.identity .telegram claims.subject) with
  | some found =>
    simp only [Tx.pure_eq,Tx.bind]
    refine link_safe (unlinked_lenient _) _ _ _ _ _ rfl (fun s₂ row _ _ same => ?_) fun s₂ there row _ _ same => ?_
    · refine openFor_sole _ row (by simp) (by simp) same ⟨by simp [put_of_ne,Drafts.none],by simp [put_of_ne,Drafts.none]⟩ ?_
      simp [nobody]
    · refine openFor_sole _ row (by simp) (by simp) same ⟨by simp [put_of_ne,Drafts.none],by simp [put_of_ne,Drafts.none]⟩ ?_
      simp [nobody]
  | none =>
    simp only [createUser,Tx.bind_eq,Tx.bind_assoc]
    refine Protocol.Safe.insertNew (fun _ => trivial) fun s₂ env₂ _ => ?_
    simp only [Tx.pure_eq,Tx.bind]
    refine link_safe (unlinked_lenient _) _ _ _ _ _ (by rw [put_of_ne _ _ _ _ (by simp)]; rfl)
      (fun s₃ row env₃ _ same => ?_) fun s₃ there row env₃ linked _ => ?_
    · refine openFor_sole _ row (by simp) (by simp) same ⟨by simp [put_of_ne,Drafts.none],by simp [put_of_ne,Drafts.none]⟩ ?_
      rw [created_put_other _ (by simp)]
      rintro other ⟨user,held⟩
      by_contra different
      rw [put_of_ne _ _ _ _ (by simpa using different)] at held
      cases held
    · -- nobody links the subject between the lookup and the link
      rw [env₃.2.1 (env₂.2.1 stored)] at linked
      cases linked

end Sole

section Runs

variable {τ : Type} [DecidableEq τ] (settings : Settings) (job : τ → ExchangeJob)

abbrev ExchangePool (τ : Type) := Pool ExchangeRow ExchangeDenial Exchanged τ

def exchangeStep : ExchangePool τ → Action τ → Option (ExchangePool τ) :=
  Pool.step exchangeConstraints fun t => (job t).program settings

/-- The commits of exchanges that presented this nonce -/
def redemptions (journal : List (Commit ExchangeRow Exchanged τ)) (issuer nonce : String) :
    List (Commit ExchangeRow Exchanged τ) :=
  journal.filter fun entry => ((job entry.transaction).claims settings).any fun claims =>
    claims.issuer == issuer && claims.nonce == nonce

/-- A nonce opens one session at most, and none where it was recorded before. -/
structure OncePerNonce (store : ExchangeRows) (pool : ExchangePool τ) : Prop where
  once : ∀ issuer nonce, (redemptions settings job pool.journal issuer nonce).length ≤ 1
  refused : ∀ issuer nonce, (store (.assertion issuer nonce)).isSome → redemptions settings job pool.journal issuer nonce = []

/-- What stands of an exchange stands because it committed, and then its session and its nonce stand both. -/
structure AllOrNothing (store : ExchangeRows) (pool : ExchangePool τ) : Prop where
  ended : ∀ entry ∈ pool.journal, pool.phase entry.transaction = .committed entry.value
  nonce : ∀ issuer nonce, (pool.committed (.assertion issuer nonce)).isSome →
    (store (.assertion issuer nonce)).isSome ∨ redemptions settings job pool.journal issuer nonce ≠ []
  session : ∀ sessionId, (pool.committed (.session sessionId)).isSome →
    (store (.session sessionId)).isSome ∨ ∃ entry ∈ pool.journal, ∃ userId, entry.value = .opened userId sessionId
  both : ∀ entry ∈ pool.journal, ∀ claims, (job entry.transaction).claims settings = some claims →
    (pool.committed (.assertion claims.issuer claims.nonce)).isSome ∧
      ∃ userId sessionId, entry.value = .opened userId sessionId ∧ (pool.committed (.session sessionId)).isSome

/-- Each subject is linked to one stored user, for whom all of its exchanges opened their sessions, and they
created no other. -/
def OneUser (pool : ExchangePool τ) : Prop :=
  ∀ entry ∈ pool.journal, ∀ claims, (job entry.transaction).claims settings = some claims →
    ∃ row, pool.committed (.identity .telegram claims.subject) = some row ∧ (pool.committed (.user row.userId)).isSome ∧
      (∃ sessionId, entry.value = .opened row.userId sessionId) ∧ ∀ userId ∈ createdUsers entry.drafts, userId = row.userId

/-- While an exchange of a subject that is not linked is under way, the action does not commit its link for
another one. -/
def Unraced (pool : ExchangePool τ) (action : Action τ) : Prop :=
  ∀ t claims body, (job t).claims settings = some claims → pool.phase t = .running body →
    pool.committed (.identity .telegram claims.subject) = none →
    ∀ u value, action = .advance u → u ≠ t → pool.phase u = .running (.done value) →
      pool.view u (.identity .telegram claims.subject) = none

variable {settings} {job} {store : ExchangeRows} {pool next : ExchangePool τ} {action : Action τ}

theorem Mints.claims_of {drafts : Drafts ExchangeRow} {rows : ExchangeRows} {task : ExchangeJob} {value : Exchanged}
    (mints : Mints settings drafts rows task value) {claims : AssertionClaims} (own : task.claims settings = some claims) :
    ∃ request userId, task = .exchange request ∧ value = .opened userId request.sessionId ∧
      Opens request claims userId drafts rows := by
  cases mints with
  | opened request others userId believed opens =>
    simp only [ExchangeJob.claims,believed,Except.toOption,Option.some.injEq] at own
    subst own
    exact ⟨request,userId,rfl,rfl,opens⟩
  | denied => cases own

theorem Mints.assertion_same {drafts : Drafts ExchangeRow} {rows : ExchangeRows} {task : ExchangeJob} {value : Exchanged}
    (mints : Mints settings drafts rows task value) {issuer nonce : String}
    (other : ∀ claims, task.claims settings = some claims → ¬(claims.issuer = issuer ∧ claims.nonce = nonce)) :
    overlay drafts rows (.assertion issuer nonce) = rows (.assertion issuer nonce) := by
  cases mints with
  | opened request claims userId believed opens =>
    have acts : (ExchangeJob.exchange request).claims settings = some claims := by
      simp only [ExchangeJob.claims,believed,Except.toOption]
    refine overlay_free (opens.free ⟨by simp,by simp,fun equal => ?_,by simp,by simp⟩) rows
    obtain ⟨rfl,rfl⟩ := ExchangeTable.assertion.inj equal
    exact other claims acts ⟨rfl,rfl⟩
  | denied auditEventId event only => exact denied_same only (by simp)

theorem Mints.session_same {drafts : Drafts ExchangeRow} {rows : ExchangeRows} {task : ExchangeJob} {value : Exchanged}
    (mints : Mints settings drafts rows task value) {sessionId : SessionId}
    (other : ∀ userId, value ≠ .opened userId sessionId) :
    overlay drafts rows (.session sessionId) = rows (.session sessionId) := by
  cases mints with
  | opened request claims userId believed opens =>
    refine overlay_free (opens.free ⟨by simp,by simp,by simp,fun equal => ?_,by simp⟩) rows
    obtain rfl := ExchangeTable.session.inj equal
    exact other userId rfl
  | denied auditEventId event only => exact denied_same only (by simp)

theorem redemptions_append (journal : List (Commit ExchangeRow Exchanged τ)) (entry : Commit ExchangeRow Exchanged τ)
    (issuer nonce : String) : redemptions settings job (journal ++ [entry]) issuer nonce =
      redemptions settings job journal issuer nonce ++ redemptions settings job [entry] issuer nonce :=
  List.filter_append ..

/-- Among the nonces recorded are all those that were presented, each by one commit. -/
theorem nonce_redeemed_once (valid : Linked store)
    (reached : Pool.Reachable exchangeConstraints (fun t => (job t).program settings) store pool) (issuer nonce : String) :
    ((store (.assertion issuer nonce)).isSome → redemptions settings job pool.journal issuer nonce = [] ∧
      (pool.committed (.assertion issuer nonce)).isSome) ∧
    (redemptions settings job pool.journal issuer nonce).length ≤ 1 ∧
    (redemptions settings job pool.journal issuer nonce ≠ [] → (pool.committed (.assertion issuer nonce)).isSome) ∧
    ((pool.committed (.assertion issuer nonce)).isSome →
      (store (.assertion issuer nonce)).isSome ∨ redemptions settings job pool.journal issuer nonce ≠ []) := by
  refine (exchanges_keep job).journal store valid (fun rows journal =>
    ((store (.assertion issuer nonce)).isSome → redemptions settings job journal issuer nonce = [] ∧
      (rows (.assertion issuer nonce)).isSome) ∧
    (redemptions settings job journal issuer nonce).length ≤ 1 ∧
    (redemptions settings job journal issuer nonce ≠ [] → (rows (.assertion issuer nonce)).isSome) ∧
    ((rows (.assertion issuer nonce)).isSome →
      (store (.assertion issuer nonce)).isSome ∨ redemptions settings job journal issuer nonce ≠ []))
    ⟨fun stored => ⟨rfl,stored⟩,by simp [redemptions],by simp [redemptions],Or.inl⟩
    (fun s journal t value drafts _ kept committed => ?_) pool reached
  obtain ⟨before,once,stored,source⟩ := kept
  have mints : Mints settings drafts s (job t) value := committed
  rw [redemptions_append]
  by_cases own : ∃ claims, (job t).claims settings = some claims ∧ claims.issuer = issuer ∧ claims.nonce = nonce
  · obtain ⟨claims,own,rfl,rfl⟩ := own
    obtain ⟨request,userId,_,rfl,opens⟩ := mints.claims_of own
    -- the nonce is new, so nobody presented it before
    have fresh : redemptions settings job journal claims.issuer claims.nonce = [] := by
      by_contra some_
      simpa [opens.unused] using stored some_
    have this : redemptions settings job [⟨t,.opened userId request.sessionId,drafts⟩] claims.issuer claims.nonce =
        [⟨t,.opened userId request.sessionId,drafts⟩] := by
      simp [redemptions,own]
    obtain ⟨row,redeemed⟩ := opens.redeemed
    have now : (overlay drafts s (.assertion claims.issuer claims.nonce)).isSome := by simp [overlay,redeemed]
    rw [fresh,this]
    refine ⟨fun there => ?_,Nat.le_refl 1,fun _ => now,fun _ => Or.inr (by simp)⟩
    have absent := (before there).2
    rw [opens.unused] at absent
    cases absent
  · have this : redemptions settings job [⟨t,value,drafts⟩] issuer nonce = [] := by
      simp only [redemptions,List.filter_cons,List.filter_nil]
      rw [if_neg]
      rw [Option.any_eq_true]
      rintro ⟨claims,acts,same⟩
      exact own ⟨claims,acts,by simpa using same⟩
    have same := mints.assertion_same fun claims acts same => own ⟨claims,acts,same⟩
    rw [this,List.append_nil,same]
    exact ⟨before,once,stored,source⟩

/-- A session that is stored was there from the start or opened by a commit. -/
theorem session_opened (valid : Linked store)
    (reached : Pool.Reachable exchangeConstraints (fun t => (job t).program settings) store pool) (sessionId : SessionId)
    (stored : (pool.committed (.session sessionId)).isSome) :
    (store (.session sessionId)).isSome ∨ ∃ entry ∈ pool.journal, ∃ userId, entry.value = .opened userId sessionId := by
  revert stored
  refine (exchanges_keep job).journal store valid (fun rows journal => (rows (.session sessionId)).isSome →
    (store (.session sessionId)).isSome ∨ ∃ entry ∈ journal, ∃ userId, entry.value = .opened userId sessionId)
    Or.inl (fun s journal t value drafts _ kept committed stored => ?_) pool reached
  have mints : Mints settings drafts s (job t) value := committed
  by_cases own : ∃ userId, value = .opened userId sessionId
  · exact Or.inr ⟨⟨t,value,drafts⟩,List.mem_append_right _ (List.mem_singleton_self _),own⟩
  · rw [mints.session_same fun userId same => own ⟨userId,same⟩] at stored
    exact (kept stored).imp_right fun ⟨entry,member,opened⟩ => ⟨entry,List.mem_append_left _ member,opened⟩

/-- The nonce and the session that an exchange committed stay. -/
theorem minted_stays (valid : Linked store)
    (reached : Pool.Reachable exchangeConstraints (fun t => (job t).program settings) store pool) :
    ∀ entry ∈ pool.journal, ∀ claims, (job entry.transaction).claims settings = some claims →
      (pool.committed (.assertion claims.issuer claims.nonce)).isSome ∧
      ∃ userId sessionId, entry.value = .opened userId sessionId ∧ (pool.committed (.session sessionId)).isSome := by
  refine (exchanges_keep job).journal store valid (fun rows journal => ∀ entry ∈ journal, ∀ claims,
    (job entry.transaction).claims settings = some claims → (rows (.assertion claims.issuer claims.nonce)).isSome ∧
      ∃ userId sessionId, entry.value = .opened userId sessionId ∧ (rows (.session sessionId)).isSome)
    (by simp) (fun s journal t value drafts _ kept committed entry member claims own => ?_) pool reached
  have mints : Mints settings drafts s (job t) value := committed
  rcases List.mem_append.mp member with old | new
  · obtain ⟨nonce,userId,sessionId,opened,session⟩ := kept entry old claims own
    exact ⟨mints.grows.assertion _ _ nonce,userId,sessionId,opened,mints.grows.session _ session⟩
  · obtain rfl := List.mem_singleton.mp new
    obtain ⟨request,userId,_,rfl,opens⟩ := mints.claims_of own
    obtain ⟨assertion,redeemed⟩ := opens.redeemed
    obtain ⟨session,opened⟩ := opens.opened
    exact ⟨by simp [overlay,redeemed],userId,request.sessionId,rfl,by simp [overlay,opened]⟩

/-- Every exchange under way will create nobody but the user it opens a session for. -/
def Singly (settings : Settings) (job : τ → ExchangeJob) (pool : ExchangePool τ) : Prop :=
  ∀ t claims, (job t).claims settings = some claims →
    (unlinked claims.subject).Follows exchangeConstraints t (Sole claims.subject) pool

theorem exchange_starts {t : τ} {claims : AssertionClaims} (own : (job t).claims settings = some claims) (s : ExchangeRows) :
    (unlinked claims.subject).Safe exchangeConstraints t (Sole claims.subject) ((job t).program settings) Drafts.none s := by
  cases task : job t with
  | exchange request =>
    rw [task] at own
    simp only [ExchangeJob.program,Exchange.exchangeTelegram]
    simp only [ExchangeJob.claims] at own
    cases believed : request.believe settings with
    | error denial => simp [believed,Except.toOption] at own
    | ok others =>
      simp only [believed,Except.toOption,Option.some.injEq] at own
      subst own
      exact mint_sole
  | refuse => simp [task,ExchangeJob.claims] at own

theorem singly_step (singly : Singly settings job pool) (unraced : Unraced settings job pool action)
    (stepped : exchangeStep settings job pool action = some next) : Singly settings job next := by
  intro t claims own
  have follows := singly t claims own
  by_cases same : action.transaction = t
  · exact (Protocol.Follows.own (fun t => (job t).program settings) follows (fun s _ => exchange_starts own s)
      (fun _ _ => trivial) action same stepped).1
  · have different : t ≠ action.transaction := Ne.symm same
    by_cases running : ∃ body, pool.phase t = .running body
    · obtain ⟨body,runs⟩ := running
      refine Protocol.Follows.other follows action different stepped fun absent => ?_
      rcases Pool.step_advances _ _ pool next action stepped with ⟨rows,_,_⟩ | ⟨u,value,rfl,ends,rfl⟩
      · rwa [rows]
      · exact unraced t claims body own runs absent u value rfl (Ne.symm different) ends
    · obtain ⟨phase,drafts⟩ := Pool.step_other _ _ pool next action t different stepped
      have still (body : ExchangeStatement Exchanged) : pool.phase t ≠ .running body := fun runs => running ⟨body,runs⟩
      rw [Protocol.follows_iff fun body => phase ▸ still body,drafts]
      exact (Protocol.follows_iff still).mp follows

theorem one_user_step (sound : (exchangeProtocol settings job).Sound exchangeConstraints pool)
    (singly : Singly settings job pool) (one : OneUser settings job pool)
    (stepped : exchangeStep settings job pool action = some next) : OneUser settings job next := by
  rcases Pool.step_advances _ _ pool next action stepped with ⟨rows,journal,_⟩ | ⟨t,value,rfl,ends,rfl⟩
  · rwa [OneUser,rows,journal]
  have mints : Mints settings (pool.drafts t) pool.committed (job t) value := sound.commits value ends
  intro entry member claims own
  rcases List.mem_append.mp member with old | new
  · obtain ⟨row,linked,known,opened,created⟩ := one entry old claims own
    obtain ⟨now,there,same⟩ := mints.grows.identity _ _ row linked
    rw [← same] at known opened created
    exact ⟨now,there,mints.grows.user _ known,opened,created⟩
  · obtain rfl := List.mem_singleton.mp new
    have follows := singly t claims own
    rw [Protocol.Follows,ends] at follows
    obtain ⟨row,sessionId,linked,rfl,created⟩ := follows _ (Protocol.Env.refl _ _ trivial) _ (Protocol.Env.refl _ _ trivial)
    exact ⟨row,linked,mints.keeps_linked sound.invariant _ _ row linked,⟨sessionId,rfl⟩,created⟩

/-- Over rows that keep their foreign key: a nonce opens one session at most, an exchange that fails leaves
nothing, and where no exchange is raced to the first link of its subject, nobody is created but the user the
subject is linked to. -/
theorem exchanges_hold (store : ExchangeRows) (valid : Linked store) (actions : List (Action τ)) (pool : ExchangePool τ)
    (ran : StateMachine.run (exchangeStep settings job) (Pool.initial store) actions = some pool) :
    OncePerNonce settings job store pool ∧ AllOrNothing settings job store pool ∧
    (StateMachine.Along (exchangeStep settings job) (Unraced settings job) (Pool.initial store) actions →
      OneUser settings job pool) := by
  have reached : Pool.Reachable exchangeConstraints (fun t => (job t).program settings) store pool := ⟨actions,ran⟩
  refine ⟨⟨fun issuer nonce => (nonce_redeemed_once valid reached issuer nonce).2.1,fun issuer nonce stored =>
    ((nonce_redeemed_once valid reached issuer nonce).1 stored).1⟩,⟨fun entry => Pool.committed_of_journal reached entry,
      fun issuer nonce => (nonce_redeemed_once valid reached issuer nonce).2.2.2,session_opened valid reached,
      minted_stays valid reached⟩,fun unraced => ?_⟩
  refine (StateMachine.along_invariant (exchangeStep settings job) (fun pool =>
    (exchangeProtocol settings job).Sound exchangeConstraints pool ∧ Singly settings job pool ∧ OneUser settings job pool) _
    (fun pool action next kept unraced stepped => ?_) (Pool.initial store) actions pool ⟨?_,?_,?_⟩ unraced ran).2.2
  · exact ⟨kept.1.step (exchanges_keep job) action stepped,singly_step kept.2.1 unraced stepped,
      one_user_step kept.1 kept.2.1 kept.2.2 stepped⟩
  · exact Protocol.sound_initial store valid
  · exact fun t claims _ => Protocol.follows_initial store
  · exact fun entry member => absurd member List.not_mem_nil

end Runs

section Race

/-- An exchange of a first-time subject under the given nonce; `drawn` is every id it draws. -/
def exchangeOf (nonce : String) (drawn : Nat) : Exchange where
  toContext := sampleContext 1000000 drawn
  assertion := some 512
  keyed := true
  signed := .ok ⟨"ratatoskr-telegram","42",sampleSettings.audience,nonce,0,hours 1⟩
  userId := drawn
  identityId := drawn
  assertionId := drawn
  sessionId := drawn
  token := 7

def emptyRows : ExchangeRows := fun _ => none

def soloJob : Nat → ExchangeJob
  | 0 => .exchange (exchangeOf "nonce-of-sixteen" 1)
  | t => .refuse t ((sampleContext 0 t).event none none "session.exchange_assertion" "assertion" none .denied)

def soloRun : List (Action Nat) := .start 0 :: List.replicate 7 (.advance 0)

def soloOpens : Bool :=
  (StateMachine.run (exchangeStep sampleSettings soloJob) (Pool.initial emptyRows) soloRun).any fun pool =>
    pool.journal.any (·.value == .opened 1 1)

theorem exchanges_hold_of_solo : ∃ pool : ExchangePool Nat,
    StateMachine.run (exchangeStep sampleSettings soloJob) (Pool.initial emptyRows) soloRun = some pool ∧
    (∃ entry ∈ pool.journal, entry.value = .opened 1 1) ∧ OneUser sampleSettings soloJob pool := by
  have opens : soloOpens = true := by decide +kernel
  simp only [soloOpens,Option.any_eq_true,List.any_eq_true,beq_iff_eq] at opens
  obtain ⟨pool,ran,opened⟩ := opens
  refine ⟨pool,ran,opened,(exchanges_hold emptyRows (fun _ _ _ stored => by cases stored) soloRun pool ran).2.2
    (StateMachine.along_of_forall _ _ _ _ fun pool action member => ?_)⟩
  have acts : ∀ action ∈ soloRun, action.transaction = 0 := by decide
  intro t claims body own _ _ u value advances different
  have same : action.transaction = 0 := acts action member
  rw [advances] at same
  cases t with
  | zero => exact absurd same different
  | succ t => cases own

/-- Two exchanges look the same subject up before either has linked it. -/
def racingExchange : Nat → ExchangeJob
  | 0 => .exchange (exchangeOf "nonce-of-sixteen" 1)
  | _ => .exchange (exchangeOf "another-of-sixteen" 2)

def racingExchanges : List (Action Nat) :=
  [.start 0,.start 1,.advance 0,.advance 1] ++ List.replicate 6 (.advance 0) ++ List.replicate 8 (.advance 1)

def created (userId : UserId) (drafts : Drafts ExchangeRow) : Bool :=
  match drafts (.user userId) with
  | some (.written (some _)) => true
  | _ => false

theorem created_iff (userId : UserId) (drafts : Drafts ExchangeRow) :
    created userId drafts = true ↔ userId ∈ createdUsers drafts := by
  simp only [created,createdUsers,Set.mem_ofPred_eq]
  split
  · rename_i row held
    exact iff_of_true rfl ⟨row,held⟩
  · rename_i unwritten
    refine iff_of_false (by simp) ?_
    rintro ⟨row,held⟩
    exact unwritten row held

def loserCreates : Bool :=
  (StateMachine.run (exchangeStep sampleSettings racingExchange) (Pool.initial emptyRows) racingExchanges).any fun pool =>
    (pool.committed (.identity .telegram "42")).any (·.userId == 1) && (pool.committed (.user 2)).isSome &&
    pool.journal.any fun entry => entry.transaction == 1 && entry.value == .opened 1 2 && created 2 entry.drafts

/-- Both sessions are opened for the user of the winner, and the user of the loser is left behind. -/
theorem loser_leaves_its_user : ∃ pool : ExchangePool Nat,
    Pool.Reachable exchangeConstraints (fun t => (racingExchange t).program sampleSettings) emptyRows pool ∧
    (∃ row, pool.committed (.identity .telegram "42") = some row ∧ row.userId = 1) ∧
    (pool.committed (.user 2)).isSome ∧
    (∃ entry ∈ pool.journal, entry.value = .opened 1 2 ∧ 2 ∈ createdUsers entry.drafts) ∧
    ¬OneUser sampleSettings racingExchange pool := by
  have creates : loserCreates = true := by decide +kernel
  simp only [loserCreates,Option.any_eq_true,List.any_eq_true,Bool.and_eq_true,beq_iff_eq,created_iff] at creates
  obtain ⟨pool,ran,⟨⟨row,linked,winner⟩,left⟩,entry,member,⟨loser,opened⟩,orphan⟩ := creates
  refine ⟨pool,⟨racingExchanges,ran⟩,⟨row,linked,winner⟩,left,⟨entry,member,opened,orphan⟩,fun one => ?_⟩
  have own : (racingExchange entry.transaction).claims sampleSettings =
      some ⟨"ratatoskr-telegram","42",sampleSettings.audience,"another-of-sixteen",0,hours 1⟩ := by
    rw [loser]
    rfl
  obtain ⟨other,stored,_,_,sole⟩ := one entry member _ own
  obtain rfl := Option.some.inj (linked.symm.trans stored)
  exact absurd ((sole 2 orphan).trans winner) (by decide)

end Race

end Ratatoskr.Identity
