import Mathlib.Data.Set.Insert
import Ratatoskr.Identity.PairingCodes

/-! Which sessions a revocation of all of them marks, and for which it leaves a record. The list is read
before the update runs, and under another predicate. -/
set_option linter.unusedSectionVars false

namespace Ratatoskr.Identity

open Transaction

section Sets

/-- The sessions of a user that are not revoked, expired ones included. -/
def unrevoked (userId : UserId) (rows : Rows) : Set SessionId :=
  {id | ∃ row, rows (.session id) = some row ∧ row.userId = userId ∧ row.revokedAt = none}

/-- The sessions a transaction has revoked. -/
def marked (drafts : Drafts IdentityRow) : Set SessionId :=
  {id | ∃ row, drafts (.session id) = some (.written (some row)) ∧ row.revokedAt.isSome}

/-- The sessions for whose revocation it leaves a durable record. -/
def recorded (drafts : Drafts IdentityRow) : Set SessionId :=
  {id | ∃ key row, drafts (.revocation key) = some (.written (some row)) ∧ row.subjectKind = .session ∧ row.subjectId = id}

theorem recorded_congr {drafts more : Drafts IdentityRow} (same : ∀ key, more (.revocation key) = drafts (.revocation key)) :
    recorded more = recorded drafts := by
  simp only [recorded,same]

theorem marked_congr {drafts more : Drafts IdentityRow} (same : ∀ id, more (.session id) = drafts (.session id)) :
    marked more = marked drafts := by
  simp only [marked,same]

/-- A record under a key that was not written yet adds its session to those recorded. -/
theorem recorded_put {drafts : Drafts IdentityRow} (rows : Rows) (key : RevocationId) (row : Revocation)
    (kind : row.subjectKind = .session) (free : overlay drafts rows (.revocation key) = none) :
    recorded (drafts.put (.revocation key) (some row)) = insert row.subjectId (recorded drafts) := by
  have unwritten (old : Revocation) : drafts (.revocation key) ≠ some (.written (some old)) := fun held => by
    simp [overlay,held] at free
  ext id
  constructor
  · rintro ⟨other,found,held,isSession,rfl⟩
    by_cases same : other = key
    · subst same
      rw [put_self] at held
      obtain rfl : row = found := by simpa using held
      exact Or.inl rfl
    · rw [put_of_ne _ _ _ _ fun equal => same (IdentityTable.revocation.inj equal)] at held
      exact Or.inr ⟨other,found,held,isSession,rfl⟩
  · rintro (rfl | ⟨other,found,held,isSession,rfl⟩)
    · exact ⟨key,row,put_self _ _ _,kind,rfl⟩
    · have different : other ≠ key := fun same => unwritten found (same ▸ held)
      exact ⟨other,found,(put_of_ne _ _ _ _ fun equal => different (IdentityTable.revocation.inj equal)).trans held,
        isSession,rfl⟩

end Sets

/-- No session of the user is expired without being revoked. -/
def Sweep.Timely (request : Sweep) (rows : Rows) : Prop :=
  ∀ id row, rows (.session id) = some row → row.userId = request.principal.userId → row.revokedAt = none →
    toOffset request.now < row.expiresAt

/-- The scans of both statements visit every session that is not revoked. -/
def Sweep.Scans (request : Sweep) (rows : Rows) : Prop :=
  ∀ id ∈ unrevoked request.principal.userId rows, id ∈ request.listed ∧ id ∈ request.visited

section Protocol

variable {τ : Type} [DecidableEq τ]

/-- The rows stand still as far as the sweep is concerned: `open_` are the unrevoked sessions of its user. -/
def standstill (request : Sweep) (open_ : Set SessionId) : Protocol IdentityRow Denial Granted τ where
  Invariant rows := unrevoked request.principal.userId rows = open_ ∧ request.Timely rows ∧ request.Scans rows
  Rely _ _ := True
  Commits _ _ _ _ := False
  Abandons _ _ _ := True
  Refuses _ _ := True
  rely_refl _ := trivial
  rely_trans _ _ _ _ _ := trivial
  commit_invariant _ _ _ _ _ impossible := impossible.elim
  commit_rely _ _ _ _ _ _ := trivial
  abandon_stable _ _ _ _ _ _ := trivial

variable {request : Sweep} {open_ : Set SessionId} {t : τ} {γ : Type} {post : γ → Drafts IdentityRow → Rows → Prop}
  {drafts : Drafts IdentityRow} {s : Rows}

/-- What is listed as live are the sessions that are not revoked. -/
theorem list_stands (visited : List SessionId) (f : List SessionId → Statements γ)
    (next : ∀ live s', (standstill (τ := τ) request open_).Env drafts s s' → (∀ id, id ∈ live ↔ id ∈ visited ∧ id ∈ open_) →
      (standstill request open_).Safe constraints t post (f live) drafts s')
    (valid : (standstill (τ := τ) request open_).Invariant s) (bare : ∀ id, drafts (.session id) = none) :
    (standstill request open_).Safe constraints t post
      ((listLiveSessionIds request.principal.userId request.now visited).bind f) drafts s := by
  induction visited generalizing f s with
  | nil => exact next [] s (Protocol.Env.refl _ _ valid) (by simp)
  | cons id visited ih =>
    simp only [listLiveSessionIds,Tx.bind_eq,Tx.bind_assoc]
    refine Protocol.Safe.select fun s₁ env => ih _ (fun live s₂ env' lists => ?_) env.1
    refine next _ s₂ (env.trans _ env') fun other => ?_
    obtain ⟨same,timely,_⟩ := env.1
    have listed : (overlay drafts s₁ (.session id)).any (fun row => row.userId == request.principal.userId &&
        row.isLiveAt request.now) = true ↔ id ∈ open_ := by
      rw [overlay_free (bare id),Option.any_eq_true,← same]
      constructor
      · rintro ⟨row,found,live⟩
        simp only [Session.isLiveAt,Bool.and_eq_true,beq_iff_eq,Option.isNone_iff_eq_none] at live
        exact ⟨row,found,live.1,live.2.1⟩
      · rintro ⟨row,found,owner,unrevoked⟩
        exact ⟨row,found,by simp [Session.isLiveAt,owner,unrevoked,timely id row found owner unrevoked]⟩
    by_cases own : id ∈ open_
    · rw [if_pos (listed.mpr own),List.mem_cons,lists,List.mem_cons]
      constructor
      · rintro (rfl | ⟨later,there⟩)
        · exact ⟨Or.inl rfl,own⟩
        · exact ⟨Or.inr later,there⟩
      · rintro ⟨rfl | later,there⟩
        · exact Or.inl rfl
        · exact Or.inr ⟨later,there⟩
    · rw [if_neg (fun live => own (listed.mp live)),lists,List.mem_cons]
      constructor
      · exact fun both => ⟨Or.inr both.1,both.2⟩
      · rintro ⟨rfl | later,there⟩
        · exact absurd there own
        · exact ⟨later,there⟩

/-- What an update has done after some visits: it has revoked those of the visited that were not. -/
structure Sweeping (open_ : Set SessionId) (visited : List SessionId) (drafts : Drafts IdentityRow) : Prop where
  others : ∀ key, (∀ id, key ≠ .session id) → drafts key = none
  written : ∀ id, drafts (.session id) = none ∨ ∃ row, drafts (.session id) = some (.written (some row)) ∧ row.revokedAt.isSome
  marks : ∀ id, id ∈ marked drafts ↔ id ∈ visited ∧ id ∈ open_

theorem close_stands (visited rest : List SessionId) (f : List SessionId → Statements γ)
    (sweeping : Sweeping open_ visited drafts)
    (next : ∀ closed drafts' s', Sweeping open_ (rest.reverse ++ visited) drafts' →
      (standstill (τ := τ) request open_).Invariant s' →
      (standstill request open_).Safe constraints t post (f closed) drafts' s')
    (valid : (standstill (τ := τ) request open_).Invariant s) :
    (standstill request open_).Safe constraints t post
      ((closeSessions (fun row => row.userId == request.principal.userId) request.now rest).bind f) drafts s := by
  induction rest generalizing f visited drafts s with
  | nil => exact next [] drafts s sweeping valid
  | cons id rest ih =>
    simp only [closeSessions,Tx.bind_eq,Tx.bind_assoc]
    refine Protocol.Safe.updateWhere (fun _ => trivial) (fun s₁ env missed => ?_) fun s₁ row env found matched => ?_
    · refine ih (id :: visited) _ ⟨sweeping.others,sweeping.written,fun other => ?_⟩
        (fun closed drafts' s' swept valid => next _ drafts' s' (by simpa using swept) valid) env.1
      rw [sweeping.marks,List.mem_cons]
      constructor
      · exact fun both => ⟨Or.inr both.1,both.2⟩
      · rintro ⟨rfl | earlier,there⟩
        · -- a session that is open and was missed has been revoked by an earlier visit
          refine (sweeping.marks other).mp ?_
          rcases sweeping.written other with free | ⟨old,held,revoked⟩
          · rw [← env.1.1] at there
            obtain ⟨row,stored,owner,unrevoked⟩ := there
            rw [overlay_free free,stored] at missed
            simp [owner,unrevoked] at missed
          · exact ⟨old,held,revoked⟩
        · exact ⟨earlier,there⟩
    · simp only [Bool.and_eq_true,beq_iff_eq,Option.isNone_iff_eq_none] at matched
      have free : drafts (.session id) = none := by
        rcases sweeping.written id with free | ⟨old,held,revoked⟩
        · exact free
        · simp only [overlay,held,Option.some.injEq] at found
          rw [found,matched.2] at revoked
          cases revoked
      rw [overlay_free free] at found
      have own : id ∈ open_ := env.1.1 ▸ ⟨row,found,matched.1,matched.2⟩
      refine ih (id :: visited) _ ⟨fun key other => ?_,fun other => ?_,fun other => ?_⟩
        (fun closed drafts' s' swept valid => next _ drafts' s' (by simpa using swept) valid) env.1
      · rw [put_of_ne _ _ _ _ (other id)]
        exact sweeping.others key other
      · by_cases same : other = id
        · subst same
          exact Or.inr ⟨_,put_self _ _ _,rfl⟩
        · rw [put_of_ne _ _ _ _ fun equal => same (IdentityTable.session.inj equal)]
          exact sweeping.written other
      · by_cases same : other = id
        · subst same
          exact iff_of_true ⟨_,put_self _ _ _,rfl⟩ ⟨List.mem_cons_self,own⟩
        · have kept : other ∈ marked (drafts.put (.session id) (some (row.revoked request.now))) ↔ other ∈ marked drafts := by
            simp only [marked,Set.mem_ofPred_eq,put_of_ne drafts (.session id) (.session other) _ fun equal =>
              same (IdentityTable.session.inj equal)]
          rw [kept,sweeping.marks,List.mem_cons]
          simp [same]

/-- Every session of the list gets its record, and the sessions that were marked stay so. -/
theorem record_stands (drawn : Nat → RevocationId) (revokedBy : UserId) (now : Timestamp) (live : List SessionId)
    (f : Unit → Statements γ) (next : ∀ drafts' s', marked drafts' = marked drafts →
      recorded drafts' = recorded drafts ∪ {id | id ∈ live} →
      (standstill request open_).Safe constraints t post (f ()) drafts' s') :
    (standstill request open_).Safe constraints t post ((recordSessionRevocations drawn revokedBy now live).bind f) drafts s := by
  induction live generalizing drafts s with
  | nil => exact next drafts s rfl (by simp)
  | cons id live ih =>
    simp only [recordSessionRevocations,recordRevocation,Tx.bind_eq,Tx.bind_assoc]
    refine Protocol.Safe.insertNew (fun _ => trivial) fun s₁ env free => ?_
    refine ih fun drafts' s' marks records => next drafts' s' ?_ ?_
    · rw [marks]
      exact marked_congr fun other => put_of_ne _ _ _ _ (by simp)
    · rw [records,recorded_put s₁ _ _ rfl free]
      ext other
      simp only [Set.mem_union,Set.mem_insert_iff,Set.mem_ofPred_eq,List.mem_cons]
      constructor
      · rintro ((rfl | old) | later)
        · exact Or.inr (Or.inl rfl)
        · exact Or.inl old
        · exact Or.inr (Or.inr later)
      · rintro (old | rfl | later)
        · exact Or.inl (Or.inr old)
        · exact Or.inl (Or.inl rfl)
        · exact Or.inr later

/-- While the rows stand still, what a sweep marks is what it records. -/
theorem sweep_stands (valid : (standstill (τ := τ) request open_).Invariant s) :
    (standstill request open_).Safe constraints t (fun _ drafts _ => marked drafts = recorded drafts) request.revokeAll
      Drafts.none s := by
  have scans := valid.2.2
  rw [Sweep.Scans,valid.1] at scans
  simp only [Sweep.revokeAll,revokeAllSessionsOfUser,Tx.bind_eq,Tx.pure_eq]
  refine list_stands _ _ (fun live s₁ env lists => ?_) valid fun _ => rfl
  have nothing : Sweeping open_ [] Drafts.none := ⟨fun _ _ => rfl,fun _ => Or.inl rfl,fun id => by simp [marked,Drafts.none]⟩
  refine close_stands [] request.visited _ nothing (fun closed drafts s₂ swept _ => ?_) env.1
  refine record_stands _ _ _ _ _ fun drafts' s₃ marks records => ?_
  refine Protocol.Safe.insertNew (fun _ => trivial) fun s₄ _ _ s₅ _ => ?_
  have unrecorded : recorded drafts = ∅ := by
    refine Set.eq_empty_of_forall_notMem ?_
    rintro id ⟨key,row,held,_⟩
    rw [swept.others _ (by simp)] at held
    cases held
  rw [marked_congr fun id => put_of_ne _ _ _ _ (by simp),recorded_congr fun key => put_of_ne _ _ _ _ (by simp),marks,
    records,unrecorded,Set.empty_union]
  ext id
  rw [swept.marks,Set.mem_ofPred_eq,lists]
  constructor
  · exact fun both => ⟨(scans id both.2).1,both.2⟩
  · exact fun both => ⟨by simpa using (scans id both.2).2,both.2⟩

end Protocol

section Runs

variable {τ : Type} [DecidableEq τ] (settings : Settings) (job : τ → Job)

/-- While a sweep is under way, no session of its user is expired without being revoked, and the action does
not open or revoke one for it. -/
def Undisturbed (pool : Pool IdentityRow Denial Granted τ) (action : Action τ) : Prop :=
  ∀ t request body, job t = .revokeAll request → pool.phase t = .running body →
    request.Timely pool.committed ∧ request.Scans pool.committed ∧
      ∀ u value, action = .advance u → u ≠ t → pool.phase u = .running (.done value) →
        unrevoked request.principal.userId (pool.view u) = unrevoked request.principal.userId pool.committed

/-- Every sweep that was committed revoked the sessions it recorded, and no other. -/
def SweepsMatch (pool : Pool IdentityRow Denial Granted τ) : Prop :=
  ∀ entry ∈ pool.journal, ∀ request, job entry.transaction = .revokeAll request →
    marked entry.drafts = recorded entry.drafts

/-- Every sweep goes on as if the rows stood still from now on. -/
def SweepsFollow (pool : Pool IdentityRow Denial Granted τ) : Prop :=
  ∀ t request, job t = .revokeAll request →
    (standstill request (unrevoked request.principal.userId pool.committed)).Follows constraints t
      (fun _ drafts _ => marked drafts = recorded drafts) pool

variable {settings} {job} {pool next : Pool IdentityRow Denial Granted τ} {action : Action τ}

/-- Where the sweep is running, the unrevoked sessions of its user stay what they are under another's step. -/
theorem undisturbed_step (undisturbed : Undisturbed job pool action) {t : τ} {request : Sweep} (own : job t = .revokeAll request)
    {body : Statements Granted} (runs : pool.phase t = .running body) (different : t ≠ action.transaction)
    (stepped : pool.step constraints (fun t => (job t).program settings) action = some next) :
    unrevoked request.principal.userId next.committed = unrevoked request.principal.userId pool.committed := by
  rcases Pool.step_advances _ _ pool next action stepped with ⟨rows,_,_⟩ | ⟨u,value,rfl,ends,rfl⟩
  · rw [rows]
  · exact (undisturbed t request body own runs).2.2 u value rfl (Ne.symm different) ends

theorem sweeps_follow_step (follow : SweepsFollow job pool) (undisturbed : Undisturbed job pool action)
    (stepped : pool.step constraints (fun t => (job t).program settings) action = some next) : SweepsFollow job next := by
  intro t request own
  have follows := follow t request own
  by_cases same : action.transaction = t
  · have starts (s : Rows) (valid : (standstill (τ := τ) request (unrevoked request.principal.userId pool.committed)).Invariant s) :=
      sweep_stands (t := t) valid
    obtain ⟨after,⟨rows,_⟩ | ⟨value,rfl,_⟩⟩ := Protocol.Follows.own (fun t => (job t).program settings) follows
      (by simpa only [own,Job.program] using starts)
      (fun body runs => ⟨rfl,(undisturbed t request body own runs).1,(undisturbed t request body own runs).2.1⟩)
      action same stepped
    · rwa [rows]
    · have ended (body : Statements Granted) : (pool.commit t value).phase t ≠ .running body := by simp
      exact (Protocol.follows_iff ended).mpr ((Protocol.follows_iff ended).mp after)
  · have different : t ≠ action.transaction := Ne.symm same
    have after := Protocol.Follows.other follows action different stepped trivial
    by_cases running : ∃ body, pool.phase t = .running body
    · obtain ⟨body,runs⟩ := running
      rwa [undisturbed_step undisturbed own runs different stepped]
    · have still (body : Statements Granted) : next.phase t ≠ .running body := fun runs =>
        running ⟨body,(Pool.step_other _ _ pool next action t different stepped).1 ▸ runs⟩
      exact (Protocol.follows_iff still).mpr ((Protocol.follows_iff still).mp after)

/-- The commit of a sweep that followed its protocol records what it marks. -/
theorem sweeps_match_step (follow : SweepsFollow job pool) (matches_ : SweepsMatch job pool)
    (undisturbed : Undisturbed job pool action)
    (stepped : pool.step constraints (fun t => (job t).program settings) action = some next) : SweepsMatch job next := by
  rcases Pool.step_advances _ _ pool next action stepped with ⟨_,journal,_⟩ | ⟨t,value,rfl,ends,rfl⟩
  · rwa [SweepsMatch,journal]
  intro entry member request own
  rcases List.mem_append.mp member with old | new
  · exact matches_ entry old request own
  obtain rfl := List.mem_singleton.mp new
  have follows := follow t request own
  rw [Protocol.Follows,ends] at follows
  obtain ⟨timely,scans,_⟩ := undisturbed t request _ own ends
  exact follows _ (Protocol.Env.refl _ _ ⟨rfl,timely,scans⟩) _ (Protocol.Env.refl _ _ ⟨rfl,timely,scans⟩)

/-- In every run whose steps leave the sweeps undisturbed, the sessions they revoked are those they recorded. -/
theorem sweeps_match (store : Rows) (actions : List (Action τ)) (pool : Pool IdentityRow Denial Granted τ)
    (undisturbed : StateMachine.Along (Pool.step constraints fun t => (job t).program settings) (Undisturbed job)
      (Pool.initial store) actions)
    (ran : StateMachine.run (Pool.step constraints fun t => (job t).program settings) (Pool.initial store) actions = some pool) :
    SweepsMatch job pool := by
  refine (StateMachine.along_invariant _ (fun pool => SweepsFollow job pool ∧ SweepsMatch job pool) _
    (fun pool action next both undisturbed stepped => ?_) (Pool.initial store) actions pool ⟨?_,?_⟩ undisturbed ran).2
  · exact ⟨sweeps_follow_step both.1 undisturbed stepped,sweeps_match_step both.1 both.2 undisturbed stepped⟩
  · exact fun t request _ => Protocol.follows_initial store
  · exact fun entry member => absurd member List.not_mem_nil

/-- A sweep that runs alone over rows in which no session of its user is expired is undisturbed. -/
theorem undisturbed_alone (store : Rows) (t : τ) (request : Sweep) (own : job t = .revokeAll request)
    (timely : request.Timely store) (scans : request.Scans store) (actions : List (Action τ))
    (alone : ∀ action ∈ actions, action.transaction = t) :
    StateMachine.Along (Pool.step constraints fun t => (job t).program settings) (Undisturbed job) (Pool.initial store)
      actions := by
  suffices along : ∀ pool : Pool IdentityRow Denial Granted τ, (∀ u, u ≠ t → pool.phase u = .idle) →
      (pool.committed = store ∨ ∃ value, pool.phase t = .committed value) →
      StateMachine.Along (Pool.step constraints fun t => (job t).program settings) (Undisturbed job) pool actions from
    along _ (fun _ _ => rfl) (Or.inl rfl)
  induction actions with
  | nil => exact fun _ _ _ => trivial
  | cons action actions ih =>
    intro pool others rows
    have acts := alone action List.mem_cons_self
    refine ⟨fun u other body ownOther runs => ?_,fun next stepped => ?_⟩
    · have same : u = t := by
        by_contra different
        rw [others u different] at runs
        cases runs
      subst same
      obtain rfl := Job.revokeAll.inj (own.symm.trans ownOther)
      rcases rows with rfl | ⟨value,ended⟩
      · refine ⟨timely,scans,fun other value advances different => ?_⟩
        rw [advances] at acts
        exact absurd acts different
      · rw [ended] at runs
        cases runs
    · apply ih (fun later member => alone later (List.mem_cons_of_mem _ member)) next
      · intro u different
        rw [(Pool.step_other _ _ pool next action u (acts ▸ different) stepped).1,others u different]
      · rcases Pool.step_advances _ _ pool next action stepped with ⟨same,_,_⟩ | ⟨u,value,rfl,ends,rfl⟩
        · rcases rows with rfl | ⟨value,ended⟩
          · exact Or.inl same
          · subst acts
            cases action <;> simp_all [Pool.step,Action.transaction]
        · exact Or.inr ⟨value,acts ▸ Function.update_self _ _ _⟩

end Runs

section Stale

/-- A device logs in, and its owner revokes every session after the one it opened has expired. -/
def sweepAt (now : Timestamp) : Sweep where
  toContext := sampleContext now 2
  principal := ⟨1,9,.browser⟩
  listed := [1]
  visited := [1]
  drawn drawn := drawn + 1

def staleJob : Nat → Job
  | 0 => .login (loginAt (hours 2))
  | _ => .revokeAll (sweepAt (hours 4))

def staleRun : List (Action Nat) :=
  .start 0 :: List.replicate 7 (.advance 0) ++ .start 1 :: List.replicate 5 (.advance 1)

/-- The last commit of the run -/
def staleCommit : Option (Commit IdentityRow Granted Nat) :=
  (StateMachine.run (Pool.step constraints fun t => (staleJob t).program sampleSettings) (Pool.initial deviceRows)
    staleRun).bind (·.journal.getLast?)

def marks (id : SessionId) (drafts : Drafts IdentityRow) : Bool :=
  match drafts (.session id) with
  | some (.written (some row)) => row.revokedAt.isSome
  | _ => false

theorem marks_iff (id : SessionId) (drafts : Drafts IdentityRow) : marks id drafts = true ↔ id ∈ marked drafts := by
  simp only [marks,marked,Set.mem_ofPred_eq]
  split
  · rename_i row held
    simp [held]
  · rename_i unwritten
    refine iff_of_false (by simp) ?_
    rintro ⟨row,held,_⟩
    exact unwritten row held

theorem stale_commit_records_nothing (key : RevocationId) :
    staleCommit.map (fun entry => entry.drafts (.revocation key)) = some none := by
  with_unfolding_all rfl

/-- The expired session is marked, and no record says why. -/
theorem stale_session_marked_unrecorded : ∃ (pool : Pool IdentityRow Denial Granted Nat)
    (entry : Commit IdentityRow Granted Nat),
    Pool.Reachable constraints (fun t => (staleJob t).program sampleSettings) deviceRows pool ∧ entry ∈ pool.journal ∧
    staleJob entry.transaction = .revokeAll (sweepAt (hours 4)) ∧ 1 ∈ marked entry.drafts ∧ recorded entry.drafts = ∅ ∧
    ¬SweepsMatch staleJob pool := by
  have commits : staleCommit.any (fun entry => entry.transaction == 1 && marks 1 entry.drafts) = true := by decide +kernel
  simp only [Option.any_eq_true,Bool.and_eq_true,beq_iff_eq,marks_iff] at commits
  obtain ⟨entry,last,sweep,mark⟩ := commits
  have unrecorded : recorded entry.drafts = ∅ := by
    refine Set.eq_empty_of_forall_notMem ?_
    rintro id ⟨key,row,held,_⟩
    have nothing := stale_commit_records_nothing key
    rw [last,Option.map_some,Option.some.injEq,held] at nothing
    cases nothing
  obtain ⟨pool,ran,ends⟩ := Option.bind_eq_some_iff.mp last
  have member := List.mem_of_getLast? ends
  have own : staleJob entry.transaction = .revokeAll (sweepAt (hours 4)) := by
    rw [sweep]
    rfl
  refine ⟨pool,entry,⟨staleRun,ran⟩,member,own,mark,unrecorded,fun matches_ => ?_⟩
  rw [matches_ entry member _ own,unrecorded] at mark
  exact mark

/-- A session that was opened an hour before it is swept, without a device. -/
def freshRows : Rows := Function.update (fun _ => none) (.session 1)
  (some (NewSession.row ⟨1,.browser,none,"edge",some 7,hours 2,hours 2 + deviceSessionTtl⟩))

def freshSweep : Sweep := sweepAt (hours 2 + 1000000)

def freshStep := Pool.step (τ := Nat) constraints fun _ => (Job.revokeAll freshSweep).program sampleSettings

def freshRun : List (Action Nat) := .start 0 :: List.replicate 6 (.advance 0)

def sweepsFresh : Bool :=
  (StateMachine.run freshStep (Pool.initial freshRows) freshRun).any fun pool => pool.journal.any (marks 1 ·.drafts)

theorem fresh_rows_one {id : SessionId} {row : Session} (stored : freshRows (.session id) = some row) :
    id = 1 ∧ row = NewSession.row ⟨1,.browser,none,"edge",some 7,hours 2,hours 2 + deviceSessionTtl⟩ := by
  rw [freshRows] at stored
  by_cases same : id = 1
  · subst same
    rw [Function.update_self] at stored
    exact ⟨rfl,(Option.some.inj stored).symm⟩
  · rw [Function.update_of_ne (by simpa using same)] at stored
    cases stored

theorem sweeps_match_of_fresh : ∃ pool : Pool IdentityRow Denial Granted Nat,
    StateMachine.run freshStep (Pool.initial freshRows) freshRun = some pool ∧
    (∃ entry ∈ pool.journal, 1 ∈ marked entry.drafts) ∧ SweepsMatch (fun _ => .revokeAll freshSweep) pool := by
  have sweeps : sweepsFresh = true := by decide +kernel
  simp only [sweepsFresh,Option.any_eq_true,List.any_eq_true,marks_iff] at sweeps
  obtain ⟨pool,ran,mark⟩ := sweeps
  have timely : freshSweep.Timely freshRows := by
    intro id row stored _ _
    obtain ⟨_,rfl⟩ := fresh_rows_one stored
    decide +kernel
  have scans : freshSweep.Scans freshRows := by
    rintro id ⟨row,stored,_⟩
    obtain ⟨rfl,_⟩ := fresh_rows_one stored
    exact ⟨List.mem_cons_self,List.mem_cons_self⟩
  refine ⟨pool,ran,mark,sweeps_match freshRows freshRun pool ?_ ran⟩
  exact undisturbed_alone freshRows 0 freshSweep rfl timely scans freshRun (by decide)

end Stale

end Ratatoskr.Identity
