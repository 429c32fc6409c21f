import Ratatoskr.Lib.Run
import Ratatoskr.Lib.Transaction

/-! Any number of transactions interleaved statement by statement over one store. A key is held
by one transaction at most, the others wait for it, and nothing of a transaction is visible
to another before its commit. A transaction may crash between any two statements. -/
set_option linter.unusedSectionVars false

namespace Transaction

variable {κ τ : Type} {ν : κ → Type} {β α : Type}

inductive Phase (ν : κ → Type) (β α : Type) where
  | idle
  | running (body : Tx ν β α)
  | committed (value : α)
  | abandoned (answer : β)
  | refused (refusal : Refusal ν)
  | crashed

/-- One commit: who made it, what it answered and what it published. -/
structure Commit (ν : κ → Type) (α τ : Type) where
  transaction : τ
  value : α
  drafts : Drafts ν

structure Pool (ν : κ → Type) (β α τ : Type) where
  committed : Store ν
  /-- The holder of each key that is locked or has an uncommitted row. -/
  held : (key : κ) → Option (τ × Draft (ν key))
  phase : τ → Phase ν β α
  /-- The commits so far, oldest first. -/
  journal : List (Commit ν α τ)

inductive Action (τ : Type) where
  | start (transaction : τ)
  | advance (transaction : τ)
  | crash (transaction : τ)

namespace Pool

/-- No transaction has started over the committed rows. -/
def initial (store : Store ν) : Pool ν β α τ := ⟨store,fun _ => none,fun _ => .idle,[]⟩

variable [DecidableEq κ] [DecidableEq τ]

/-- What one transaction holds. -/
def drafts (pool : Pool ν β α τ) (t : τ) : Drafts ν := fun key =>
  match pool.held key with
  | some (holder,draft) => if holder = t then some draft else none
  | none => none

/-- The rows one transaction sees. -/
def view (pool : Pool ν β α τ) (t : τ) : Store ν := overlay (pool.drafts t) pool.committed

def heldByOther (pool : Pool ν β α τ) (t : τ) (key : κ) : Bool :=
  match pool.held key with
  | some (holder,_) => holder ≠ t
  | none => false

/-- Another transaction has written the key and has not ended yet. -/
def writtenByOther (pool : Pool ν β α τ) (t : τ) (key : κ) : Bool :=
  match pool.held key with
  | some (holder,.written _) => holder ≠ t
  | _ => false

def setPhase (pool : Pool ν β α τ) (t : τ) (phase : Phase ν β α) : Pool ν β α τ :=
  { pool with phase := Function.update pool.phase t phase }

/-- The transaction takes over the drafts given for one key. -/
def hold (pool : Pool ν β α τ) (t : τ) (key : κ) (drafts : Drafts ν) : Pool ν β α τ :=
  { pool with held := Function.update pool.held key ((drafts key).map fun draft => (t,draft)) }

def release (pool : Pool ν β α τ) (t : τ) : Pool ν β α τ :=
  { pool with held := fun key => (pool.held key).filter fun entry => entry.1 ≠ t }

/-- The transaction ends: its locks go, and its uncommitted rows with them. -/
def finish (pool : Pool ν β α τ) (t : τ) (phase : Phase ν β α) : Pool ν β α τ :=
  (pool.release t).setPhase t phase

def commit (pool : Pool ν β α τ) (t : τ) (value : α) : Pool ν β α τ :=
  { pool.finish t (.committed value) with
    committed := pool.view t
    journal := pool.journal ++ [⟨t,value,pool.drafts t⟩] }

/-- Issues the next statement of a body; `none` while it has to wait for another transaction. -/
def issue (accepts : Constraints ν) (pool : Pool ν β α τ) (t : τ) : Tx ν β α → Option (Pool ν β α τ)
  | .done value => some (pool.commit t value)
  | .abandon answer => some (pool.finish t (.abandoned answer))
  | .refuse key row => some (pool.finish t (.refused ⟨key,pool.view t key,row⟩))
  | .read key next => some (pool.setPhase t (.running (next (pool.view t key))))
  | .lock key matching next =>
    match (pool.view t key).filter matching with
    | none => some (pool.setPhase t (.running (next none)))
    | some row =>
      if pool.heldByOther t key then none
      else some ((pool.hold t key ((pool.drafts t).lock key)).setPhase t (.running (next (some row))))
  | .insert key row next =>
    if accepts key none row then
      if pool.writtenByOther t key then none
      else
        match pool.view t key with
        | some _ => some (pool.setPhase t (.running (next false)))
        | none =>
          if pool.heldByOther t key then none
          else some ((pool.hold t key ((pool.drafts t).put key (some row))).setPhase t (.running (next true)))
    else some (pool.finish t (.refused ⟨key,none,row⟩))
  | .write key row next =>
    if pool.heldByOther t key then none
    else if accepts key (pool.view t key) row then
      some ((pool.hold t key ((pool.drafts t).put key (some row))).setPhase t (.running next))
    else some (pool.finish t (.refused ⟨key,pool.view t key,row⟩))
  | .remove key next =>
    if pool.heldByOther t key then none
    else some ((pool.hold t key ((pool.drafts t).put key none)).setPhase t (.running next))

/-- One action of the pool, where transaction `t` runs the body `program t`. -/
def step (accepts : Constraints ν) (program : τ → Tx ν β α) (pool : Pool ν β α τ) :
    Action τ → Option (Pool ν β α τ)
  | .start t =>
    match pool.phase t with
    | .idle => some (pool.setPhase t (.running (program t)))
    | _ => none
  | .advance t =>
    match pool.phase t with
    | .running body => pool.issue accepts t body
    | _ => none
  | .crash t =>
    match pool.phase t with
    | .running _ => some (pool.finish t .crashed)
    | _ => none

section Holding

variable (pool : Pool ν β α τ) (t u : τ) (key : κ)

@[simp] theorem drafts_initial (store : Store ν) (t : τ) :
    (initial store : Pool ν β α τ).drafts t = Drafts.none := rfl

@[simp] theorem drafts_setPhase (phase : Phase ν β α) : (pool.setPhase t phase).drafts u = pool.drafts u := rfl

@[simp] theorem committed_setPhase (phase : Phase ν β α) :
    (pool.setPhase t phase).committed = pool.committed := rfl

@[simp] theorem phase_setPhase (phase : Phase ν β α) :
    (pool.setPhase t phase).phase = Function.update pool.phase t phase := rfl

@[simp] theorem journal_setPhase (phase : Phase ν β α) :
    (pool.setPhase t phase).journal = pool.journal := rfl

@[simp] theorem committed_hold (drafts : Drafts ν) : (pool.hold t key drafts).committed = pool.committed := rfl

@[simp] theorem phase_hold (drafts : Drafts ν) : (pool.hold t key drafts).phase = pool.phase := rfl

@[simp] theorem journal_hold (drafts : Drafts ν) : (pool.hold t key drafts).journal = pool.journal := rfl

@[simp] theorem committed_finish (phase : Phase ν β α) : (pool.finish t phase).committed = pool.committed := rfl

@[simp] theorem phase_finish (phase : Phase ν β α) :
    (pool.finish t phase).phase = Function.update pool.phase t phase := rfl

@[simp] theorem journal_finish (phase : Phase ν β α) : (pool.finish t phase).journal = pool.journal := rfl

theorem drafts_finish_self (phase : Phase ν β α) : (pool.finish t phase).drafts t = Drafts.none := by
  funext key
  simp only [finish,release,drafts,setPhase,Drafts.none]
  rcases pool.held key with _ | ⟨holder,draft⟩
  · rfl
  · by_cases own : holder = t <;> simp [Option.filter,own]

theorem drafts_finish_other (phase : Phase ν β α) (different : u ≠ t) :
    (pool.finish t phase).drafts u = pool.drafts u := by
  funext key
  simp only [finish,release,drafts,setPhase]
  rcases pool.held key with _ | ⟨holder,draft⟩
  · rfl
  · by_cases own : holder = t
    · simp [Option.filter,own,different.symm]
    · simp [Option.filter,own]

@[simp] theorem committed_commit (value : α) : (pool.commit t value).committed = pool.view t := rfl

@[simp] theorem phase_commit (value : α) :
    (pool.commit t value).phase = Function.update pool.phase t (.committed value) := rfl

@[simp] theorem journal_commit (value : α) :
    (pool.commit t value).journal = pool.journal ++ [⟨t,value,pool.drafts t⟩] := rfl

@[simp] theorem drafts_commit (value : α) :
    (pool.commit t value).drafts u = (pool.finish t (.committed value)).drafts u := rfl

theorem drafts_hold_self (drafts : Drafts ν) :
    (pool.hold t key drafts).drafts t = Function.update (pool.drafts t) key (drafts key) := by
  funext other
  by_cases same : other = key
  · subst same
    cases draft : drafts other <;> simp [hold,Pool.drafts,draft]
  · simp [hold,Pool.drafts,same]

/-- A key that nobody else holds belongs to no other transaction, before or after. -/
theorem drafts_hold_other (drafts : Drafts ν) (different : u ≠ t) (free : pool.heldByOther t key = false) :
    (pool.hold t key drafts).drafts u = pool.drafts u := by
  funext other
  by_cases same : other = key
  · subst same
    rcases held : pool.held other with _ | ⟨holder,draft⟩
    · cases draft : drafts other <;> simp [hold,Pool.drafts,held,draft,different.symm]
    · simp only [heldByOther,held,ne_eq,decide_not,Bool.not_eq_false',decide_eq_true_eq] at free
      cases draft : drafts other <;> simp [hold,Pool.drafts,held,draft,free,different.symm]
  · simp [hold,Pool.drafts,same]

/-- A commit leaves alone the keys that another transaction holds. -/
theorem view_of_held_by_other (different : u ≠ t) (held : (pool.drafts u key).isSome) :
    pool.view t key = pool.committed key := by
  simp only [drafts] at held
  simp only [view,overlay,drafts]
  rcases entry : pool.held key with _ | ⟨holder,draft⟩
  · rfl
  · by_cases own : holder = u
    · simp [own,different]
    · simp [entry,own] at held

end Holding

/-- What issuing one statement can do to the pool. -/
inductive Issued (pool : Pool ν β α τ) (t : τ) : Pool ν β α τ → Prop where
  | committed (value : α) (runs : pool.phase t = .running (.done value)) : Issued pool t (pool.commit t value)
  | ended (phase : Phase ν β α) (failed : ∀ value, phase ≠ .committed value) :
      Issued pool t (pool.finish t phase)
  | continued (rest : Tx ν β α) : Issued pool t (pool.setPhase t (.running rest))
  | held (key : κ) (drafts : Drafts ν) (rest : Tx ν β α) (free : pool.heldByOther t key = false) :
      Issued pool t ((pool.hold t key drafts).setPhase t (.running rest))

theorem issue_cases (accepts : Constraints ν) (pool next : Pool ν β α τ) (t : τ) (body : Tx ν β α)
    (runs : pool.phase t = .running body) (issued : pool.issue accepts t body = some next) :
    Issued pool t next := by
  cases body with
  | done value =>
    obtain rfl := Option.some.inj issued
    exact .committed value runs
  | abandon answer =>
    obtain rfl := Option.some.inj issued
    exact .ended _ fun _ same => by cases same
  | refuse key row =>
    obtain rfl := Option.some.inj issued
    exact .ended _ fun _ same => by cases same
  | read key rest =>
    obtain rfl := Option.some.inj issued
    exact .continued _
  | lock key matching rest =>
    rw [issue] at issued
    split at issued
    · obtain rfl := Option.some.inj issued
      exact .continued _
    · simp only [Option.ite_none_left_eq_some,Option.some.injEq,Bool.not_eq_true] at issued
      obtain ⟨free,rfl⟩ := issued
      exact .held key _ _ free
  | insert key row rest =>
    rw [issue] at issued
    split at issued
    · simp only [Option.ite_none_left_eq_some] at issued
      obtain ⟨_,issued⟩ := issued
      split at issued
      · obtain rfl := Option.some.inj issued
        exact .continued _
      · simp only [Option.ite_none_left_eq_some,Option.some.injEq,Bool.not_eq_true] at issued
        obtain ⟨free,rfl⟩ := issued
        exact .held key _ _ free
    · obtain rfl := Option.some.inj issued
      exact .ended _ fun _ same => by cases same
  | write key row rest =>
    simp only [issue,Option.ite_none_left_eq_some,Bool.not_eq_true] at issued
    obtain ⟨free,issued⟩ := issued
    split at issued
    · obtain rfl := Option.some.inj issued
      exact .held key _ _ free
    · obtain rfl := Option.some.inj issued
      exact .ended _ fun _ same => by cases same
  | remove key rest =>
    simp only [issue,Option.ite_none_left_eq_some,Option.some.injEq,Bool.not_eq_true] at issued
    obtain ⟨free,rfl⟩ := issued
    exact .held key _ _ free

/-- A statement of one transaction leaves the others where they are. -/
theorem Issued.other {pool next : Pool ν β α τ} {t u : τ} (issued : Issued pool t next)
    (different : u ≠ t) : next.phase u = pool.phase u ∧ next.drafts u = pool.drafts u := by
  cases issued with
  | committed value => exact ⟨by simp [different],drafts_finish_other pool t u (.committed value) different⟩
  | ended phase => exact ⟨by simp [different],drafts_finish_other pool t u phase different⟩
  | continued => exact ⟨by simp [different],rfl⟩
  | held key drafts rest free =>
    exact ⟨by simp [different],drafts_hold_other pool t u key drafts different free⟩

end Pool

/-- What a phase can still come to, by the values a body may end with. -/
def Phase.Tends (values : α → Prop) : Phase ν β α → Prop
  | .running body => Returns values body
  | .committed value => values value
  | _ => True

theorem Pool.issue_tends [DecidableEq κ] [DecidableEq τ] (accepts : Constraints ν) {values : α → Prop}
    {pool next : Pool ν β α τ} {t : τ} {body : Tx ν β α} (returns : Returns values body)
    (issued : pool.issue accepts t body = some next) : (next.phase t).Tends values := by
  cases body with
  | done value =>
    obtain rfl := Option.some.inj issued
    simpa [Phase.Tends,Returns] using returns
  | abandon | refuse =>
    obtain rfl := Option.some.inj issued
    simp [Phase.Tends]
  | read key rest =>
    obtain rfl := Option.some.inj issued
    simpa [Phase.Tends] using returns _
  | lock key matching rest =>
    rw [issue] at issued
    split at issued
    · obtain rfl := Option.some.inj issued
      simpa [Phase.Tends] using returns _
    · simp only [Option.ite_none_left_eq_some,Option.some.injEq] at issued
      obtain ⟨_,rfl⟩ := issued
      simpa [Phase.Tends] using returns _
  | insert key row rest =>
    rw [issue] at issued
    split at issued
    · simp only [Option.ite_none_left_eq_some] at issued
      obtain ⟨_,issued⟩ := issued
      split at issued
      · obtain rfl := Option.some.inj issued
        simpa [Phase.Tends] using returns _
      · simp only [Option.ite_none_left_eq_some,Option.some.injEq] at issued
        obtain ⟨_,rfl⟩ := issued
        simpa [Phase.Tends] using returns _
    · obtain rfl := Option.some.inj issued
      simp [Phase.Tends]
  | write key row rest =>
    simp only [issue,Option.ite_none_left_eq_some] at issued
    obtain ⟨_,issued⟩ := issued
    split at issued
    · obtain rfl := Option.some.inj issued
      simpa [Phase.Tends,Returns] using returns
    · obtain rfl := Option.some.inj issued
      simp [Phase.Tends]
  | remove key rest =>
    simp only [issue,Option.ite_none_left_eq_some,Option.some.injEq] at issued
    obtain ⟨_,rfl⟩ := issued
    simpa [Phase.Tends,Returns] using returns

def Action.transaction : Action τ → τ
  | .start t => t
  | .advance t => t
  | .crash t => t

namespace Pool

variable [DecidableEq κ] [DecidableEq τ]

theorem step_other (accepts : Constraints ν) (program : τ → Tx ν β α) (pool next : Pool ν β α τ)
    (action : Action τ) (u : τ) (different : u ≠ action.transaction)
    (stepped : pool.step accepts program action = some next) :
    next.phase u = pool.phase u ∧ next.drafts u = pool.drafts u := by
  cases action with
  | start t =>
    simp only [step] at stepped
    split at stepped
    · obtain rfl := Option.some.inj stepped
      exact ⟨Function.update_of_ne different _ _,rfl⟩
    · simp at stepped
  | advance t =>
    simp only [step] at stepped
    split at stepped
    · exact (issue_cases accepts pool next t _ ‹_› stepped).other different
    · simp at stepped
  | crash t =>
    simp only [step] at stepped
    split at stepped
    · obtain rfl := Option.some.inj stepped
      exact ⟨Function.update_of_ne different _ _,drafts_finish_other pool t u .crashed different⟩
    · simp at stepped

/-- A transaction that has committed takes no further step. -/
theorem step_stays (accepts : Constraints ν) (program : τ → Tx ν β α) (pool next : Pool ν β α τ) (action : Action τ)
    (t : τ) (value : α) (ended : pool.phase t = .committed value)
    (stepped : pool.step accepts program action = some next) : next.phase t = .committed value := by
  by_cases own : t = action.transaction
  · subst own
    cases action <;> simp_all [step,Action.transaction]
  · rw [(step_other accepts program pool next action t own stepped).1,ended]

/-- The committed rows and the journal change where a body that is done advances, and nowhere else. -/
theorem step_advances (accepts : Constraints ν) (program : τ → Tx ν β α) (pool next : Pool ν β α τ)
    (action : Action τ) (stepped : pool.step accepts program action = some next) :
    (next.committed = pool.committed ∧ next.journal = pool.journal ∧
      ∀ u value, next.phase u = .committed value → pool.phase u = .committed value) ∨
    ∃ t value, action = .advance t ∧ pool.phase t = .running (.done value) ∧ next = pool.commit t value := by
  have finished (t : τ) (phase : Phase ν β α) (failed : ∀ value, phase ≠ .committed value) (u : τ)
      (value : α) (ended : Function.update pool.phase t phase u = .committed value) :
      pool.phase u = .committed value := by
    by_cases same : u = t
    · subst same
      rw [Function.update_self] at ended
      exact (failed value ended).elim
    · rwa [Function.update_of_ne same] at ended
  cases action with
  | start t =>
    simp only [step] at stepped
    split at stepped
    · obtain rfl := Option.some.inj stepped
      exact Or.inl ⟨rfl,rfl,finished t _ nofun⟩
    · simp at stepped
  | advance t =>
    simp only [step] at stepped
    split at stepped
    · cases issue_cases accepts pool next t _ ‹_› stepped with
      | committed value runs => exact Or.inr ⟨t,value,rfl,runs,rfl⟩
      | ended phase failed => exact Or.inl ⟨rfl,rfl,finished t phase failed⟩
      | continued rest => exact Or.inl ⟨rfl,rfl,finished t _ nofun⟩
      | held key drafts rest free => exact Or.inl ⟨rfl,rfl,finished t _ nofun⟩
    · simp at stepped
  | crash t =>
    simp only [step] at stepped
    split at stepped
    · obtain rfl := Option.some.inj stepped
      exact Or.inl ⟨rfl,rfl,finished t _ nofun⟩
    · simp at stepped

theorem step_commits (accepts : Constraints ν) (program : τ → Tx ν β α) (pool next : Pool ν β α τ)
    (action : Action τ) (stepped : pool.step accepts program action = some next) :
    (next.committed = pool.committed ∧ next.journal = pool.journal ∧
      ∀ u value, next.phase u = .committed value → pool.phase u = .committed value) ∨
    ∃ t value, pool.phase t = .running (.done value) ∧ next = pool.commit t value :=
  (step_advances accepts program pool next action stepped).imp_right fun ⟨t,value,_,runs,same⟩ => ⟨t,value,runs,same⟩

/-- The rows left by the commits of a journal, one after the other. -/
def replay (store : Store ν) (journal : List (Commit ν α τ)) : Store ν :=
  journal.foldl (fun rows entry => overlay entry.drafts rows) store

/-- Some schedule leads to this pool from the given committed rows. -/
def Reachable (accepts : Constraints ν) (program : τ → Tx ν β α) (store : Store ν)
    (pool : Pool ν β α τ) : Prop :=
  ∃ actions, StateMachine.run (step accepts program) (initial store) actions = some pool

section Reached

variable {accepts : Constraints ν} {program : τ → Tx ν β α} {store : Store ν} {pool next : Pool ν β α τ}

theorem Reachable.step (reached : Reachable accepts program store pool) (action : Action τ)
    (stepped : pool.step accepts program action = some next) : Reachable accepts program store next := by
  obtain ⟨actions,ran⟩ := reached
  refine ⟨actions ++ [action],(StateMachine.run_append_eq_some _ _ _ _ _).mpr ⟨pool,ran,?_⟩⟩
  exact (StateMachine.run_cons_eq_some _ _ _ _ _).mpr ⟨next,stepped,rfl⟩

theorem Reachable.run (reached : Reachable accepts program store pool) (actions : List (Action τ))
    (ran : StateMachine.run (Pool.step accepts program) pool actions = some next) :
    Reachable accepts program store next := by
  obtain ⟨before,first⟩ := reached
  exact ⟨before ++ actions,(StateMachine.run_append_eq_some _ _ _ _ _).mpr ⟨pool,first,ran⟩⟩

/-- Nothing but the commits of the journal is in the committed rows. -/
theorem committed_replay (reached : Reachable accepts program store pool) :
    pool.committed = replay store pool.journal := by
  obtain ⟨actions,ran⟩ := reached
  refine StateMachine.run_invariant _ (fun pool => pool.committed = replay store pool.journal) ?_ _ actions
    pool rfl ran
  intro pool action next replayed stepped
  rcases step_commits accepts program pool next action stepped with ⟨rows,journal,_⟩ | ⟨t,value,_,rfl⟩
  · rw [rows,journal,replayed]
  · simp [view,replay,replayed]

/-- A transaction is in the journal once it answered with a commit, and only then. -/
theorem committed_of_journal (reached : Reachable accepts program store pool) (entry : Commit ν α τ)
    (member : entry ∈ pool.journal) : pool.phase entry.transaction = .committed entry.value := by
  obtain ⟨actions,ran⟩ := reached
  refine StateMachine.run_invariant _ (fun pool : Pool ν β α τ =>
    ∀ entry ∈ pool.journal, pool.phase entry.transaction = .committed entry.value) ?_ _ actions pool
    (by simp [initial]) ran entry member
  intro pool action next earlier stepped entry member
  have stays (own : entry ∈ pool.journal) : next.phase entry.transaction = .committed entry.value := by
    have ended := earlier entry own
    by_cases same : entry.transaction = action.transaction
    · exfalso
      cases action <;> simp_all [step,Action.transaction]
    · rw [(step_other accepts program pool next action _ same stepped).1,ended]
  rcases step_commits accepts program pool next action stepped with ⟨_,journal,_⟩ | ⟨t,value,runs,rfl⟩
  · exact stays (journal ▸ member)
  · rcases List.mem_append.mp member with old | new
    · exact stays old
    · obtain rfl := List.mem_singleton.mp new
      simp

theorem journal_of_committed (reached : Reachable accepts program store pool) (t : τ) (value : α)
    (ended : pool.phase t = .committed value) :
    ∃ entry ∈ pool.journal, entry.transaction = t ∧ entry.value = value := by
  obtain ⟨actions,ran⟩ := reached
  refine StateMachine.run_invariant _ (fun pool : Pool ν β α τ => ∀ t value, pool.phase t = .committed value →
    ∃ entry ∈ pool.journal, entry.transaction = t ∧ entry.value = value) ?_ _ actions pool
    (by simp [initial]) ran t value ended
  intro pool action next earlier stepped u value ended
  rcases step_commits accepts program pool next action stepped with ⟨_,journal,before⟩ | ⟨t,own,_,rfl⟩
  · exact journal ▸ earlier u value (before u value ended)
  · by_cases same : u = t
    · subst same
      simp only [phase_commit,Function.update_self,Phase.committed.injEq] at ended
      subst ended
      simp
    · rw [phase_commit,Function.update_of_ne same] at ended
      obtain ⟨entry,member,matches_⟩ := earlier u value ended
      exact ⟨entry,List.mem_append_left _ member,matches_⟩

/-- A transaction ends with one of the values its body may end with. -/
theorem returned (values : τ → α → Prop) (returns : ∀ t, Returns (values t) (program t))
    (reached : Reachable accepts program store pool) (t : τ) : (pool.phase t).Tends (values t) := by
  obtain ⟨actions,ran⟩ := reached
  refine StateMachine.run_invariant _ (fun pool : Pool ν β α τ => ∀ t, (pool.phase t).Tends (values t)) ?_
    (initial store) actions pool (fun _ => trivial) ran t
  intro pool action next tends stepped u
  rcases ne_or_eq u action.transaction with different | rfl
  · rw [(step_other accepts program pool next action u different stepped).1]
    exact tends u
  cases action with
  | start t =>
    simp only [step] at stepped
    split at stepped
    · obtain rfl := Option.some.inj stepped
      simpa [Action.transaction,Phase.Tends] using returns t
    · simp at stepped
  | crash t =>
    simp only [step] at stepped
    split at stepped
    · obtain rfl := Option.some.inj stepped
      simp [Action.transaction,Phase.Tends]
    · simp at stepped
  | advance t =>
    have here := tends t
    simp only [step] at stepped
    split at stepped
    · rename_i body runs
      rw [runs] at here
      exact issue_tends accepts here stepped
    · simp at stepped

end Reached

end Pool
end Transaction
