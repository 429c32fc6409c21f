import Ratatoskr.Archives.Reopening

/-! The life of a resumption token: it is drawn, has one session whose declaration stays, which ends at most once, and is then
gone for ever. The tables of the service refine this. -/
namespace Ratatoskr.Archives

open Operations PublicApi

/-- The state of one token; a session is its declaration and whether it is still open. -/
inductive Life where
  | unborn
  | lives (state : SessionState) (declared : Transfer)
  | gone

/-- How the life of a token may go on. -/
def Life.Onward : Life → Life → Prop
  | .unborn,_ => True
  | .lives state declared,later =>
    later = .gone ∨ ∃ new, later = .lives new declared ∧ (new = state ∨ state = .open_)
  | .gone,later => later = .gone

theorem Life.Onward.refl (life : Life) : life.Onward life := by
  cases life with
  | unborn => trivial
  | lives state declared => exact Or.inr ⟨state,rfl,Or.inl rfl⟩
  | gone => rfl

theorem Life.Onward.trans {first second third : Life} (one : first.Onward second) (two : second.Onward third) : first.Onward third := by
  cases first with
  | unborn => trivial
  | lives state declared =>
    rcases one with rfl | ⟨new,rfl,moved⟩
    · exact Or.inl two
    · rcases two with rfl | ⟨newer,rfl,again⟩
      · exact Or.inl rfl
      · refine Or.inr ⟨newer,rfl,?_⟩
        rcases again with rfl | opened
        · exact moved
        · exact Or.inr (moved.elim (fun same => same ▸ opened) id)
  | gone =>
    cases one
    exact two

/-- The life of a token in the tables -/
def World.life (world : World) (token : Token) : Life :=
  match world.tables.session token with
  | some row => .lives row.sessionState { row with sessionState := .open_ }
  | none => if token ∈ world.minted then .gone else .unborn

section Moves

variable {world later : World}

theorem life_of_session {token : Token} {row : Transfer} (found : world.tables.session token = some row) :
    world.life token = .lives row.sessionState { row with sessionState := .open_ } := by
  rw [World.life,found]

theorem life_of_none {token : Token} (absent : world.tables.session token = none) (minted : token ∈ world.minted) :
    world.life token = .gone := by
  rw [World.life,absent]
  exact if_pos minted

/-- The sessions move as the lives of their tokens may. -/
theorem Moved.life (moved : Moved world later) (sessions : Sessions world) (token : Token) :
    (world.life token).Onward (later.life token) := by
  cases found : world.tables.session token with
  | some row =>
    obtain ⟨stored,same⟩ := Tables.session_eq_some found
    have minted : token ∈ world.minted := same ▸ sessions.minted row stored
    rw [life_of_session found]
    cases after : later.tables.session token with
    | none => exact Or.inl (life_of_none after (moved.minted token minted))
    | some new =>
      obtain ⟨there,equal⟩ := Tables.session_eq_some after
      rcases moved.came new there with ⟨old,known,ages⟩ | fresh
      · obtain rfl := eq_of_token sessions known stored (ages.token.symm.trans (equal.trans same.symm))
        refine Or.inr ⟨new.sessionState,?_,ages.sessionState⟩
        rw [life_of_session after,ages.declared]
      · exact absurd (equal ▸ minted) fresh
  | none =>
    by_cases minted : token ∈ world.minted
    · rw [life_of_none found minted]
      refine life_of_none (Option.eq_none_iff_forall_not_mem.mpr fun new after => ?_) (moved.minted token minted)
      obtain ⟨there,equal⟩ := Tables.session_eq_some after
      rcases moved.came new there with ⟨old,known,ages⟩ | fresh
      · have present := Tables.session_isSome known
        rw [ages.token.symm.trans equal,found] at present
        cases present
      · exact absurd (equal ▸ minted) fresh
    · have unborn : world.life token = .unborn := by
        rw [World.life,found]
        exact if_neg minted
      rw [unborn]
      trivial

end Moves

section Runs

variable (library : Library)

theorem step_sessions (system next : System) (action : Action) (sessions : Sessions system.world)
    (stepped : step library system action = some next) : Sessions next.world ∧ Moved system.world next.world := by
  rcases Tasks.step_cases action stepped with ⟨_,_,_,_,rfl⟩ | ⟨number,event,task,world,after,_,_,turn,rfl⟩ | ⟨_,_,_,_,rfl⟩ |
    ⟨move,world,_,moved,rfl⟩
  · exact ⟨sessions,.refl _⟩
  · exact sessions_effect sessions (Task.resume_effect library number task event turn)
  · exact ⟨sessions,.refl _⟩
  · exact sessions_outside sessions move moved

theorem initial_sessions (operations : Db) (clock : Timestamp) : Sessions (initial operations clock).world :=
  ⟨List.nodup_nil,List.nodup_nil,fun _ stored => absurd stored List.not_mem_nil⟩

/-- However the turns fall, every token lives on as it may. -/
theorem token_lives (operations : Db) (clock : Timestamp) (before after : List Action) (system final : System)
    (ran : StateMachine.run (step library) (initial operations clock) before = some system)
    (on : StateMachine.run (step library) system after = some final) (token : Token) :
    (system.world.life token).Onward (final.world.life token) := by
  have sessions : Sessions system.world :=
    StateMachine.run_invariant (step library) (fun system => Sessions system.world)
      (fun system action next valid stepped => (step_sessions library system next action valid stepped).1) _ before system
      (initial_sessions operations clock) ran
  exact StateMachine.run_relation (step library) (fun system => Sessions system.world)
    (fun system later => (system.world.life token).Onward (later.world.life token)) (fun _ => .refl _) (fun _ _ _ => .trans)
    (fun system action next valid stepped => (step_sessions library system next action valid stepped).1)
    (fun system action next valid stepped => (step_sessions library system next action valid stepped).2.life valid token)
    system after final sessions on

end Runs

/-- A session expires, its operation is opened anew, and its token is gone. -/
theorem token_lives_replaced : ∃ system final,
    StateMachine.run (step sampleLibrary) (initial sampleOperations 0) (looks 0 ++ inserts 0 "rst_00000000000000000000000000000000") =
        some system ∧
      StateMachine.run (step sampleLibrary) system ([.outside (.tick (dayLater 0))] ++ looks 1 ++ [.resume 1 (.statement .done)]) =
        some final ∧
      ∀ token, (system.world.life token).Onward (final.world.life token) := by
  have ran : ((StateMachine.run (step sampleLibrary) (initial sampleOperations 0)
      (looks 0 ++ inserts 0 "rst_00000000000000000000000000000000")).bind fun system =>
        StateMachine.run (step sampleLibrary) system
          ([.outside (.tick (dayLater 0))] ++ looks 1 ++ [.resume 1 (.statement .done)])).isSome := by
    decide +kernel
  obtain ⟨final,ended⟩ := Option.isSome_iff_exists.mp ran
  obtain ⟨system,first,second⟩ := Option.bind_eq_some_iff.mp ended
  exact ⟨system,final,first,second,token_lives sampleLibrary sampleOperations 0 _ _ system final first second⟩

end Ratatoskr.Archives
