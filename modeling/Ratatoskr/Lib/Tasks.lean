import Mathlib.Data.List.Induction
import Mathlib.Logic.Function.Basic
import Ratatoskr.Lib.Run

/-! Any number of tasks that take turns on one shared world. What a task may rely on between two of its
turns is what every other turn keeps; an invariant that a task states about the world and itself then
holds however the turns fall. -/
namespace Tasks

/-- The shared world and the tasks by number; a number names one task for ever. -/
structure System (ω τ : Type) where
  world : ω
  tasks : Nat → Option τ

inductive Action (ε κ η : Type) where
  | begin_ (number : Nat) (call : κ)
  | resume (number : Nat) (event : ε)
  | drop (number : Nat)
  | outside (move : η)

/-- How a call begins, what a task does in a turn, and what moves the world from outside. -/
structure Machine (ω τ ε κ η : Type) where
  begin_ : ω → κ → τ
  resume : Nat → ω → ε → τ → Option (ω × τ)
  dropped : τ
  outside : ω → η → Option ω

variable {ω τ ε κ η : Type} (machine : Machine ω τ ε κ η)

def System.put (system : System ω τ) (number : Nat) (world : ω) (task : τ) : System ω τ :=
  ⟨world,Function.update system.tasks number (some task)⟩

def Machine.step (system : System ω τ) : Action ε κ η → Option (System ω τ)
  | .begin_ number call =>
    if (system.tasks number).isSome then none
    else some (system.put number system.world (machine.begin_ system.world call))
  | .resume number event =>
    (system.tasks number).bind fun task => (machine.resume number system.world event task).map fun turn =>
      system.put number turn.1 turn.2
  | .drop number => (system.tasks number).map fun _ => system.put number system.world machine.dropped
  | .outside move => (machine.outside system.world move).map fun world => { system with world := world }

variable {machine} {system next : System ω τ}

/-- Each way a step can have gone. -/
theorem step_cases (action : Action ε κ η) (stepped : machine.step system action = some next) :
    (∃ number call, action = .begin_ number call ∧ system.tasks number = none ∧
      next = system.put number system.world (machine.begin_ system.world call)) ∨
    (∃ number event task world after, action = .resume number event ∧ system.tasks number = some task ∧
      machine.resume number system.world event task = some (world,after) ∧ next = system.put number world after) ∨
    (∃ number task, action = .drop number ∧ system.tasks number = some task ∧
      next = system.put number system.world machine.dropped) ∨
    ∃ move world, action = .outside move ∧ machine.outside system.world move = some world ∧
      next = { system with world := world } := by
  cases action with
  | begin_ number call =>
    rw [Machine.step] at stepped
    split at stepped
    · cases stepped
    · rename_i absent
      exact Or.inl ⟨number,call,rfl,Option.not_isSome_iff_eq_none.mp absent,(Option.some.inj stepped).symm⟩
  | resume number event =>
    obtain ⟨task,stored,stepped⟩ := Option.bind_eq_some_iff.mp stepped
    obtain ⟨⟨world,after⟩,turn,rfl⟩ := Option.map_eq_some_iff.mp stepped
    exact Or.inr (Or.inl ⟨number,event,task,world,after,rfl,stored,turn,rfl⟩)
  | drop number =>
    obtain ⟨task,stored,rfl⟩ := Option.map_eq_some_iff.mp stepped
    exact Or.inr (Or.inr (Or.inl ⟨number,task,rfl,stored,rfl⟩))
  | outside move =>
    obtain ⟨world,moved,rfl⟩ := Option.map_eq_some_iff.mp stepped
    exact Or.inr (Or.inr (Or.inr ⟨move,world,rfl,moved,rfl⟩))

/-- A task of the system after a turn is the one that had it or one that was there. -/
theorem task_put {number other : Nat} {world : ω} {task found : τ}
    (there : (system.put number world task).tasks other = some found) :
    other = number ∧ found = task ∨ other ≠ number ∧ system.tasks other = some found := by
  by_cases same : other = number
  · subst same
    simp only [System.put,Function.update_self,Option.some.injEq] at there
    exact Or.inl ⟨rfl,there.symm⟩
  · simp only [System.put,Function.update_of_ne same] at there
    exact Or.inr ⟨same,there⟩

/-- What is not begun after a turn was not before it, and it is another's turn. -/
theorem unborn_put {number other : Nat} {world : ω} {task : τ} (absent : (system.put number world task).tasks other = none) :
    other ≠ number ∧ system.tasks other = none := by
  by_cases same : other = number
  · subst same
    simp only [System.put,Function.update_self,reduceCtorEq] at absent
  · simp only [System.put,Function.update_of_ne same] at absent
    exact ⟨same,absent⟩

/-- The task that an action moves. -/
def Action.number : Action ε κ η → Option Nat
  | .begin_ number _ | .resume number _ | .drop number => some number
  | .outside _ => none

/-- A task that no action of a run moves is where it was. -/
theorem Machine.untouched (number : Nat) (actions : List (Action ε κ η))
    (elsewhere : ∀ action ∈ actions, action.number ≠ some number) (ran : StateMachine.run machine.step system actions = some next) :
    next.tasks number = system.tasks number := by
  induction actions generalizing system with
  | nil => rw [← Option.some.inj ran]
  | cons action actions ih =>
    obtain ⟨middle,stepped,rest⟩ := (StateMachine.run_cons_eq_some _ _ _ _ _).mp ran
    rw [ih (fun later member => elsewhere later (List.mem_cons_of_mem _ member)) rest]
    have other := elsewhere action List.mem_cons_self
    rcases step_cases action stepped with ⟨moved,call,rfl,_,rfl⟩ | ⟨moved,event,task,world,after,rfl,_,_,rfl⟩ |
      ⟨moved,task,rfl,_,rfl⟩ | ⟨move,world,rfl,_,rfl⟩
    · exact Function.update_of_ne (fun same => other (congrArg some same.symm)) ..
    · exact Function.update_of_ne (fun same => other (congrArg some same.symm)) ..
    · exact Function.update_of_ne (fun same => other (congrArg some same.symm)) ..
    · rfl

/-- What holds of the world, and of the world and each task. -/
structure Holds (World : ω → Prop) (Local : ω → Nat → τ → Prop) (system : System ω τ) : Prop where
  world : World system.world
  tasks : ∀ number task, system.tasks number = some task → Local system.world number task

/-- A turn that meets the condition keeps the two invariants and moves the world as every other task may rely on,
and what a task holds survives such a move. -/
structure Machine.Keeps (machine : Machine ω τ ε κ η) (Condition : System ω τ → Action ε κ η → Prop)
    (World : ω → Prop) (Rely : Nat → ω → ω → Prop) (Local : ω → Nat → τ → Prop) : Prop where
  begins : ∀ world number call, World world → Local world number (machine.begin_ world call)
  drops : ∀ world number, World world → Local world number machine.dropped
  stays : ∀ world later number task, World world → Rely number world later → Local world number task → Local later number task
  resumes : ∀ (system : System ω τ) number event task later after, Condition system (.resume number event) →
    system.tasks number = some task → Holds World Local system →
    machine.resume number system.world event task = some (later,after) →
    World later ∧ Local later number after ∧ ∀ other, other ≠ number → Rely other system.world later
  outside : ∀ world move later, World world → machine.outside world move = some later →
    World later ∧ ∀ other, Rely other world later

variable {Condition : System ω τ → Action ε κ η → Prop} {World : ω → Prop} {Rely : Nat → ω → ω → Prop}
  {Local : ω → Nat → τ → Prop}

theorem Machine.Keeps.step (keeps : machine.Keeps Condition World Rely Local) (holds : Holds World Local system)
    (action : Action ε κ η) (met : Condition system action) (stepped : machine.step system action = some next) :
    Holds World Local next := by
  rcases step_cases action stepped with ⟨number,call,rfl,_,rfl⟩ | ⟨number,event,task,world,after,rfl,stored,turn,rfl⟩ |
    ⟨number,task,rfl,_,rfl⟩ | ⟨move,world,rfl,moved,rfl⟩
  · refine ⟨holds.world,fun other found there => ?_⟩
    rcases task_put there with ⟨rfl,rfl⟩ | ⟨_,there⟩
    · exact keeps.begins _ _ call holds.world
    · exact holds.tasks other found there
  · obtain ⟨valid,own,onward⟩ := keeps.resumes system number event task world after met stored holds turn
    refine ⟨valid,fun other found there => ?_⟩
    rcases task_put there with ⟨rfl,rfl⟩ | ⟨different,there⟩
    · exact own
    · exact keeps.stays _ _ other found holds.world (onward other different) (holds.tasks other found there)
  · refine ⟨holds.world,fun other found there => ?_⟩
    rcases task_put there with ⟨rfl,rfl⟩ | ⟨_,there⟩
    · exact keeps.drops _ _ holds.world
    · exact holds.tasks other found there
  · obtain ⟨valid,onward⟩ := keeps.outside _ move world holds.world moved
    exact ⟨valid,fun other found there => keeps.stays _ _ other found holds.world (onward other) (holds.tasks other found there)⟩

/-- A step moves the world as some task may rely on. -/
theorem Machine.Keeps.moves (keeps : machine.Keeps Condition World Rely Local) (still : ∀ number world, Rely number world world)
    (holds : Holds World Local system) (action : Action ε κ η) (met : Condition system action)
    (stepped : machine.step system action = some next) : ∃ number, Rely number system.world next.world := by
  rcases step_cases action stepped with ⟨number,call,rfl,_,rfl⟩ | ⟨number,event,task,world,after,rfl,stored,turn,rfl⟩ |
    ⟨number,task,rfl,_,rfl⟩ | ⟨move,world,rfl,moved,rfl⟩
  · exact ⟨number,still _ _⟩
  · obtain ⟨_,_,onward⟩ := keeps.resumes system number event task world after met stored holds turn
    exact ⟨number + 1,onward _ (Nat.succ_ne_self number)⟩
  · exact ⟨number,still _ _⟩
  · exact ⟨0,(keeps.outside _ move world holds.world moved).2 0⟩

/-- Along a run whose turns all meet the condition the invariants hold. -/
theorem Machine.Keeps.run (keeps : machine.Keeps Condition World Rely Local) (actions : List (Action ε κ η))
    (along : StateMachine.Along machine.step Condition system actions) (holds : Holds World Local system)
    (ran : StateMachine.run machine.step system actions = some next) : Holds World Local next :=
  StateMachine.along_invariant machine.step (Holds World Local) Condition
    (fun _ action _ valid met stepped => keeps.step valid action met stepped) system actions next holds along ran

/-- What the invariants imply holds all along such a run. -/
theorem Machine.Keeps.throughout (keeps : machine.Keeps Condition World Rely Local) {Property : System ω τ → Prop}
    (implied : ∀ system, Holds World Local system → Property system) (actions : List (Action ε κ η))
    (along : StateMachine.Along machine.step Condition system actions) (holds : Holds World Local system) :
    StateMachine.Throughout machine.step Property system actions :=
  StateMachine.throughout_of_along machine.step (Holds World Local) Property Condition
    (fun _ action _ valid met stepped => keeps.step valid action met stepped) implied system actions holds along

theorem step_resume {system : System ω τ} {number : Nat} {event : ε} {task after : τ} {world : ω} (stored : system.tasks number = some task)
    (turn : machine.resume number system.world event task = some (world,after)) :
    machine.step system (.resume number event) = some (system.put number world after) := by
  rw [Machine.step,stored,Option.bind_some,turn]
  rfl

/-- What is true of a task and the actions so far: it holds where a task begins or is dropped, the turns of other tasks
keep it, and each turn of its own makes it true again. -/
structure Machine.Remembers (machine : Machine ω τ ε κ η) (start : System ω τ) (Past : List (Action ε κ η) → Nat → τ → Prop) : Prop where
  begins : ∀ before world number call, Past before number (machine.begin_ world call)
  drops : ∀ before number, Past before number machine.dropped
  stays : ∀ before action number task, action.number ≠ some number → Past before number task → Past (before ++ [action]) number task
  resumes : ∀ before (system : System ω τ) number event task later after,
    StateMachine.run machine.step start before = some system → system.tasks number = some task → Past before number task →
    machine.resume number system.world event task = some (later,after) → Past (before ++ [.resume number event]) number after

theorem Machine.Remembers.run {start next : System ω τ} {Past : List (Action ε κ η) → Nat → τ → Prop}
    (remembers : machine.Remembers start Past) (empty : ∀ number, start.tasks number = none) (actions : List (Action ε κ η))
    (ran : StateMachine.run machine.step start actions = some next) : ∀ number task, next.tasks number = some task → Past actions number task := by
  induction actions using List.reverseRecOn generalizing next with
  | nil =>
    intro number task stored
    rw [← Option.some.inj ran,empty] at stored
    cases stored
  | append_singleton before action ih =>
    obtain ⟨system,reached,last⟩ := (StateMachine.run_append_eq_some _ _ _ _ _).mp ran
    obtain ⟨final,stepped,ended⟩ := (StateMachine.run_cons_eq_some _ _ _ _ _).mp last
    obtain rfl := Option.some.inj ended
    have past := ih reached
    intro other found there
    rcases step_cases action stepped with ⟨number,call,rfl,_,rfl⟩ | ⟨number,event,task,world,after,rfl,stored,turn,rfl⟩ |
      ⟨number,task,rfl,_,rfl⟩ | ⟨move,world,rfl,_,rfl⟩
    · rcases task_put there with ⟨rfl,rfl⟩ | ⟨different,there⟩
      · exact remembers.begins ..
      · exact remembers.stays _ _ _ _ (fun same => different (Option.some.inj same).symm) (past other found there)
    · rcases task_put there with ⟨rfl,rfl⟩ | ⟨different,there⟩
      · exact remembers.resumes _ _ _ _ _ _ _ reached stored (past other task stored) turn
      · exact remembers.stays _ _ _ _ (fun same => different (Option.some.inj same).symm) (past other found there)
    · rcases task_put there with ⟨rfl,rfl⟩ | ⟨different,there⟩
      · exact remembers.drops ..
      · exact remembers.stays _ _ _ _ (fun same => different (Option.some.inj same).symm) (past other found there)
    · exact remembers.stays _ _ _ _ nofun (past other found there)

end Tasks
