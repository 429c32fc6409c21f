import Ratatoskr.Lib.Tasks

/-! Programs that ask a server and go on with its answers. Any number of them take turns at one server that others use
too. What a program relies on between its requests, what each of its requests keeps and what is true at its end are
proved request by request; they then hold however the requests of all the programs fall. -/
inductive Dialogue (ρ : Type) (σ : ρ → Type) (α : Type) where
  | done (value : α)
  | ask (request : ρ) (next : σ request → Dialogue ρ σ α)

namespace Dialogue

variable {ρ : Type} {σ : ρ → Type} {α β ε : Type}

def bind : Dialogue ρ σ α → (α → Dialogue ρ σ β) → Dialogue ρ σ β
  | .done value, f => f value
  | .ask request next, f => .ask request fun answer => (next answer).bind f

instance : Monad (Dialogue ρ σ) where
  pure := .done
  bind := Dialogue.bind

/-- One request, whose answer is the value. -/
def request (request : ρ) : Dialogue ρ σ (σ request) := .ask request .done

section Judgement

variable {ω η : Type} (serve : ω → η → (request : ρ) → Option (σ request × ω)) (Allowed : η → Prop) (World : ω → Prop)
  (Rely Guarantee : ω → ω → Prop)

/-- Wherever the others leave the server, each request of the program keeps the invariant of the server and moves it as
guaranteed, and the program ends as told. -/
def Secure (after : α → ω → Prop) : Dialogue ρ σ α → ω → Prop
  | .done value,world => after value world
  | .ask request next,world => ∀ later event answer moved, World later → Rely world later → Allowed event →
      serve later event request = some (answer,moved) → World moved ∧ Guarantee later moved ∧ Secure after (next answer) moved

/-- What is to be true of a value, and of an error -/
def either (value : α → ω → Prop) (error : ε → ω → Prop) : Except ε α → ω → Prop
  | .ok found,world => value found world
  | .error found,world => error found world

variable {serve Allowed World Rely Guarantee} {after : α → ω → Prop} {body : Dialogue ρ σ α} {world later : ω}

theorem secure_done {value : α} (met : after value world) : Secure serve Allowed World Rely Guarantee after (.done value) world := met

theorem secure_bind {last : β → ω → Prop} {f : α → Dialogue ρ σ β} (first : Secure serve Allowed World Rely Guarantee after body world)
    (next : ∀ value world, after value world → Secure serve Allowed World Rely Guarantee last (f value) world) :
    Secure serve Allowed World Rely Guarantee last (body.bind f) world := by
  induction body generalizing world with
  | done value => exact next value world first
  | ask request rest ih =>
    intro later event answer moved valid onward allowed served
    obtain ⟨kept,moves,secure⟩ := first later event answer moved valid onward allowed served
    exact ⟨kept,moves,ih answer secure⟩

theorem Secure.weaken {wider : α → ω → Prop} (secure : Secure serve Allowed World Rely Guarantee after body world)
    (weaker : ∀ value world, after value world → wider value world) : Secure serve Allowed World Rely Guarantee wider body world := by
  induction body generalizing world with
  | done value => exact weaker value world secure
  | ask request rest ih =>
    intro later event answer moved valid onward allowed served
    obtain ⟨kept,moves,secure⟩ := secure later event answer moved valid onward allowed served
    exact ⟨kept,moves,ih answer secure⟩

/-- What the others and the program itself leave true is true at the end as well. -/
theorem Secure.frame {known : ω → Prop} (relied : ∀ world later, Guarantee world later → Rely world later)
    (stable : ∀ world later, Rely world later → known world → known later)
    (secure : Secure serve Allowed World Rely Guarantee after body world) (holds : known world) :
    Secure serve Allowed World Rely Guarantee (fun value world => after value world ∧ known world) body world := by
  induction body generalizing world with
  | done value => exact ⟨secure,holds⟩
  | ask request rest ih =>
    intro later event answer moved valid onward allowed served
    obtain ⟨kept,moves,secure⟩ := secure later event answer moved valid onward allowed served
    exact ⟨kept,moves,ih answer secure (stable _ _ (relied _ _ moves) (stable _ _ onward holds))⟩

section Errors

variable {δ : Type} {value : α → ω → Prop} {error : ε → ω → Prop} {fallible : ExceptT ε (Dialogue ρ σ) α}

/-- A body that refuses ends the program with its error; a value is handed on. -/
theorem secure_try {last : β → ω → Prop} {f : α → ExceptT ε (Dialogue ρ σ) β}
    (first : Secure serve Allowed World Rely Guarantee (either value error) fallible.run world)
    (next : ∀ found world, value found world → Secure serve Allowed World Rely Guarantee (either last error) (f found).run world) :
    Secure serve Allowed World Rely Guarantee (either last error) (fallible >>= f).run world := by
  refine secure_bind first fun result world held => ?_
  cases result with
  | ok found => exact next found world held
  | error found => exact held

theorem secure_adapt {other : δ → ω → Prop} {f : ε → δ}
    (first : Secure serve Allowed World Rely Guarantee (either value error) fallible.run world)
    (next : ∀ found world, error found world → other (f found) world) :
    Secure serve Allowed World Rely Guarantee (either value other) (fallible.adapt f).run world := by
  refine secure_bind first fun result world held => ?_
  cases result with
  | ok found => exact held
  | error found => exact next found world held

theorem Secure.frame_value (known : ω → Prop) (relied : ∀ world later, Guarantee world later → Rely world later)
    (stable : ∀ world later, Rely world later → known world → known later)
    (secure : Secure serve Allowed World Rely Guarantee (either value error) fallible.run world) (holds : known world) :
    Secure serve Allowed World Rely Guarantee (either (fun found world => value found world ∧ known world) error) fallible.run world := by
  refine (secure.frame relied stable holds).weaken fun result world held => ?_
  cases result with
  | ok found => exact held
  | error found => exact held.1

end Errors

/-- What the others may do leaves the program as secure as it was. -/
theorem Secure.stays (trans : ∀ first second third, Rely first second → Rely second third → Rely first third)
    (kept : ∀ value, after value world → after value later) (onward : Rely world later)
    (secure : Secure serve Allowed World Rely Guarantee after body world) : Secure serve Allowed World Rely Guarantee after body later := by
  cases body with
  | done value => exact kept value secure
  | ask request rest => exact fun final event answer moved valid further => secure final event answer moved valid (trans _ _ _ onward further)

end Judgement

section Turns

variable {ω η κ μ : Type} (serve : ω → η → (request : ρ) → Option (σ request × ω)) (program : κ → Dialogue ρ σ α)
  (outside : ω → μ → Option ω)

/-- A turn of a program is its next request. One that is killed asks nothing more. -/
def machine : Tasks.Machine ω (Option (Dialogue ρ σ α)) η κ μ where
  begin_ _ call := some (program call)
  resume _ world event
    | some (.ask request next) => (serve world event request).map fun turn => (turn.2,some (next turn.1))
    | _ => none
  dropped := none
  outside := outside

variable {serve program outside} {Allowed : η → Prop} {World : ω → Prop} {Rely Guarantee : ω → ω → Prop} {after : α → ω → Prop}

/-- A turn asks the next request of a program that is under way. -/
theorem turn_cases {number : Nat} {world later : ω} {event : η} {task next : Option (Dialogue ρ σ α)}
    (turn : (machine serve program outside).resume number world event task = some (later,next)) :
    ∃ request rest answer, task = some (.ask request rest) ∧ serve world event request = some (answer,later) ∧
      next = some (rest answer) := by
  cases task with
  | none => cases turn
  | some body =>
    cases body with
    | done value => cases turn
    | ask request rest =>
      obtain ⟨⟨answer,moved⟩,served,same⟩ := Option.map_eq_some_iff.mp turn
      obtain ⟨rfl,rfl⟩ := Prod.mk.inj same
      exact ⟨request,rest,answer,rfl,served,rfl⟩

/-- The events of an action are among those told. -/
def Meets (Allowed : η → Prop) : Tasks.Action η κ μ → Prop
  | .resume _ event => Allowed event
  | _ => True

/-- The programs that are under way are secure, and the server keeps its invariant. -/
abbrev Sound (serve : ω → η → (request : ρ) → Option (σ request × ω)) (Allowed : η → Prop) (World : ω → Prop)
    (Rely Guarantee : ω → ω → Prop) (after : α → ω → Prop) : Tasks.System ω (Option (Dialogue ρ σ α)) → Prop :=
  Tasks.Holds World fun world _ task => ∀ body ∈ task, Secure serve Allowed World Rely Guarantee after body world

theorem keeps (relied : ∀ world later, Guarantee world later → Rely world later) (still : ∀ world, Rely world world)
    (trans : ∀ first second third, Rely first second → Rely second third → Rely first third)
    (kept : ∀ value world later, World world → Rely world later → after value world → after value later)
    (begins : ∀ call world, World world → Secure serve Allowed World Rely Guarantee after (program call) world)
    (moves : ∀ world move later, World world → outside world move = some later → World later ∧ Rely world later) :
    (machine serve program outside).Keeps (fun _ action => Meets Allowed action) World (fun _ => Rely)
      (fun world _ task => ∀ body ∈ task, Secure serve Allowed World Rely Guarantee after body world) where
  begins world number call valid := by
    rintro _ ⟨⟩
    exact begins call world valid
  drops world number _ := by rintro _ ⟨⟩
  stays world later number task valid onward secure body found :=
    (secure body found).stays trans (fun value => kept value world later valid onward) onward
  resumes system number event task later next allowed stored holds turn := by
    obtain ⟨request,rest,answer,rfl,served,rfl⟩ := turn_cases turn
    obtain ⟨valid,onward,secure⟩ :=
      holds.tasks number _ stored _ rfl system.world event answer later holds.world (still _) allowed served
    refine ⟨valid,?_,fun _ _ => relied _ _ onward⟩
    rintro _ ⟨⟩
    exact secure
  outside world move later valid moved := ⟨(moves world move later valid moved).1,fun _ => (moves world move later valid moved).2⟩

/-- What the guarantee and the outside moves of a run leave true stays true along it. -/
theorem preserved {system next : Tasks.System ω (Option (Dialogue ρ σ α))} (Property : ω → Prop)
    (keeps : (machine serve program outside).Keeps (fun _ action => Meets Allowed action) World (fun _ => Rely)
      (fun world _ task => ∀ body ∈ task, Secure serve Allowed World Rely Guarantee after body world))
    (still : ∀ world, Rely world world) (own : ∀ world later, Guarantee world later → Property world → Property later)
    (actions : List (Tasks.Action η κ μ)) (met : ∀ action ∈ actions, Meets Allowed action)
    (outer : ∀ move world later, .outside move ∈ actions → outside world move = some later → Property world → Property later)
    (sound : Sound serve Allowed World Rely Guarantee after system) (true_ : Property system.world)
    (ran : StateMachine.run (machine serve program outside).step system actions = some next) : Property next.world := by
  induction actions generalizing system with
  | nil => rwa [← Option.some.inj ran]
  | cons action actions ih =>
    obtain ⟨middle,stepped,rest⟩ := (StateMachine.run_cons_eq_some _ _ _ _ _).mp ran
    refine ih (fun later member => met later (List.mem_cons_of_mem _ member))
      (fun move world later member => outer move world later (List.mem_cons_of_mem _ member))
      (keeps.step sound action (met action List.mem_cons_self) stepped) ?_ rest
    rcases Tasks.step_cases action stepped with ⟨number,call,rfl,_,rfl⟩ | ⟨number,event,task,world,after,rfl,stored,turn,rfl⟩ |
      ⟨number,task,rfl,_,rfl⟩ | ⟨move,world,rfl,moved,rfl⟩
    · exact true_
    · obtain ⟨request,rest,answer,rfl,served,rfl⟩ := turn_cases turn
      exact own _ _ (sound.tasks number _ stored _ rfl system.world event answer world sound.world (still _)
        (met _ List.mem_cons_self) served).2.1 true_
    · exact true_
    · exact outer move _ _ List.mem_cons_self moved true_

end Turns

section Bounds

/-- The program ends within so many requests. -/
def Within : Nat → Dialogue ρ σ α → Prop
  | _,.done _ => True
  | 0,.ask _ _ => False
  | most + 1,.ask _ next => ∀ answer, Within most (next answer)

variable {body : Dialogue ρ σ α} {most more : Nat}

theorem within_done (value : α) : Within most (.done value : Dialogue ρ σ α) := by
  cases most <;> trivial

theorem Within.add (within : Within most body) : Within (most + more) body := by
  induction body generalizing most with
  | done value => exact within_done value
  | ask request next ih =>
    cases most with
    | zero => cases within
    | succ most =>
      rw [Nat.add_right_comm]
      exact fun answer => ih answer (within answer)

theorem within_bind {f : α → Dialogue ρ σ β} (first : Within most body) (next : ∀ value, Within more (f value)) :
    Within (most + more) (body.bind f) := by
  induction body generalizing most with
  | done value =>
    rw [Nat.add_comm]
    exact (next value).add
  | ask request rest ih =>
    cases most with
    | zero => cases first
    | succ most =>
      rw [Nat.add_right_comm]
      exact fun answer => ih answer (first answer)

theorem within_try {fallible : ExceptT ε (Dialogue ρ σ) α} {f : α → ExceptT ε (Dialogue ρ σ) β} (first : Within most fallible.run)
    (next : ∀ value, Within more (f value).run) : Within (most + more) (fallible >>= f).run := by
  refine within_bind first fun result => ?_
  cases result with
  | ok value => exact next value
  | error error => exact within_done _

theorem within_adapt {δ : Type} {fallible : ExceptT ε (Dialogue ρ σ) α} {f : ε → δ} (first : Within most fallible.run) :
    Within most (fallible.adapt f).run := by
  change Within (most + 0) _
  exact within_bind first fun result => within_done (result.mapError f)

variable {ω η κ μ : Type} {serve : ω → η → (request : ρ) → Option (σ request × ω)} {program : κ → Dialogue ρ σ α}
  {outside : ω → μ → Option ω}

def isTurn (number : Nat) : Tasks.Action η κ μ → Bool
  | .resume other _ => other == number
  | _ => false

/-- The turns that a program has had -/
def turns (number : Nat) (actions : List (Tasks.Action η κ μ)) : Nat := actions.countP (isTurn number)

/-- Each turn of a program leaves it fewer requests. -/
theorem within_run (within : ∀ call, Within most (program call)) {start next : Tasks.System ω (Option (Dialogue ρ σ α))}
    (empty : ∀ number, start.tasks number = none) (number : Nat) (actions : List (Tasks.Action η κ μ))
    (ran : StateMachine.run (machine serve program outside).step start actions = some next) :
    (next.tasks number = none → turns number actions = 0) ∧
      ∀ body, next.tasks number = some (some body) → ∃ left, Within left body ∧ left + turns number actions = most := by
  induction actions using List.reverseRecOn generalizing next with
  | nil =>
    obtain rfl := Option.some.inj ran
    exact ⟨fun _ => rfl,fun body stored => absurd ((empty number).symm.trans stored) (Option.some_ne_none _).symm⟩
  | append_singleton before action ih =>
    obtain ⟨system,reached,last⟩ := (StateMachine.run_append_eq_some _ _ _ _ _).mp ran
    obtain ⟨final,stepped,ended⟩ := (StateMachine.run_cons_eq_some _ _ _ _ _).mp last
    obtain rfl := Option.some.inj ended
    obtain ⟨unborn,spent⟩ := ih reached
    have counted : turns number (before ++ [action]) = turns number before + if isTurn number action then 1 else 0 := by
      rw [turns,List.countP_append,List.countP_singleton]
      rfl
    rw [counted]
    rcases Tasks.step_cases action stepped with ⟨other,call,rfl,absent,rfl⟩ | ⟨other,event,task,world,after,rfl,stored,turn,rfl⟩ |
      ⟨other,task,rfl,stored,rfl⟩ | ⟨move,world,rfl,_,rfl⟩
    · refine ⟨fun none_ => unborn (Tasks.unborn_put none_).2,fun body there => ?_⟩
      rcases Tasks.task_put there with ⟨rfl,given⟩ | ⟨_,there⟩
      · obtain rfl := Option.some.inj given
        exact ⟨most,within call,by rw [unborn absent]; rfl⟩
      · exact spent body there
    · obtain ⟨request,rest,answer,rfl,_,rfl⟩ := turn_cases turn
      by_cases mine : number = other
      · subst mine
        refine ⟨fun none_ => absurd rfl (Tasks.unborn_put none_).1,fun body there => ?_⟩
        rcases Tasks.task_put there with ⟨_,given⟩ | ⟨different,_⟩
        · obtain rfl := Option.some.inj given
          obtain ⟨left,fits,total⟩ := spent _ stored
          cases left with
          | zero => cases fits
          | succ left => exact ⟨left,fits answer,by simp only [isTurn,beq_self_eq_true,if_true]; omega⟩
        · exact absurd rfl different
      · have still : isTurn number (.resume other event : Tasks.Action η κ μ) = false := beq_false_of_ne (Ne.symm mine)
        rw [still]
        refine ⟨fun none_ => unborn (Tasks.unborn_put none_).2,fun body there => ?_⟩
        rcases Tasks.task_put there with ⟨same,_⟩ | ⟨_,there⟩
        · exact absurd same mine
        · exact spent body there
    · refine ⟨fun none_ => unborn (Tasks.unborn_put none_).2,fun body there => ?_⟩
      rcases Tasks.task_put there with ⟨_,given⟩ | ⟨_,there⟩
      · cases given
      · exact spent body there
    · exact ⟨unborn,spent⟩

end Bounds

end Dialogue
