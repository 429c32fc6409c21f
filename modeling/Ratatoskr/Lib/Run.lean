import Mathlib.Logic.Basic

/-! Runs of a partial state machine. An invariant is proved once, for one step,
and the lemmas here carry it to every state a schedule of actions reaches. -/
namespace StateMachine

variable {σ α : Type}

/-- Takes the actions in order; `none` once an action is not enabled. -/
def run (step : σ → α → Option σ) (s : σ) : List α → Option σ
  | [] => some s
  | action :: actions => (step s action).bind fun next => run step next actions

@[simp] theorem run_nil (step : σ → α → Option σ) (s : σ) : run step s [] = some s := rfl

theorem run_cons_eq_some (step : σ → α → Option σ) (s : σ) (action : α) (actions : List α) (final : σ) :
    run step s (action :: actions) = some final ↔
      ∃ next, step s action = some next ∧ run step next actions = some final := by
  simp [run,Option.bind_eq_some_iff]

theorem run_append_eq_some (step : σ → α → Option σ) (s : σ) (first second : List α) (final : σ) :
    run step s (first ++ second) = some final ↔
      ∃ middle, run step s first = some middle ∧ run step middle second = some final := by
  induction first generalizing s with
  | nil => simp
  | cons action actions ih =>
    simp only [List.cons_append,run_cons_eq_some,ih]
    constructor
    · rintro ⟨next,stepped,middle,before,after⟩
      exact ⟨middle,⟨next,stepped,before⟩,after⟩
    · rintro ⟨middle,⟨next,stepped,before⟩,after⟩
      exact ⟨next,stepped,middle,before,after⟩

/-- What every step preserves holds wherever a run ends. -/
theorem run_invariant (step : σ → α → Option σ) (Invariant : σ → Prop)
    (preserved : ∀ s action next, Invariant s → step s action = some next → Invariant next)
    (s : σ) (actions : List α) (final : σ) (valid : Invariant s)
    (ran : run step s actions = some final) : Invariant final := by
  induction actions generalizing s with
  | nil => exact Option.some.inj ran ▸ valid
  | cons action actions ih =>
    obtain ⟨next,stepped,rest⟩ := (run_cons_eq_some step s action actions final).mp ran
    exact ih next (preserved s action next valid stepped) rest

/-- A reflexive and transitive relation that every step respects, under an invariant,
relates the first state of a run to its last. -/
theorem run_relation (step : σ → α → Option σ) (Invariant : σ → Prop) (Related : σ → σ → Prop)
    (reflexive : ∀ s, Related s s) (transitive : ∀ s m f, Related s m → Related m f → Related s f)
    (preserved : ∀ s action next, Invariant s → step s action = some next → Invariant next)
    (related : ∀ s action next, Invariant s → step s action = some next → Related s next)
    (s : σ) (actions : List α) (final : σ) (valid : Invariant s)
    (ran : run step s actions = some final) : Related s final := by
  induction actions generalizing s with
  | nil => exact Option.some.inj ran ▸ reflexive s
  | cons action actions ih =>
    obtain ⟨next,stepped,rest⟩ := (run_cons_eq_some step s action actions final).mp ran
    exact transitive _ _ _ (related s action next valid stepped)
      (ih next (preserved s action next valid stepped) rest)

/-- The condition holds of every step of the run, in the state before that step. -/
def Along (step : σ → α → Option σ) (Condition : σ → α → Prop) : σ → List α → Prop
  | _, [] => True
  | s, action :: actions =>
    Condition s action ∧ ∀ next, step s action = some next → Along step Condition next actions

instance decidableAlong (step : σ → α → Option σ) (Condition : σ → α → Prop)
    [decidable : ∀ s action, Decidable (Condition s action)] :
    ∀ s actions, Decidable (Along step Condition s actions)
  | _, [] => inferInstanceAs (Decidable True)
  | s, action :: actions =>
    have := fun next => decidableAlong step Condition next actions
    inferInstanceAs (Decidable (Condition s action ∧ ∀ next ∈ step s action, Along step Condition next actions))

/-- The property holds of every state the run reaches, the first one included. -/
def Throughout (step : σ → α → Option σ) (Property : σ → Prop) : σ → List α → Prop
  | s, [] => Property s
  | s, action :: actions =>
    Property s ∧ ∀ next, step s action = some next → Throughout step Property next actions

theorem throughout_head (step : σ → α → Option σ) (Property : σ → Prop) (s : σ) (actions : List α)
    (holds : Throughout step Property s actions) : Property s := by
  cases actions with
  | nil => exact holds
  | cons => exact holds.1

theorem throughout_run (step : σ → α → Option σ) (Property : σ → Prop) (s : σ) (actions : List α) (final : σ)
    (holds : Throughout step Property s actions) (ran : run step s actions = some final) : Property final := by
  induction actions generalizing s with
  | nil => exact Option.some.inj ran ▸ holds
  | cons action actions ih =>
    obtain ⟨next,stepped,rest⟩ := (run_cons_eq_some step s action actions final).mp ran
    exact ih next (holds.2 next stepped) rest

/-- A step keeps the property exactly when it meets the condition; so does a run. -/
theorem throughout_iff_along (step : σ → α → Option σ) (Invariant Property : σ → Prop)
    (Condition : σ → α → Prop)
    (preserved : ∀ s action next, Invariant s → step s action = some next → Invariant next)
    (enabled : ∀ s action, (step s action).isSome)
    (exact_step : ∀ s action next, Invariant s → Property s → step s action = some next →
      (Property next ↔ Condition s action))
    (s : σ) (actions : List α) (valid : Invariant s) (holds : Property s) :
    Throughout step Property s actions ↔ Along step Condition s actions := by
  induction actions generalizing s with
  | nil => simpa [Throughout,Along] using holds
  | cons action actions ih =>
    obtain ⟨next,stepped⟩ := Option.isSome_iff_exists.mp (enabled s action)
    have kept := exact_step s action next valid holds stepped
    have later := ih next (preserved s action next valid stepped)
    simp only [Throughout,Along,stepped,Option.some.injEq,forall_eq',holds,true_and]
    constructor
    · intro rest
      have good := throughout_head step Property next actions rest
      exact ⟨kept.mp good,(later good).mp rest⟩
    · rintro ⟨met,rest⟩
      exact (later (kept.mpr met)).mpr rest

/-- Two conditions that agree wherever the runs of either of them go agree along whole runs. -/
theorem along_iff_along (step : σ → α → Option σ) (Invariant : σ → Prop) (Good Condition : σ → α → Prop)
    (exact_step : ∀ s action, Invariant s → (Good s action ↔ Condition s action))
    (preserved : ∀ s action next, Invariant s → Good s action → step s action = some next → Invariant next)
    (s : σ) (actions : List α) (valid : Invariant s) :
    Along step Good s actions ↔ Along step Condition s actions := by
  induction actions generalizing s with
  | nil => exact Iff.rfl
  | cons action actions ih =>
    simp only [Along,exact_step s action valid]
    refine and_congr_right fun met => forall₂_congr fun next stepped => ?_
    exact ih next (preserved s action next valid ((exact_step s action valid).mpr met) stepped)

/-- What every step that meets the condition preserves holds wherever a run of such steps ends. -/
theorem along_invariant (step : σ → α → Option σ) (Invariant : σ → Prop) (Condition : σ → α → Prop)
    (preserved : ∀ s action next, Invariant s → Condition s action → step s action = some next → Invariant next)
    (s : σ) (actions : List α) (final : σ) (valid : Invariant s) (along : Along step Condition s actions)
    (ran : run step s actions = some final) : Invariant final := by
  induction actions generalizing s with
  | nil => exact Option.some.inj ran ▸ valid
  | cons action actions ih =>
    obtain ⟨next,stepped,rest⟩ := (run_cons_eq_some step s action actions final).mp ran
    exact ih next (preserved s action next valid along.1 stepped) (along.2 next stepped) rest

/-- In a run of such steps, what the invariant implies holds of every state. -/
theorem throughout_of_along (step : σ → α → Option σ) (Invariant Property : σ → Prop) (Condition : σ → α → Prop)
    (preserved : ∀ s action next, Invariant s → Condition s action → step s action = some next → Invariant next)
    (implied : ∀ s, Invariant s → Property s) (s : σ) (actions : List α) (valid : Invariant s)
    (along : Along step Condition s actions) : Throughout step Property s actions := by
  induction actions generalizing s with
  | nil => exact implied s valid
  | cons action actions ih =>
    exact ⟨implied s valid,fun next stepped => ih next (preserved s action next valid along.1 stepped) (along.2 next stepped)⟩

/-- Where a step that misses the condition spoils the property, every step of a run that keeps it meets the condition. -/
theorem along_of_throughout (step : σ → α → Option σ) (Property : σ → Prop) (Condition : σ → α → Prop)
    (needed : ∀ s action, (∀ next, step s action = some next → Property next) → Condition s action)
    (s : σ) (actions : List α) (holds : Throughout step Property s actions) : Along step Condition s actions := by
  induction actions generalizing s with
  | nil => trivial
  | cons action actions ih =>
    refine ⟨needed s action fun next stepped => ?_,fun next stepped => ih next (holds.2 next stepped)⟩
    exact throughout_head step Property next actions (holds.2 next stepped)

theorem along_of_forall (step : σ → α → Option σ) (Condition : σ → α → Prop) (s : σ) (actions : List α)
    (holds : ∀ s, ∀ action ∈ actions, Condition s action) : Along step Condition s actions := by
  induction actions generalizing s with
  | nil => trivial
  | cons action actions ih =>
    exact ⟨holds s action List.mem_cons_self,fun next _ => ih next fun s later member => holds s later (List.mem_cons_of_mem _ member)⟩

/-- What holds along a run holds at each of its steps. -/
theorem along_at (step : σ → α → Option σ) (Condition : σ → α → Prop) (s : σ) (before : List α) (action : α)
    (after : List α) (holds : Along step Condition s (before ++ action :: after)) (middle : σ)
    (ran : run step s before = some middle) : Condition middle action := by
  induction before generalizing s with
  | nil =>
    obtain rfl := Option.some.inj ran
    exact holds.1
  | cons first before ih =>
    obtain ⟨next,stepped,rest⟩ := (run_cons_eq_some step s first before middle).mp ran
    exact ih next (holds.2 next stepped) rest

end StateMachine
