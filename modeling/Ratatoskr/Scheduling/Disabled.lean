import Ratatoskr.Scheduling.CatchUp

/-! Due times that fell while a schedule was switched off, and what becomes of them once it is on again. -/
set_option linter.unusedSectionVars false

namespace Ratatoskr.Scheduling

open Transaction Eventing

/-- How a schedule was registered at an instant, by the registrations that had been applied. -/
def registeredAt (log : List Event) (scheduleId : ScheduleId) (instant : Int) : Option Bool :=
  (log.filterMap fun
    | .registered id input now => if id = scheduleId ∧ toOffset now ≤ instant then some input.enabled else none
    | _ => none).getLast?

def DisabledAt (log : List Event) (scheduleId : ScheduleId) (instant : Int) : Prop :=
  registeredAt log scheduleId instant = some false

/-- No due time was published at which the schedule was registered as disabled. -/
def NoneDisabled (log : List Event) : Prop :=
  ∀ before number publication after, log = before ++ .published number publication :: after →
    ¬DisabledAt before publication.scheduleId publication.dueAt

theorem registeredAt_append_other (log : List Event) (event : Event) (scheduleId : ScheduleId) (instant : Int)
    (other : ∀ input now, event = .registered scheduleId input now → instant < toOffset now) :
    registeredAt (log ++ [event]) scheduleId instant = registeredAt log scheduleId instant := by
  simp only [registeredAt,List.filterMap_append]
  cases event with
  | published | suppressed => simp
  | registered id input now =>
    by_cases own : id = scheduleId
    · subst own
      have later : ¬toOffset now ≤ instant := Int.not_le.mpr (other input now rfl)
      simp [later]
    · simp [own]

theorem registeredAt_append_own (log : List Event) (input : Registration) (now : Timestamp) (scheduleId : ScheduleId)
    (instant : Int) (reached : toOffset now ≤ instant) :
    registeredAt (log ++ [.registered scheduleId input now]) scheduleId instant = some input.enabled := by
  simp [registeredAt,List.filterMap_append,reached]

theorem NoneDisabled.append {log : List Event} {event : Event} (quiet : NoneDisabled log)
    (fine : ∀ number publication, event = .published number publication →
      ¬DisabledAt log publication.scheduleId publication.dueAt) : NoneDisabled (log ++ [event]) := by
  intro before number publication after split
  rcases split_of_append split with ⟨_,rfl,same⟩ | ⟨rest,_,same⟩
  · exact fine number publication same
  · exact quiet before number publication rest same

/-- The due times a schedule goes through from where it stands. -/
def OnPath (library : Library) (instants : library.cron.Schedule → Set Int) (expression : String) (nextDueAt instant : Int) :
    Prop := instant = nextDueAt ∨ instant ∈ dueGrid library.cron expression instants ∧ nextDueAt < instant

namespace Scheduler

variable {τ : Type} [DecidableEq τ]

/-- A registration that switches a schedule on while its due time is owed finds none of the due times
from there on within a period in which the schedule was switched off. -/
def Resumable (library : Library) (contract : RegistrationContract) (allowed : List String)
    (instants : library.cron.Schedule → Set Int) (s : Scheduler τ) : SchedulerAction τ → Prop
  | .register message _ now => ∀ input nextDueAt id row,
    Accepts library contract allowed message now s.rows input nextDueAt → input.enabled = true →
    s.rows (.inl (.scheduleName input.serviceName input.name)) = some id → s.rows (.inl (.schedule id)) = some row →
    row.nextDueAt ≤ toOffset now → ∀ instant, OnPath library instants input.cronExpression row.nextDueAt instant →
      ¬DisabledAt (s.log ++ [.registered id input now]) id instant
  | _ => True

/-- What an enabled schedule is going to publish did not fall in a period in which it was disabled. -/
structure Awake (library : Library) (instants : library.cron.Schedule → Set Int) (s : Scheduler τ) : Prop where
  sound : Sound library s
  path : ∀ id row, s.rows (.inl (.schedule id)) = some row → row.enabled = true →
    ∀ instant, OnPath library instants row.cronExpression row.nextDueAt instant → ¬DisabledAt s.log id instant
  quiet : NoneDisabled s.log

variable {library : Library} {contract : RegistrationContract} {allowed : List String} {s next : Scheduler τ}
  {instants : library.cron.Schedule → Set Int}
  (walks : ∀ schedule t g, library.cron.after schedule t = some g → Grid.After (instants schedule) t g)

theorem initial_awake (others : Rows) : Awake library instants (initial others : Scheduler τ) :=
  ⟨initial_sound others,(fun _ _ stored => by cases stored),fun before _ _ _ split => by cases before <;> cases split⟩

include walks

theorem Awake.step {action : SchedulerAction τ} (awake : Awake library instants s)
    (resumable : Resumable library contract allowed instants s action)
    (step : s.step library contract allowed action = some next) : Awake library instants next := by
  refine ⟨awake.sound.step walks step,fun id row stored enabled instant path => ?_,?_⟩
  · cases stepped step with
    | quiet schedules names occurrences indexed log =>
      rw [log]
      exact awake.path id row ((schedules id).symm.trans stored) enabled instant path
    | handled number scheduleId draws now handled schedule nextDueAt middle advances rows log =>
      have move := moved advances rows
      have unregistered : ∀ input now, handledEvent number scheduleId schedule handled = .registered id input now →
          instant < toOffset now := by
        intro input now same
        rw [handledEvent] at same
        cases published : handled.published <;> rw [published] at same <;> cases same
      rw [log,DisabledAt,registeredAt_append_other _ _ _ _ unregistered]
      by_cases same : id = scheduleId
      · subst same
        obtain rfl := Option.some.inj (move.own.symm.trans stored)
        have after := after_of_nextAfter walks (awake.sound.kept id schedule advances.found).whole advances.next
        refine awake.path id schedule advances.found enabled instant (Or.inr ?_)
        rcases path with rfl | ⟨point,later⟩
        · exact ⟨after.mem,after.lt⟩
        · exact ⟨point,after.lt.trans later⟩
      · exact awake.path id row ((move.others id same).symm.trans stored) enabled instant path
    | registered message draws now input nextDueAt scheduleId middle accepts stores rows log which =>
      have registered := awake.sound.stored stores rows
      rw [log]
      by_cases same : id = scheduleId
      · subst same
        obtain ⟨after,own,_,_,origin⟩ := registered.own
        obtain rfl := Option.some.inj (own.symm.trans stored)
        have ahead := (lt_of_nextAfter walks accepts.next).1
        have fresh (switched : input.enabled = true) (beyond : toOffset nextDueAt ≤ instant) :
            ¬DisabledAt (s.log ++ [.registered id input now]) id instant := by
          rw [DisabledAt,registeredAt_append_own _ _ _ _ _ (by omega),switched]
          exact fun same => by cases same
        have beyond (due : Int) (path : OnPath library instants input.cronExpression due instant) : due ≤ instant := by
          rcases path with rfl | ⟨_,later⟩
          · exact Int.le_refl _
          · exact later.le
        rcases origin with ⟨_,rfl⟩ | ⟨before,found,rfl⟩
        · exact fresh enabled (beyond _ path)
        · by_cases owed : before.nextDueAt ≤ toOffset now
          · have condition := which ▸ resumable
            have kept : (before.edited input nextDueAt now).nextDueAt = before.nextDueAt := if_pos owed
            rw [kept] at path
            exact condition input nextDueAt id before accepts enabled (registered.taken (found ▸ rfl)) found owed instant path
          · have moved : (before.edited input nextDueAt now).nextDueAt = toOffset nextDueAt := if_neg owed
            rw [moved] at path
            exact fresh enabled (beyond _ path)
      · have other : ∀ input' now', Event.registered scheduleId input now = .registered id input' now' →
            instant < toOffset now' := fun _ _ equal => absurd (Event.registered.inj equal).1.symm same
        rw [DisabledAt,registeredAt_append_other _ _ _ _ other]
        exact awake.path id row ((registered.others id same).symm.trans stored) enabled instant path
  · cases stepped step with
    | quiet schedules names occurrences indexed log =>
      rw [log]
      exact awake.quiet
    | handled number scheduleId draws now handled schedule nextDueAt middle advances rows log =>
      rw [log]
      refine awake.quiet.append fun pass publication same => ?_
      rw [handledEvent] at same
      cases published : handled.published with
      | none => rw [published] at same; cases same
      | some own =>
        rw [published] at same
        cases same
        obtain ⟨rfl,due⟩ := (moved advances rows).published publication published
        exact awake.path _ schedule advances.found advances.enabled _ (Or.inl due)
    | registered message draws now input nextDueAt scheduleId middle accepts stores rows log =>
      rw [log]
      exact awake.quiet.append fun _ _ same => by cases same

end Scheduler

section Runs

variable {τ : Type} [DecidableEq τ] (library : Library) (contract : RegistrationContract) (allowed : List String)
  (instants : library.cron.Schedule → Set Int)
  (walks : ∀ schedule t g, library.cron.after schedule t = some g → Grid.After (instants schedule) t g)

include walks

/-- As long as no schedule is switched on again over due times it was switched off at, no pass publishes
such a due time. -/
theorem none_disabled_of_resumable (others : Rows) (actions : List (SchedulerAction τ))
    (resumable : StateMachine.Along (Scheduler.step library contract allowed)
      (Scheduler.Resumable library contract allowed instants) (Scheduler.initial others) actions)
    (final : Scheduler τ)
    (reached : StateMachine.run (Scheduler.step library contract allowed) (Scheduler.initial others) actions = some final) :
    NoneDisabled final.log := by
  have awake := StateMachine.along_invariant _ (Scheduler.Awake library instants)
    (Scheduler.Resumable library contract allowed instants)
    (fun _ _ _ awake resumable stepped => awake.step walks resumable stepped) _ actions final
    (Scheduler.initial_awake others) resumable reached
  exact awake.quiet

end Runs

section Minutely

/-- Switched on, off and on again, and a pass after that -/
def switching : List (SchedulerAction Unit) :=
  [.register (minutelyMessage true) ⟨minutelySchedule,50⟩ 0,.register (minutelyMessage false) ⟨0,51⟩ 30000000000,
    .register (minutelyMessage true) ⟨0,52⟩ 90000000000,.start () [minutelySchedule] 10 100000000000,
    .handle () (minutelyDraws 1)]

/-- Whether the fourth entry publishes a due time at which the first three have the schedule switched off -/
def publishesDisabled : List Event → Bool
  | [one,two,three,.published _ publication] =>
    publication.scheduleId == minutelySchedule && publication.dueAt == 60000000 &&
      registeredAt [one,two,three] minutelySchedule 60000000 == some false
  | _ => false

/-- The due time that passed while the schedule was switched off is published once it is on again. -/
theorem disabled_due_is_published : ∃ final : Scheduler Unit,
    StateMachine.run minutelyStep (Scheduler.initial oneUser) switching = some final ∧ ¬NoneDisabled final.log := by
  have ran : ((StateMachine.run minutelyStep (Scheduler.initial oneUser) switching).map fun final =>
      publishesDisabled final.log) = some true := by decide +kernel
  obtain ⟨final,reached,ended⟩ := Option.map_eq_some_iff.mp ran
  refine ⟨final,reached,fun quiet => ?_⟩
  unfold publishesDisabled at ended
  split at ended
  · rename_i one two three number publication log
    simp only [Bool.and_eq_true,beq_iff_eq] at ended
    obtain ⟨⟨schedule,due⟩,disabled⟩ := ended
    refine quiet [one,two,three] number publication [] log ?_
    rw [schedule,due]
    exact disabled
  · cases ended

/-- A schedule that is switched on once only -/
theorem minutely_none_disabled : ∃ final : Scheduler Unit,
    dues final.log minutelySchedule = [60000000] ∧ NoneDisabled final.log := by
  have ran : ((StateMachine.run minutelyStep (Scheduler.initial oneUser) [.register (minutelyMessage true)
      ⟨minutelySchedule,50⟩ 0,.start () [minutelySchedule] 10 100000000000,.handle () (minutelyDraws 1)]).map fun final =>
        dues final.log minutelySchedule == [60000000]) = some true := by decide +kernel
  obtain ⟨final,reached,ended⟩ := Option.map_eq_some_iff.mp ran
  refine ⟨final,by simpa using ended,none_disabled_of_resumable minutelyLibrary minutelyContract ["ratatoskr-github"]
    (fun _ => {second : Int | 60 ∣ second}) minutely_walks oneUser _ ?_ final reached⟩
  refine ⟨?_,fun _ _ => ⟨trivial,fun _ _ => ⟨trivial,fun _ _ => trivial⟩⟩⟩
  intro _ _ _ _ _ _ taken
  cases taken

end Minutely

end Ratatoskr.Scheduling
