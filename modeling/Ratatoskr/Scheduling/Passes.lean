import Mathlib.Data.List.Sort
import Ratatoskr.Lib.Run
import Ratatoskr.Scheduling.Handling
import Ratatoskr.Scheduling.Storing

/-! Passes of any number of schedulers, registrations and sweeps, one transaction after another, with
whatever else happens to the tables of the platform in between. -/
set_option linter.unusedSectionVars false

namespace Ratatoskr.Scheduling

open Transaction Eventing

/-- What a commit of the scheduler did. -/
inductive Event where
  | published (pass : Nat) (publication : Publication)
  | suppressed (pass : Nat) (scheduleId : ScheduleId) (dueAt : Int)
  | registered (scheduleId : ScheduleId) (input : Registration) (now : Timestamp)

/-- Which schedules are due, in the order of their due times and of the scan among equals. -/
def dueSchedules (rows : Rows) (scan : List ScheduleId) (limit : Nat) (now : Timestamp) : List ScheduleId :=
  let due := scan.filterMap fun id =>
    ((rows (.inl (.schedule id))).filter fun row : Schedule => row.enabled && row.nextDueAt ≤ toOffset now).map
      fun row : Schedule => (row.nextDueAt,id)
  ((due.insertionSort fun a b => a.1 ≤ b.1).take limit).map Prod.snd

/-- Folds one handled schedule into the report; a lease held elsewhere is nothing wrong. -/
def SchedulerReport.record (report : SchedulerReport) :
    Outcome Row (Option SchedulingError) Handled → SchedulerReport
  | .done handled _ =>
    if handled.published.isSome then { report with published := report.published + 1 }
    else { report with suppressed := report.suppressed + 1 }
  | .abandoned none => report
  | .abandoned (some _) => { report with failed := report.failed + 1 }
  | .refused _ => { report with failed := report.failed + 1 }

/-- A pass on its way: the schedules it read as due and has not come to yet. -/
structure Pass where
  number : Nat
  now : Timestamp
  waiting : List ScheduleId
  report : SchedulerReport

/-- The tables, the schedules in the order they were created in, and what has been committed. -/
structure Scheduler (τ : Type) where
  rows : Rows
  schedules : List ScheduleId
  passes : τ → Option Pass
  begun : Nat
  log : List Event

/-- `leave` is a schedule whose lease is held elsewhere, or whose transaction the database lost;
starting again is what a process does after a pass or a crash. -/
inductive SchedulerAction (τ : Type) where
  | start (process : τ) (scan : List ScheduleId) (limit : Nat) (now : Timestamp)
  | handle (process : τ) (draws : Draws)
  | leave (process : τ) (failed : Bool)
  | register (message : Incoming Json) (draws : RegistrationDraws) (now : Timestamp)
  | collect (visited : List MessageId) (before : Timestamp)
  | elsewhere (others : Rows)

/-- The rows that only the scheduler writes -/
def isOwned : Key → Bool
  | .inl (.userStatus _) => false
  | .inl _ => true
  | .inr _ => false

namespace Scheduler

variable {τ : Type} [DecidableEq τ]

/-- No schedule has been registered yet. -/
def initial (others : Rows) : Scheduler τ :=
  ⟨fun key => if isOwned key then none else others key,[],fun _ => none,0,[]⟩

def setPass (s : Scheduler τ) (process : τ) (pass : Pass) : Scheduler τ :=
  { s with passes := Function.update s.passes process (some pass) }

/-- What handling a schedule added to the log. -/
def handledEvents (rows : Rows) (number : Nat) (scheduleId : ScheduleId) :
    Outcome Row (Option SchedulingError) Handled → List Event
  | .done handled _ =>
    match handled.published,rows (.inl (.schedule scheduleId)) with
    | some publication,_ => [.published number publication]
    | none,some schedule => [.suppressed number scheduleId schedule.nextDueAt]
    | none,none => []
  | _ => []

def registeredEvents (contract : RegistrationContract) (message : Incoming Json) (now : Timestamp) :
    Outcome Row (Option SchedulingError) ScheduleRegistration → List Event
  | .done .applied later =>
    match Registration.read contract message with
    | none => []
    | some input =>
      match later (.inl (.scheduleName input.serviceName input.name)) with
      | none => []
      | some scheduleId => [.registered scheduleId input now]
  | _ => []

/-- The table of the schedules after those events. -/
def listed (schedules : List ScheduleId) : List Event → List ScheduleId
  | [.registered scheduleId _ _] => if scheduleId ∈ schedules then schedules else schedules ++ [scheduleId]
  | _ => schedules

variable (library : Library) (contract : RegistrationContract) (allowed : List String)

def step (s : Scheduler τ) : SchedulerAction τ → Option (Scheduler τ)
  | .start process scan limit now =>
    if scan.isPerm s.schedules then
      let due := dueSchedules s.rows scan limit now
      some ({ s with begun := s.begun + 1 }.setPass process ⟨s.begun,now,due,⟨due.length,0,0,0⟩⟩)
    else none
  | .handle process draws =>
    match s.passes process with
    | some ⟨number,now,scheduleId :: waiting,report⟩ =>
      let outcome := exec constraints (Scheduling.handle library scheduleId draws now) s.rows
      some ({ s with rows := outcome.publish s.rows
                     log := s.log ++ handledEvents s.rows number scheduleId outcome }.setPass process
        ⟨number,now,waiting,report.record outcome⟩)
    | _ => none
  | .leave process failed =>
    match s.passes process with
    | some ⟨number,now,_ :: waiting,report⟩ =>
      some (s.setPass process ⟨number,now,waiting,{ report with failed := report.failed + if failed then 1 else 0 }⟩)
    | _ => none
  | .register message draws now =>
    let outcome := exec constraints (apply library contract allowed message draws now) s.rows
    let events := registeredEvents contract message now outcome
    some { s with rows := outcome.publish s.rows,schedules := listed s.schedules events,log := s.log ++ events }
  | .collect visited before =>
    some { s with rows := (exec constraints (collectOccurrencesBefore before visited) s.rows).publish s.rows }
  | .elsewhere others => some { s with rows := fun key => if isOwned key then s.rows key else others key }

/-- The states that runs from an empty table reach. -/
def Reachable (s : Scheduler τ) : Prop :=
  ∃ others actions, StateMachine.run (step library contract allowed) (initial others) actions = some s

section Stepped

variable {library contract allowed} {s next : Scheduler τ}

/-- What handling a due schedule logs. -/
def handledEvent (number : Nat) (scheduleId : ScheduleId) (schedule : Schedule) (handled : Handled) : Event :=
  match handled.published with
  | some publication => .published number publication
  | none => .suppressed number scheduleId schedule.nextDueAt

/-- What the unique index on the due times says is an occurrence that is stored. -/
def Indexed (library : Library) (rows : Rows) : Prop :=
  ∀ scheduleId due id, rows (.inl (.occurrenceDue scheduleId due)) = some id → id = pairId library scheduleId due ∧
    ∃ row, rows (.inl (.occurrence id)) = some row ∧ row.scheduleId = scheduleId ∧ row.dueAt = due

/-- What a step means for the schedules, their occurrences and the log. -/
inductive Stepped (library : Library) (contract : RegistrationContract) (allowed : List String) (s : Scheduler τ)
    (action : SchedulerAction τ) (next : Scheduler τ) : Prop where
  | quiet (schedules : ∀ id, next.rows (.inl (.schedule id)) = s.rows (.inl (.schedule id)))
      (names : ∀ service name, next.rows (.inl (.scheduleName service name)) = s.rows (.inl (.scheduleName service name)))
      (occurrences : ∀ id row, next.rows (.inl (.occurrence id)) = some row → s.rows (.inl (.occurrence id)) = some row)
      (indexed : Indexed library s.rows → Indexed library next.rows) (log : next.log = s.log)
  | handled (number : Nat) (scheduleId : ScheduleId) (draws : Draws) (now : Timestamp) (handled : Handled)
      (schedule : Schedule) (nextDueAt : Timestamp) (middle : Rows)
      (advances : Advances library scheduleId draws now s.rows handled schedule nextDueAt middle)
      (rows : next.rows = Function.update middle (.inl (.schedule scheduleId))
        (some (schedule.rescheduled nextDueAt handled.published.isSome now)))
      (log : next.log = s.log ++ [handledEvent number scheduleId schedule handled])
      (which : ∃ process, action = .handle process draws)
  | registered (message : Incoming Json) (draws : RegistrationDraws) (now : Timestamp) (input : Registration)
      (nextDueAt : Timestamp) (scheduleId : ScheduleId) (middle : Rows)
      (accepts : Accepts library contract allowed message now s.rows input nextDueAt)
      (stores : Stores input nextDueAt draws.scheduleId now s.rows scheduleId middle)
      (rows : ∀ key, next.rows (.inl key) = middle (.inl key))
      (log : next.log = s.log ++ [.registered scheduleId input now]) (which : action = .register message draws now)

/-- A sweep that comes to an occurrence takes it away with its entry in the index, or leaves both. -/
theorem exec_collectOccurrence_done (before : Timestamp) (id : MessageId) (removed : Bool) (rows later : Rows)
    (ended : exec constraints (collectOccurrence before id) rows = .done removed later) :
    later = rows ∨ ∃ row, rows (.inl (.occurrence id)) = some row ∧
      later = Function.update (Function.update rows (.inl (.occurrence id)) none)
        (.inl (.occurrenceDue row.scheduleId row.dueAt)) none := by
  simp only [collectOccurrence,Tx.bind_eq,exec_bind,exec_selectForUpdate,Outcome.done_bind] at ended
  split at ended
  · exact Or.inl (Outcome.done.inj ended).2.symm
  · rename_i row found
    simp only [exec_bind_done] at ended
    obtain ⟨_,middle,gone,_,_,gone',ended⟩ := ended
    obtain ⟨_,rfl⟩ := Outcome.done.inj ended
    obtain rfl := exec_deleteWhere_any _ _ _ _ _ gone
    exact Or.inr ⟨row,(Option.filter_eq_some_iff.mp found).1,exec_deleteWhere_any _ _ _ _ _ gone'⟩

theorem exec_collect_fewer (library : Library) (before : Timestamp) (visited : List MessageId) (count : Nat) (rows later : Rows)
    (ended : exec constraints (collectOccurrencesBefore before visited) rows = .done count later) :
    (∀ key, later key = rows key ∨ Sweeps key ∧ later key = none) ∧ (Indexed library rows → Indexed library later) := by
  induction visited generalizing rows count with
  | nil =>
    obtain rfl := (Outcome.done.inj ended).2
    exact ⟨fun _ => Or.inl rfl,id⟩
  | cons id visited ih =>
    simp only [collectOccurrencesBefore,Tx.bind_eq,exec_bind_done] at ended
    obtain ⟨removed,middle,first,others,later',rest,ended⟩ := ended
    obtain ⟨_,rfl⟩ := Outcome.done.inj ended
    obtain ⟨fewer,indexed⟩ := ih _ _ rest
    rcases exec_collectOccurrence_done before id removed rows middle first with rfl | ⟨row,stored,rfl⟩
    · exact ⟨fewer,indexed⟩
    · refine ⟨fun key => ?_,fun old => indexed fun scheduleId due other entry => ?_⟩
      · rcases fewer key with kept | gone
        · rw [kept]
          by_cases due : key = .inl (.occurrenceDue row.scheduleId row.dueAt)
          · subst due
            exact Or.inr ⟨trivial,Function.update_self _ _ _⟩
          · rw [Function.update_of_ne due]
            by_cases own : key = .inl (.occurrence id)
            · subst own
              exact Or.inr ⟨trivial,Function.update_self _ _ _⟩
            · exact Or.inl (Function.update_of_ne own _ _)
        · exact Or.inr gone
      · by_cases same : scheduleId = row.scheduleId ∧ due = row.dueAt
        · obtain ⟨rfl,rfl⟩ := same
          rw [Function.update_self] at entry
          cases entry
        · have apart : (.inl (.occurrenceDue scheduleId due) : Key) ≠ .inl (.occurrenceDue row.scheduleId row.dueAt) :=
            fun equal => same (SchedulingTable.occurrenceDue.inj (Sum.inl.inj equal))
          rw [Function.update_of_ne apart,Function.update_of_ne (fun equal => by cases equal)] at entry
          obtain ⟨named,found,held,schedule,due'⟩ := old scheduleId due other entry
          refine ⟨named,found,?_,schedule,due'⟩
          rw [Function.update_of_ne (fun equal => by cases equal),Function.update_of_ne fun equal => ?_]
          · exact held
          · obtain rfl := SchedulingTable.occurrence.inj (Sum.inl.inj equal)
            obtain rfl := Option.some.inj (stored.symm.trans held)
            exact same ⟨schedule.symm,due'.symm⟩

theorem stepped_of_same {action : SchedulerAction τ} (rows : ∀ key, isOwned key → next.rows key = s.rows key) (log : next.log = s.log) :
    Stepped library contract allowed s action next :=
  .quiet (fun _ => rows _ rfl) (fun _ _ => rows _ rfl) (fun _ _ stored => (rows _ rfl).symm.trans stored)
    (fun indexed scheduleId due id entry => by
      obtain ⟨named,row,stored,own⟩ := indexed scheduleId due id ((rows _ rfl).symm.trans entry)
      exact ⟨named,row,(rows _ rfl).trans stored,own⟩) log

theorem stepped {action : SchedulerAction τ} (step : s.step library contract allowed action = some next) :
    Stepped library contract allowed s action next := by
  cases action with
  | start process scan limit now =>
    simp only [Scheduler.step] at step
    split at step
    · cases step
      exact stepped_of_same (fun _ _ => rfl) rfl
    · cases step
  | handle process draws =>
    simp only [Scheduler.step] at step
    split at step
    · rename_i number now scheduleId waiting report running
      cases ended : exec constraints (Scheduling.handle library scheduleId draws now) s.rows with
      | abandoned | refused =>
        rw [ended] at step
        cases step
        exact stepped_of_same (fun _ _ => rfl) (List.append_nil _)
      | done handled later =>
        rw [ended] at step
        obtain ⟨schedule,nextDueAt,middle,advances,rfl⟩ := (exec_handle_done _ _ _ _ _ _ _).mp ended
        cases step
        refine .handled number scheduleId draws now handled schedule nextDueAt middle advances rfl ?_ ⟨process,rfl⟩
        change s.log ++ handledEvents s.rows number scheduleId _ = _
        simp only [handledEvents,handledEvent,advances.found]
        cases handled.published <;> rfl
    · cases step
  | leave process failed =>
    simp only [Scheduler.step] at step
    split at step
    · cases step
      exact stepped_of_same (fun _ _ => rfl) rfl
    · cases step
  | register message draws now =>
    cases step
    cases ended : exec constraints (apply library contract allowed message draws now) s.rows with
    | abandoned | refused => exact stepped_of_same (fun _ _ => rfl) (List.append_nil _)
    | done value later =>
      have applies := (exec_apply_done _ _ _ _ _ _ _ _ _).mp ended
      cases applies with
      | rejected later refused audits =>
        refine stepped_of_same (fun key owned => ?_) (List.append_nil _)
        change later key = s.rows key
        rw [audits.later]
        exact Function.update_of_ne (fun same => by subst same; cases owned) _ _
      | applied input nextDueAt scheduleId middle later accepts stores audits =>
        have untouched (key : SchedulingTable) : later (.inl key) = middle (.inl key) := by
          rw [audits.later]
          exact Function.update_of_ne (fun same => by cases same) _ _
        refine .registered message draws now input nextDueAt scheduleId middle accepts stores untouched ?_ rfl
        change s.log ++ registeredEvents contract message now (.done .applied later) = _
        simp only [registeredEvents,accepts.read,untouched,stores.named]
  | collect visited before =>
    cases step
    cases ended : exec constraints (collectOccurrencesBefore before visited) s.rows with
    | abandoned | refused => exact stepped_of_same (fun _ _ => rfl) rfl
    | done count later =>
      obtain ⟨fewer,indexed⟩ := exec_collect_fewer library before visited count s.rows later ended
      refine .quiet (fun id => ?_) (fun service name => ?_) (fun id row stored => ?_) indexed rfl
      · exact (fewer _).resolve_right fun swept => swept.1
      · exact (fewer _).resolve_right fun swept => swept.1
      · rcases fewer (.inl (.occurrence id)) with kept | ⟨_,gone⟩
        · exact kept.symm.trans stored
        · cases gone.symm.trans stored
  | elsewhere others =>
    cases step
    exact stepped_of_same (fun key owned => if_pos owned) rfl

end Stepped

end Scheduler

end Ratatoskr.Scheduling
