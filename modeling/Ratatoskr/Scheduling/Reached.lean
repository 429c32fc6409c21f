import Ratatoskr.Scheduling.Passes

/-! What holds of the schedules and the occurrences in every state the schedulers reach. -/
set_option linter.unusedSectionVars false

namespace Ratatoskr.Scheduling

open Transaction Eventing

def Event.scheduleId : Event → ScheduleId
  | .published _ publication => publication.scheduleId
  | .suppressed _ scheduleId _ => scheduleId
  | .registered scheduleId _ _ => scheduleId

section Next

variable {library : Library} {instants : library.cron.Schedule → Set Int}
  (walks : ∀ schedule t g, library.cron.after schedule t = some g → Grid.After (instants schedule) t g)
  {expression : String}

include walks

/-- The step from a due time is a step of the grid. -/
theorem after_of_nextAfter {due : Int} {next : Timestamp} (whole : Whole due)
    (found : nextAfter library.cron expression (fromOffset due) = some next) :
    Grid.After (dueGrid library.cron expression instants) due (toOffset next) := by
  obtain ⟨schedule,second,parsed,after,rfl⟩ := nextAfter_eq_some.mp found
  obtain ⟨first,rfl⟩ := whole
  rw [fromOffset_ofSecond,asSecond_ofSecond] at after
  exact (after_dueGrid_iff schedule parsed first second).mpr (walks schedule first second after)

/-- The step from the clock is ahead of it. -/
theorem lt_of_nextAfter {now next : Timestamp} (found : nextAfter library.cron expression now = some next) :
    toOffset now < toOffset next ∧ toOffset next ∈ dueGrid library.cron expression instants := by
  obtain ⟨schedule,second,parsed,after,rfl⟩ := nextAfter_eq_some.mp found
  have step := walks schedule (asSecond now) second after
  exact ⟨lt_of_asSecond_lt now second step.lt,⟨schedule,second,parsed,step.mem,rfl⟩⟩

omit walks in
theorem whole_of_nextAfter {after next : Timestamp} (found : nextAfter library.cron expression after = some next) :
    Whole (toOffset next) := by
  obtain ⟨_,second,_,_,rfl⟩ := nextAfter_eq_some.mp found
  exact ⟨second,rfl⟩

end Next

/-- What is true of a stored schedule. -/
structure Schedule.Kept (row : Schedule) : Prop where
  whole : Whole row.nextDueAt
  checks : row.checks = true
  storable : row.storable = true
  created : row.createdAt < row.nextDueAt
  subject : (Subject.new .command row.commandType).isOk = true

section Kept

variable {library : Library} {instants : library.cron.Schedule → Set Int}
  (walks : ∀ schedule t g, library.cron.after schedule t = some g → Grid.After (instants schedule) t g)

include walks

theorem Advances.kept {scheduleId : ScheduleId} {draws : Draws} {now nextDueAt : Timestamp} {rows middle : Rows}
    {handled : Handled} {schedule : Schedule}
    (advances : Advances library scheduleId draws now rows handled schedule nextDueAt middle) (kept : schedule.Kept) :
    (schedule.rescheduled nextDueAt handled.published.isSome now).Kept where
  whole := whole_of_nextAfter advances.next
  checks := advances.checks
  storable := advances.storable
  created := kept.created.trans (after_of_nextAfter walks kept.whole advances.next).lt
  subject := kept.subject

variable {contract : RegistrationContract} {allowed : List String} {message : Incoming Json} {now nextDueAt : Timestamp}
  {rows : Rows} {input : Registration}

omit walks in
theorem Accepts.subject (accepts : Accepts library contract allowed message now rows input nextDueAt) :
    (Subject.new .command input.commandType).isOk = true := by
  have admitted := accepts.admitted
  simp only [Registration.admitted,Bool.and_eq_true] at admitted
  exact admitted.1.2

theorem Accepts.row_kept (accepts : Accepts library contract allowed message now rows input nextDueAt)
    (checks : (input.row nextDueAt now).checks = true) (storable : (input.row nextDueAt now).storable = true) :
    (input.row nextDueAt now).Kept where
  whole := whole_of_nextAfter accepts.next
  checks := checks
  storable := storable
  created := (lt_of_nextAfter walks accepts.next).1
  subject := accepts.subject

theorem Accepts.edited_kept (accepts : Accepts library contract allowed message now rows input nextDueAt) {row : Schedule}
    (kept : row.Kept) (checks : (row.edited input nextDueAt now).checks = true)
    (storable : (row.edited input nextDueAt now).storable = true) : (row.edited input nextDueAt now).Kept where
  whole := by
    change Whole (if row.nextDueAt ≤ toOffset now then row.nextDueAt else toOffset nextDueAt)
    split
    · exact kept.whole
    · exact whole_of_nextAfter accepts.next
  checks := checks
  storable := storable
  created := by
    have ordered : row.createdAt ≤ toOffset now := by
      simp only [Schedule.checks,Bool.and_eq_true,decide_eq_true_eq] at checks
      exact checks.2
    have ahead := (lt_of_nextAfter walks accepts.next).1
    have before := kept.created
    change row.createdAt < if row.nextDueAt ≤ toOffset now then row.nextDueAt else toOffset nextDueAt
    split <;> omega
  subject := accepts.subject

end Kept

namespace Scheduler

variable {τ : Type} [DecidableEq τ] {library : Library} {contract : RegistrationContract} {allowed : List String}

structure Sound (library : Library) (s : Scheduler τ) : Prop where
  named : ∀ service name id, s.rows (.inl (.scheduleName service name)) = some id → (s.rows (.inl (.schedule id))).isSome
  logged : ∀ event ∈ s.log, (s.rows (.inl (.schedule event.scheduleId))).isSome
  kept : ∀ id row, s.rows (.inl (.schedule id)) = some row → row.Kept
  occurrences : ∀ id row, s.rows (.inl (.occurrence id)) = some row → ∃ number publication,
    .published number publication ∈ s.log ∧ id = pairId library publication.scheduleId publication.dueAt
  indexed : Indexed library s.rows

theorem initial_sound (others : Rows) : Sound library (initial others : Scheduler τ) where
  named _ _ _ stored := by cases stored
  logged _ member := by cases member
  kept _ _ stored := by cases stored
  occurrences _ _ stored := by cases stored
  indexed _ _ _ entry := by cases entry

variable {s next : Scheduler τ} {instants : library.cron.Schedule → Set Int}

/-- What a handled schedule changed of the scheduler's rows. -/
structure Moved (library : Library) (scheduleId : ScheduleId) (schedule : Schedule) (handled : Handled)
    (nextDueAt now : Timestamp) (rows later : Rows) : Prop where
  own : later (.inl (.schedule scheduleId)) = some (schedule.rescheduled nextDueAt handled.published.isSome now)
  others : ∀ id, id ≠ scheduleId → later (.inl (.schedule id)) = rows (.inl (.schedule id))
  names : ∀ service name, later (.inl (.scheduleName service name)) = rows (.inl (.scheduleName service name))
  occurrences : ∀ id row, later (.inl (.occurrence id)) = some row → rows (.inl (.occurrence id)) = some row ∨
    handled.published.isSome ∧ id = pairId library scheduleId schedule.nextDueAt
  published : ∀ publication, handled.published = some publication →
    publication.scheduleId = scheduleId ∧ publication.dueAt = schedule.nextDueAt
  built : ∀ publication, handled.published = some publication → ∃ draws,
    envelope library scheduleId schedule (pairId library scheduleId schedule.nextDueAt) draws now = .ok publication.message
  suppressed : handled.published = none →
    (rows (.inl (.occurrence (pairId library scheduleId schedule.nextDueAt)))).isSome
  indexed : Indexed library rows → Indexed library later

/-- A published occurrence is entered into the index of the due times. -/
theorem indexed_of_once {scheduleId : ScheduleId} {draws : Draws} {now : Timestamp} {rows middle : Rows}
    {published : Option Publication} {schedule : Schedule} (indexed : Indexed library rows)
    (once : PublishedOnce library scheduleId schedule draws now rows published middle) : Indexed library middle := by
  cases published with
  | none =>
    cases once
    exact indexed
  | some publication =>
    obtain ⟨own,due,fresh,written⟩ := once.occurrence
    intro other due' id entry
    by_cases same : other = scheduleId ∧ due' = schedule.nextDueAt
    · obtain ⟨rfl,rfl⟩ := same
      obtain rfl := once.entry.symm.trans entry |> Option.some.inj
      exact ⟨rfl,_,written,rfl,rfl⟩
    · rw [once.kept _ (fun equal => by cases equal) fun equal => same (SchedulingTable.occurrenceDue.inj equal)] at entry
      obtain ⟨named,row,stored,schedule',due''⟩ := indexed other due' id entry
      refine ⟨named,row,?_,schedule',due''⟩
      rw [once.kept _ (fun equal => ?_) fun equal => by cases equal]
      · exact stored
      · obtain rfl := SchedulingTable.occurrence.inj equal
        cases fresh.symm.trans stored

theorem moved {scheduleId : ScheduleId} {draws : Draws} {now nextDueAt : Timestamp} {rows middle later : Rows}
    {handled : Handled} {schedule : Schedule}
    (advances : Advances library scheduleId draws now rows handled schedule nextDueAt middle)
    (written : later = Function.update middle (.inl (.schedule scheduleId))
      (some (schedule.rescheduled nextDueAt handled.published.isSome now))) :
    Moved library scheduleId schedule handled nextDueAt now rows later := by
  have apart (key : SchedulingTable) (different : key ≠ .schedule scheduleId) : later (.inl key) = middle (.inl key) := by
    rw [written]
    exact Function.update_of_ne (fun same => different (Sum.inl.inj same)) _ _
  have once := advances.once
  refine ⟨?_,fun id different => ?_,fun service name => ?_,fun id row stored => ?_,fun publication published => ?_,
    fun publication published => ?_,fun none_ => ?_,fun indexed => ?_⟩
  · rw [written]
    exact Function.update_self _ _ _
  · rw [apart _ fun same => different (SchedulingTable.schedule.inj same)]
    exact once.kept _ (fun same => by cases same) fun same => by cases same
  · rw [apart _ fun same => by cases same]
    exact once.kept _ (fun same => by cases same) fun same => by cases same
  · rw [apart _ fun same => by cases same] at stored
    by_cases same : id = pairId library scheduleId schedule.nextDueAt
    · cases published : handled.published with
      | none =>
        rw [published] at once
        cases once
        exact Or.inl stored
      | some publication => exact Or.inr ⟨rfl,same⟩
    · rw [once.kept _ (fun equal => same (SchedulingTable.occurrence.inj equal)) fun equal => by cases equal] at stored
      exact Or.inl stored
  · rw [published] at once
    exact ⟨once.occurrence.1,once.occurrence.2.1⟩
  · rw [published] at once
    cases once with
    | published subject message publishable => exact ⟨draws,publishable.built⟩
  · rw [none_] at once
    cases once with
    | suppressed stored => exact stored
  · intro other due id entry
    rw [apart _ fun same => by cases same] at entry
    obtain ⟨named,row,stored,own⟩ := indexed_of_once indexed once other due id entry
    exact ⟨named,row,(apart _ fun same => by cases same).trans stored,own⟩

theorem Moved.logged {scheduleId : ScheduleId} {schedule : Schedule} {handled : Handled} {nextDueAt now : Timestamp}
    {rows later : Rows} (moved : Moved library scheduleId schedule handled nextDueAt now rows later) (number : Nat) :
    (handledEvent number scheduleId schedule handled).scheduleId = scheduleId := by
  rw [handledEvent]
  cases published : handled.published with
  | none => rfl
  | some publication => exact (moved.published publication published).1

/-- What a registration changed of the scheduler's rows. -/
structure Registered (scheduleId : ScheduleId) (input : Registration) (nextDueAt now : Timestamp) (rows later : Rows) :
    Prop where
  own : ∃ after, later (.inl (.schedule scheduleId)) = some after ∧ after.checks = true ∧ after.storable = true ∧
    (rows (.inl (.schedule scheduleId)) = none ∧ after = input.row nextDueAt now ∨
      ∃ row, rows (.inl (.schedule scheduleId)) = some row ∧ after = row.edited input nextDueAt now)
  others : ∀ id, id ≠ scheduleId → later (.inl (.schedule id)) = rows (.inl (.schedule id))
  named : later (.inl (.scheduleName input.serviceName input.name)) = some scheduleId
  names : ∀ service name, (service ≠ input.serviceName ∨ name ≠ input.name) →
    later (.inl (.scheduleName service name)) = rows (.inl (.scheduleName service name))
  kept : ∀ id, rows (.inl (.scheduleName input.serviceName input.name)) = some id → id = scheduleId
  taken : (rows (.inl (.schedule scheduleId))).isSome →
    rows (.inl (.scheduleName input.serviceName input.name)) = some scheduleId
  occurrences : ∀ id, later (.inl (.occurrence id)) = rows (.inl (.occurrence id))
  dues : ∀ id due, later (.inl (.occurrenceDue id due)) = rows (.inl (.occurrenceDue id due))

theorem Sound.stored {draws : RegistrationDraws} {now nextDueAt : Timestamp} {input : Registration}
    {scheduleId : ScheduleId} {middle : Rows} (sound : Sound library s)
    (stores : Stores input nextDueAt draws.scheduleId now s.rows scheduleId middle)
    (rows : ∀ key, next.rows (.inl key) = middle (.inl key)) :
    Registered scheduleId input nextDueAt now s.rows next.rows := by
  have named := stores.named
  cases stores with
  | created free fresh checks storable =>
    refine ⟨⟨_,(rows _).trans (Function.update_self _ _ _),checks,storable,.inl ⟨fresh,rfl⟩⟩,fun id different => ?_,
      (rows _).trans named,fun service name different => ?_,fun id taken => ?_,fun present => ?_,fun id => ?_,fun id due => ?_⟩
    · rw [rows,Function.update_of_ne (fun same => different (SchedulingTable.schedule.inj (Sum.inl.inj same))),
        Function.update_of_ne (fun same => by cases same)]
    · rw [rows,Function.update_of_ne (fun same => by cases same),Function.update_of_ne fun same => ?_]
      obtain ⟨rfl,rfl⟩ := SchedulingTable.scheduleName.inj (Sum.inl.inj same)
      simp at different
    · cases free.symm.trans taken
    · rw [fresh] at present
      cases present
    · rw [rows,Function.update_of_ne (fun same => by cases same),Function.update_of_ne (fun same => by cases same)]
    · rw [rows,Function.update_of_ne (fun same => by cases same),Function.update_of_ne (fun same => by cases same)]
  | edited stored row taken found checks storable =>
    refine ⟨⟨_,(rows _).trans (Function.update_self _ _ _),checks,storable,.inr ⟨row,found,rfl⟩⟩,fun id different => ?_,
      (rows _).trans named,fun service name _ => ?_,fun id taken' => Option.some.inj (taken'.symm.trans taken),
      fun _ => taken,fun id => ?_,fun id due => ?_⟩
    · rw [rows,Function.update_of_ne (fun same => different (SchedulingTable.schedule.inj (Sum.inl.inj same)))]
    · rw [rows,Function.update_of_ne (fun same => by cases same)]
    · rw [rows,Function.update_of_ne (fun same => by cases same)]
    · rw [rows,Function.update_of_ne (fun same => by cases same)]
  | missed stored taken absent =>
    have present := sound.named _ _ _ taken
    rw [absent] at present
    cases present

variable (walks : ∀ schedule t g, library.cron.after schedule t = some g → Grid.After (instants schedule) t g)

include walks

theorem Sound.handled {scheduleId : ScheduleId} {draws : Draws} {now nextDueAt : Timestamp} {middle : Rows}
    {handled : Handled} {schedule : Schedule} {number : Nat} (sound : Sound library s)
    (advances : Advances library scheduleId draws now s.rows handled schedule nextDueAt middle)
    (moved : Moved library scheduleId schedule handled nextDueAt now s.rows next.rows)
    (log : next.log = s.log ++ [handledEvent number scheduleId schedule handled]) : Sound library next := by
  have present (id : ScheduleId) (before : (s.rows (.inl (.schedule id))).isSome) :
      (next.rows (.inl (.schedule id))).isSome := by
    by_cases same : id = scheduleId
    · rw [same,moved.own]
      rfl
    · rwa [moved.others id same]
  refine ⟨fun service name id stored => ?_,fun event member => ?_,fun id row stored => ?_,fun id row stored => ?_,
    moved.indexed sound.indexed⟩
  · exact present id (sound.named service name id ((moved.names service name).symm.trans stored))
  · rw [log] at member
    rcases List.mem_append.mp member with before | new
    · exact present _ (sound.logged event before)
    · rw [List.mem_singleton.mp new,moved.logged,moved.own]
      rfl
  · by_cases same : id = scheduleId
    · subst same
      obtain rfl := Option.some.inj (moved.own.symm.trans stored)
      exact advances.kept walks (sound.kept id schedule advances.found)
    · exact sound.kept id row ((moved.others id same).symm.trans stored)
  · rcases moved.occurrences id row stored with before | ⟨published,same⟩
    · obtain ⟨number,publication,member,equal⟩ := sound.occurrences id row before
      exact ⟨number,publication,log ▸ List.mem_append_left _ member,equal⟩
    · obtain ⟨publication,published⟩ := Option.isSome_iff_exists.mp published
      obtain ⟨rfl,due⟩ := moved.published publication published
      refine ⟨number,publication,?_,due ▸ same⟩
      rw [log]
      simp [handledEvent,published]

theorem Sound.registered {message : Incoming Json} {now nextDueAt : Timestamp} {input : Registration}
    {scheduleId : ScheduleId} (sound : Sound library s)
    (accepts : Accepts library contract allowed message now s.rows input nextDueAt)
    (registered : Registered scheduleId input nextDueAt now s.rows next.rows)
    (log : next.log = s.log ++ [.registered scheduleId input now]) : Sound library next := by
  obtain ⟨after,own,checks,storable,origin⟩ := registered.own
  have present (id : ScheduleId) (before : (s.rows (.inl (.schedule id))).isSome) :
      (next.rows (.inl (.schedule id))).isSome := by
    by_cases same : id = scheduleId
    · rw [same,own]
      rfl
    · rwa [registered.others id same]
  refine ⟨fun service name id stored => ?_,fun event member => ?_,fun id row stored => ?_,fun id row stored => ?_,
    fun other due id entry => ?_⟩
  · by_cases same : service = input.serviceName ∧ name = input.name
    · obtain ⟨rfl,rfl⟩ := same
      obtain rfl := Option.some.inj (registered.named.symm.trans stored)
      rw [own]
      rfl
    · have apart : service ≠ input.serviceName ∨ name ≠ input.name := by tauto
      exact present id (sound.named service name id ((registered.names service name apart).symm.trans stored))
  · rw [log] at member
    rcases List.mem_append.mp member with before | new
    · exact present _ (sound.logged event before)
    · rw [List.mem_singleton.mp new]
      exact Option.isSome_iff_exists.mpr ⟨after,own⟩
  · by_cases same : id = scheduleId
    · subst same
      obtain rfl := Option.some.inj (own.symm.trans stored)
      rcases origin with ⟨_,rfl⟩ | ⟨row,found,rfl⟩
      · exact accepts.row_kept walks checks storable
      · exact accepts.edited_kept walks (sound.kept id row found) checks storable
    · exact sound.kept id row ((registered.others id same).symm.trans stored)
  · obtain ⟨number,publication,member,equal⟩ := sound.occurrences id row ((registered.occurrences id).symm.trans stored)
    exact ⟨number,publication,log ▸ List.mem_append_left _ member,equal⟩
  · obtain ⟨named,row,stored,same⟩ := sound.indexed other due id ((registered.dues other due).symm.trans entry)
    exact ⟨named,row,(registered.occurrences id).trans stored,same⟩

theorem Sound.step {action : SchedulerAction τ} (sound : Sound library s)
    (stepped : s.step library contract allowed action = some next) : Sound library next := by
  cases Scheduler.stepped stepped with
  | quiet schedules names occurrences indexed log =>
    refine ⟨fun service name id stored => ?_,fun event member => ?_,fun id row stored => ?_,fun id row stored => ?_,
      indexed sound.indexed⟩
    · rw [names] at stored
      rw [schedules]
      exact sound.named service name id stored
    · rw [schedules]
      exact sound.logged event (log ▸ member)
    · exact sound.kept id row ((schedules id).symm.trans stored)
    · rw [log]
      exact sound.occurrences id row (occurrences id row stored)
  | handled number scheduleId draws now handled schedule nextDueAt middle advances rows log =>
    exact sound.handled walks advances (moved advances rows) log
  | registered message draws now input nextDueAt scheduleId middle accepts stores rows log =>
    exact sound.registered walks accepts (sound.stored stores rows) log

end Scheduler

end Ratatoskr.Scheduling
