import Ratatoskr.Scheduling.Intervals

/-! When a due schedule moves forward: which due schedules are stuck, in every state that is reached. -/
set_option linter.unusedSectionVars false

namespace Ratatoskr.Scheduling

open Transaction Eventing

/-- What the scheduler relies on in the crates it uses. -/
structure Library.Prints (library : Library) : Prop where
  text : ∀ name, lengthBetween 1 255 (library.uuidText (library.newV5 name)) = true
  scheduleRef : ∀ id, library.isScheduleRef ("schedule:" ++ library.uuidText id) = true
  occurrenceRef : ∀ id, library.isOccurrenceRef (Scheduling.occurrenceRef library id) = true
  entityRef : ∀ id, library.isEntityRef (Scheduling.occurrenceRef library id) = true
  producer : library.isProducerName platformProducer = true
  valid : ∀ payload : DigestOccurrence, payload.previousDueAt < payload.dueAt →
    payload.dueAt - payload.previousDueAt ≤ digestMaxSpan → library.validForPublish payload = true

/-- The producers that may report an operation have the name of one. -/
theorem isProducerName_of_allows {kind producer : String} (allowed : Operations.allows kind producer = true) :
    Operations.isProducerName producer = true := by
  have listed : ∀ row ∈ Operations.authority, ∀ names, row.2 = .listed names →
      ∀ name ∈ names, Operations.isProducerName name = true := by
    simp only [Operations.authority,List.forall_mem_cons,Operations.Producers.listed.injEq,reduceCtorEq,
      false_imp_iff,implies_true,forall_eq',true_and,List.not_mem_nil,and_true]
    decide +kernel
  simp only [Operations.allows,Operations.producersFor] at allowed
  split at allowed
  · rename_i names found
    obtain ⟨row,here,same⟩ := Option.map_eq_some_iff.mp found
    exact listed row (List.mem_of_find?_eq_some here) names same producer (by simpa using allowed)
  · cases allowed

/-- The command text of an occurrence, when it can be built. -/
def commandText (library : Library) (scheduleId : ScheduleId) (schedule : Schedule) (draws : Draws) (now : Timestamp) : String :=
  match envelope library scheduleId schedule (pairId library scheduleId schedule.nextDueAt) draws now with
  | .ok message => library.wire message
  | .error _ => ""

/-- The envelope of an occurrence can be built wherever the expression evaluates. -/
theorem envelope_ok {library : Library} {instants : library.cron.Schedule → Set Int} (lawful : library.cron.Lawful instants)
    (prints : library.Prints) {scheduleId : ScheduleId} {schedule : Schedule} (whole : Whole schedule.nextDueAt)
    (parsed : (parseExpression library.cron schedule.cronExpression).isSome) (id : MessageId) (draws : Draws)
    (now : Timestamp) : ∃ message, envelope library scheduleId schedule id draws now = .ok message := by
  rw [envelope]
  split
  · obtain ⟨grid,parsed⟩ := Option.isSome_iff_exists.mp parsed
    have searched : ∃ previous, previousBefore library.cron schedule.cronExpression (fromOffset schedule.nextDueAt)
        digestMaxSpan = some previous := by
      simp only [previousBefore,parsed,Option.bind_eq_bind,Option.bind_some,Option.pure_def]
      split <;> exact ⟨_,rfl⟩
    obtain ⟨previous,found⟩ := searched
    obtain ⟨below,within⟩ := previousBefore_bounds lawful whole (by decide) found
    have valid := prints.valid ⟨"schedule:" ++ library.uuidText scheduleId,occurrenceRef library id,previous,
      fromOffset schedule.nextDueAt⟩ below within
    simp only [digestOccurrence,found,prints.scheduleRef,prints.occurrenceRef,prints.entityRef,prints.producer,valid,
      Bool.not_true,Bool.false_eq_true,if_false]
    exact ⟨_,rfl⟩
  · exact ⟨_,rfl⟩

section Advance

variable {library : Library} {instants : library.cron.Schedule → Set Int} {scheduleId : ScheduleId} {schedule : Schedule}
  {draws : Draws} {now nextDueAt : Timestamp} {rows : Rows}

/-- The row of a due schedule can be moved to its next due time. -/
theorem Schedule.Kept.rescheduled (kept : schedule.Kept) (due : schedule.nextDueAt ≤ toOffset now) (published : Bool) :
    (schedule.rescheduled nextDueAt published now).checks = true ∧
      (schedule.rescheduled nextDueAt published now).storable = true := by
  refine ⟨?_,kept.storable⟩
  have checks := kept.checks
  have created := kept.created
  simp only [Schedule.checks,Schedule.rescheduled,Bool.and_eq_true,decide_eq_true_eq] at checks ⊢
  exact ⟨checks.1,decide_eq_true (created.trans_le due).le⟩

/-- Of the operation of an occurrence, only its key can be in the way. -/
theorem acceptable_iff (prints : library.Prints) (kept : schedule.Kept)
    (fresh : rows (.inr (.operation draws.operationId)) = none) :
    Operations.Acceptable rows.second draws.operationId schedule.ownerUserId schedule.operationKind draws.correlation.val
        (some (pairKey library scheduleId schedule.nextDueAt)) (reporter schedule) now ↔
      rows (.inr (.operationKey schedule.ownerUserId schedule.operationKind
        (pairKey library scheduleId schedule.nextDueAt))) = none := by
  refine ⟨fun acceptable => acceptable.unused _ rfl,fun unused => ⟨?_,?_,fresh,?_⟩⟩
  · simp only [reporter]
    cases allowed : Operations.allows schedule.operationKind schedule.serviceName <;> simp [Option.filter,allowed]
  · have kind : isDottedName schedule.operationKind = true := by
      have checks := kept.checks
      simp only [Schedule.checks,Bool.and_eq_true] at checks
      exact checks.1.1.2
    have producer : (reporter schedule).all Operations.isProducerName = true := by
      simp only [reporter]
      cases allowed : Operations.allows schedule.operationKind schedule.serviceName with
      | false => simp [Option.filter,allowed]
      | true => simpa [Option.filter,allowed] using isProducerName_of_allows allowed
    simp [Operations.OperationRecord.checks,Operations.newRecord,Operations.newOperation,Operations.Operation.checks,kind,
      producer,Operations.stageIsBounded,Operations.percentIsAPercentage,draws.correlation.property,prints.text,pairKey,pairId,occurrenceId,
      Operations.statusIsTerminal,Operations.statusStr]
  · intro key same
    obtain rfl := Option.some.inj same
    exact unused

/-- Of the command of an occurrence, only the length of its text can be in the way. -/
theorem command_checks_iff {subject : String} {message : Message}
    (made : Subject.new .command schedule.commandType = .ok subject) :
    (commandRow library scheduleId schedule draws now subject message).checks = true ↔
      (library.wire message).utf8ByteSize ≤ 786432 := by
  simp only [OutboxRow.checks,commandRow,Outbox.enqueuedRow,new_isSubject made,Option.isSome_none,Option.isNone_none,
    Option.all_none,Bool.or_self,Bool.and_true,Bool.true_and,beq_self_eq_true]
  exact decide_eq_true_iff

theorem publishable_iff (lawful : library.cron.Lawful instants) (prints : library.Prints) (kept : schedule.Kept)
    (indexed : Scheduler.Indexed library rows) (due : schedule.nextDueAt ≤ toOffset now)
    (evaluates : nextAfter library.cron schedule.cronExpression (fromOffset schedule.nextDueAt) = some nextDueAt)
    (fresh : rows (.inr (.operation draws.operationId)) = none)
    (unrecorded : rows (.inl (.occurrence (pairId library scheduleId schedule.nextDueAt))) = none) :
    (∃ subject message, Publishable library scheduleId schedule (driftSeconds schedule now) draws now rows subject message) ↔
      rows (.inr (.operationKey schedule.ownerUserId schedule.operationKind
          (pairKey library scheduleId schedule.nextDueAt))) = none ∧
        (commandText library scheduleId schedule draws now).utf8ByteSize ≤ 786432 := by
  constructor
  · rintro ⟨subject,message,publishable⟩
    refine ⟨publishable.operation.unused _ rfl,?_⟩
    rw [commandText,publishable.built]
    exact (command_checks_iff publishable.made).mp publishable.command
  · rintro ⟨unused,short⟩
    have parsed : (parseExpression library.cron schedule.cronExpression).isSome := by
      obtain ⟨grid,_,parsed,_⟩ := nextAfter_eq_some.mp evaluates
      exact parsed ▸ rfl
    obtain ⟨message,built⟩ : ∃ message, envelope library scheduleId schedule
        (pairId library scheduleId schedule.nextDueAt) draws now = .ok message :=
      envelope_ok lawful prints kept.whole parsed _ _ _
    cases made : Subject.new .command schedule.commandType with
    | error => exact absurd kept.subject (by rw [made]; exact Bool.false_ne_true)
    | ok subject =>
      rw [commandText,built] at short
      refine ⟨subject,message,made,(acceptable_iff prints kept fresh).mpr unused,?_,unrecorded,?_,built,
        (command_checks_iff made).mpr short⟩
      · simp [Occurrence.checks,occurrenceRow,driftSeconds,due]
      · -- an entry of the index would be that of an occurrence under the same identifier
        refine Option.not_isSome_iff_eq_none.mp fun entry => ?_
        obtain ⟨id,entry⟩ := Option.isSome_iff_exists.mp entry
        obtain ⟨named,row,stored,_⟩ := indexed scheduleId schedule.nextDueAt id entry
        rw [named,unrecorded] at stored
        cases stored

/-- A due schedule that is stored moves forward exactly when its occurrence was published before or can
be published now. -/
theorem handle_advances_iff_publishable
    (walks : ∀ schedule t g, library.cron.after schedule t = some g → Grid.After (instants schedule) t g)
    (kept : schedule.Kept) (found : rows (.inl (.schedule scheduleId)) = some schedule) (enabled : schedule.enabled = true)
    (due : schedule.nextDueAt ≤ toOffset now)
    (evaluates : nextAfter library.cron schedule.cronExpression (fromOffset schedule.nextDueAt) = some nextDueAt) :
    (∃ handled later after, exec constraints (handle library scheduleId draws now) rows = .done handled later ∧
        later (.inl (.schedule scheduleId)) = some after ∧ schedule.nextDueAt < after.nextDueAt) ↔
      (rows (.inl (.occurrence (pairId library scheduleId schedule.nextDueAt)))).isSome ∨
        ∃ subject message,
          Publishable library scheduleId schedule (driftSeconds schedule now) draws now rows subject message := by
  have ahead : schedule.nextDueAt < toOffset nextDueAt := (after_of_nextAfter walks kept.whole evaluates).lt
  have moves (published : Option Publication) (middle : Rows)
      (once : PublishedOnce library scheduleId schedule draws now rows published middle) :
      ∃ handled later after, exec constraints (handle library scheduleId draws now) rows = .done handled later ∧
        later (.inl (.schedule scheduleId)) = some after ∧ schedule.nextDueAt < after.nextDueAt := by
    obtain ⟨checks,storable⟩ : (schedule.rescheduled nextDueAt published.isSome now).checks = true ∧
        (schedule.rescheduled nextDueAt published.isSome now).storable = true := kept.rescheduled due published.isSome
    refine ⟨⟨schedule.name,published,driftSeconds schedule now⟩,_,schedule.rescheduled nextDueAt published.isSome now,
      (exec_handle_done _ _ _ _ _ _ _).mpr ⟨schedule,nextDueAt,middle,
        ⟨found,enabled,due,evaluates,once,checks,storable,rfl,rfl⟩,rfl⟩,Function.update_self _ _ _,ahead⟩
  constructor
  · rintro ⟨handled,later,after,ended,_⟩
    obtain ⟨own,_,middle,advances,_⟩ := (exec_handle_done _ _ _ _ _ _ _).mp ended
    obtain rfl := Option.some.inj (found.symm.trans advances.found)
    have once := advances.once
    cases published : handled.published with
    | none =>
      rw [published] at once
      cases once with
      | suppressed stored => exact Or.inl stored
    | some publication =>
      rw [published] at once
      cases once with
      | published subject message publishable => exact Or.inr ⟨subject,message,publishable⟩
  · rintro (stored | ⟨subject,message,publishable⟩)
    · exact moves _ _ (.suppressed stored)
    · exact moves _ _ (.published subject message publishable)

end Advance

section Runs

variable {τ : Type} [DecidableEq τ] (library : Library) (contract : RegistrationContract) (allowed : List String)
  (instants : library.cron.Schedule → Set Int)

/-- In every state that is reached, a due schedule moves forward exactly when its occurrence is still on
record, or its operation is not and its command is short enough for the outbox. -/
theorem handle_advances_iff (lawful : library.cron.Lawful instants) (prints : library.Prints) (s : Scheduler τ)
    (reached : s.Reachable library contract allowed) (scheduleId : ScheduleId) (schedule : Schedule) (draws : Draws)
    (now nextDueAt : Timestamp) (found : s.rows (.inl (.schedule scheduleId)) = some schedule)
    (enabled : schedule.enabled = true) (due : schedule.nextDueAt ≤ toOffset now)
    (evaluates : nextAfter library.cron schedule.cronExpression (fromOffset schedule.nextDueAt) = some nextDueAt)
    (fresh : s.rows (.inr (.operation draws.operationId)) = none) :
    (∃ handled later after, exec constraints (handle library scheduleId draws now) s.rows = .done handled later ∧
        later (.inl (.schedule scheduleId)) = some after ∧ schedule.nextDueAt < after.nextDueAt) ↔
      (s.rows (.inl (.occurrence (pairId library scheduleId schedule.nextDueAt)))).isSome ∨
        s.rows (.inr (.operationKey schedule.ownerUserId schedule.operationKind
            (pairKey library scheduleId schedule.nextDueAt))) = none ∧
          (commandText library scheduleId schedule draws now).utf8ByteSize ≤ 786432 := by
  have walks : ∀ schedule t g, library.cron.after schedule t = some g → Grid.After (instants schedule) t g :=
    fun schedule t g found => (lawful.after schedule t g).mp found
  obtain ⟨others,actions,ran⟩ := reached
  have sound := StateMachine.run_invariant _ (Scheduler.Sound library) (fun _ _ _ sound stepped => sound.step walks stepped) _
    actions s (Scheduler.initial_sound others) ran
  have kept := sound.kept scheduleId schedule found
  rw [handle_advances_iff_publishable walks kept found enabled due evaluates]
  cases recorded : s.rows (.inl (.occurrence (pairId library scheduleId schedule.nextDueAt))) with
  | some row => simp
  | none =>
    have publishable := publishable_iff lawful prints kept sound.indexed due evaluates fresh recorded
    simp only [Option.isSome_none,Bool.false_eq_true,false_or]
    exact publishable

end Runs

section Minutely

theorem minutely_lawful : minutely.Lawful fun _ => {second : Int | 60 ∣ second} := by
  refine ⟨fun schedule t g => ⟨minutely_walks schedule t g,fun after => ?_⟩,fun schedule t g => ?_⟩
  · exact congrArg some ((minutely_walks schedule t _ rfl).unique after)
  · have step : Grid.Before {second : Int | 60 ∣ second} t (60 * ((t - 1) / 60)) :=
      ⟨⟨⟨(t - 1) / 60,rfl⟩,by omega⟩,fun h ⟨⟨minute,same⟩,earlier⟩ => by omega⟩
    exact ⟨fun found => Option.some.inj found ▸ step,fun before => congrArg some (step.unique before)⟩

theorem minutely_prints : minutelyLibrary.Prints where
  text name := by
    change lengthBetween 1 255 (hyphenated ((minutelyIds.lookup name).getD 0)) = true
    cases found : minutelyIds.lookup name with
    | none => decide +kernel
    | some id =>
      obtain ⟨before,after,listed,_⟩ := List.lookup_eq_some_iff.mp found
      have short : ∀ entry ∈ minutelyIds, lengthBetween 1 255 (hyphenated entry.2) = true := by decide +kernel
      exact short (name,id) (listed ▸ List.mem_append_right before List.mem_cons_self)
  scheduleRef _ := rfl
  occurrenceRef _ := rfl
  entityRef _ := rfl
  producer := rfl
  valid payload below within := by
    change (decide _ && decide _) = true
    rw [decide_eq_true below,decide_eq_true within,Bool.and_self]

/-- The occurrence of a published due time is swept, and a registration by a clock set back brings the
schedule there again. -/
def rewound : List (SchedulerAction Unit) :=
  [.register (minutelyMessage true) ⟨minutelySchedule,50⟩ 0,.start () [minutelySchedule] 10 60000000000,
    .handle () (minutelyDraws 1),.collect [pairId minutelyLibrary minutelySchedule 60000000] 70000000000,
    .register (minutelyMessage true) ⟨0,51⟩ 30000000000]

/-- From then on every pass fails for the schedule, as the operation of the due time is still there. -/
theorem rewound_schedule_is_stuck : ∃ (s : Scheduler Unit) (schedule : Schedule) (nextDueAt : Timestamp),
    s.Reachable minutelyLibrary minutelyContract ["ratatoskr-github"] ∧
      s.rows (.inl (.schedule minutelySchedule)) = some schedule ∧ schedule.enabled = true ∧
      schedule.nextDueAt ≤ toOffset 100000000000 ∧
      nextAfter minutely schedule.cronExpression (fromOffset schedule.nextDueAt) = some nextDueAt ∧
      ∀ draws now handled later,
        exec constraints (handle minutelyLibrary minutelySchedule draws now) s.rows ≠ .done handled later := by
  have ran : ((StateMachine.run minutelyStep (Scheduler.initial oneUser) rewound).bind fun s =>
      (s.rows (.inl (.schedule minutelySchedule))).map fun schedule : Schedule =>
        schedule.enabled && schedule.nextDueAt == 60000000 &&
          (nextAfter minutely schedule.cronExpression (fromOffset schedule.nextDueAt)).isSome &&
          (s.rows (.inl (.occurrence (pairId minutelyLibrary minutelySchedule schedule.nextDueAt)))).isNone &&
          (s.rows (.inr (.operationKey schedule.ownerUserId schedule.operationKind
            (pairKey minutelyLibrary minutelySchedule schedule.nextDueAt)))).isSome) = some true := by decide +kernel
  obtain ⟨s,reached,ran⟩ := Option.bind_eq_some_iff.mp ran
  obtain ⟨schedule,found,ended⟩ := Option.map_eq_some_iff.mp ran
  simp only [Bool.and_eq_true,beq_iff_eq] at ended
  obtain ⟨⟨⟨⟨enabled,due⟩,evaluates⟩,unrecorded⟩,used⟩ := ended
  obtain ⟨nextDueAt,evaluates⟩ := Option.isSome_iff_exists.mp evaluates
  refine ⟨s,schedule,nextDueAt,⟨oneUser,rewound,reached⟩,found,enabled,by rw [due]; decide,evaluates,?_⟩
  intro draws now handled later ended
  obtain ⟨own,_,middle,advances,_⟩ := (exec_handle_done _ _ _ _ _ _ _).mp ended
  obtain rfl := Option.some.inj (found.symm.trans advances.found)
  have once := advances.once
  cases published : handled.published with
  | none =>
    rw [published] at once
    cases once with
    | suppressed stored =>
      rw [Option.isNone_iff_eq_none.mp unrecorded] at stored
      cases stored
  | some publication =>
    rw [published] at once
    cases once with
    | published subject message publishable =>
      have unused : s.rows (.inr (.operationKey _ _ _)) = none := publishable.operation.unused _ rfl
      rw [unused] at used
      cases used

/-- A schedule that is due for the first time -/
theorem minutely_handle_advances : ∃ (s : Scheduler Unit) (handled : Handled) (later : Rows) (after : Schedule),
    exec constraints (handle minutelyLibrary minutelySchedule (minutelyDraws 1) 60000000000) s.rows = .done handled later ∧
      later (.inl (.schedule minutelySchedule)) = some after ∧ 60000000 < after.nextDueAt := by
  have ran : ((StateMachine.run minutelyStep (Scheduler.initial oneUser)
      [.register (minutelyMessage true) ⟨minutelySchedule,50⟩ 0]).bind fun s =>
        (s.rows (.inl (.schedule minutelySchedule))).map fun schedule : Schedule =>
          schedule.enabled && schedule.nextDueAt == 60000000 &&
            (nextAfter minutely schedule.cronExpression (fromOffset schedule.nextDueAt)).isSome &&
            (s.rows (.inr (.operation 1))).isNone &&
            (s.rows (.inr (.operationKey schedule.ownerUserId schedule.operationKind
              (pairKey minutelyLibrary minutelySchedule schedule.nextDueAt)))).isNone &&
            (commandText minutelyLibrary minutelySchedule schedule (minutelyDraws 1) 60000000000).utf8ByteSize == 2) =
      some true := by decide +kernel
  obtain ⟨s,reached,ran⟩ := Option.bind_eq_some_iff.mp ran
  obtain ⟨schedule,found,ended⟩ := Option.map_eq_some_iff.mp ran
  simp only [Bool.and_eq_true,beq_iff_eq,Option.isNone_iff_eq_none] at ended
  obtain ⟨⟨⟨⟨⟨enabled,due⟩,evaluates⟩,fresh⟩,unused⟩,short⟩ := ended
  obtain ⟨nextDueAt,evaluates⟩ := Option.isSome_iff_exists.mp evaluates
  obtain ⟨handled,later,after,ended,moved,ahead⟩ := (handle_advances_iff minutelyLibrary minutelyContract
    ["ratatoskr-github"] (fun _ => {second : Int | 60 ∣ second}) minutely_lawful minutely_prints s ⟨oneUser,_,reached⟩
    minutelySchedule schedule (minutelyDraws 1) 60000000000 nextDueAt found enabled (by rw [due]; decide) evaluates fresh).mpr
    (Or.inr ⟨unused,by omega⟩)
  exact ⟨s,handled,later,after,ended,moved,due ▸ ahead⟩

end Minutely

end Ratatoskr.Scheduling
