import Ratatoskr.Operations.Minting
import Ratatoskr.Scheduling.Firing

/-! When the transactions of the scheduler commit, and the rows they leave. -/
namespace Ratatoskr.Scheduling

open Transaction Eventing

section Publish

variable (library : Library) (scheduleId : ScheduleId) (schedule : Schedule) (drift : Int) (draws : Draws) (now : Timestamp)

/-- The row of the command of an occurrence. -/
def commandRow (subject : String) (message : Message) : OutboxRow :=
  Outbox.enqueuedRow draws.outboxId (pairId library scheduleId schedule.nextDueAt) subject (library.wire message)
    (some draws.operationId) now

/-- The subject and the message can be built, and all three rows can be stored. -/
structure Publishable (rows : Rows) (subject : String) (message : Message) : Prop where
  made : Subject.new .command schedule.commandType = .ok subject
  operation : Operations.Acceptable rows.second draws.operationId schedule.ownerUserId schedule.operationKind
    draws.correlation.val (some (pairKey library scheduleId schedule.nextDueAt)) (reporter schedule) now
  checks : (occurrenceRow scheduleId schedule drift draws.operationId now).checks = true
  fresh : rows (.inl (.occurrence (pairId library scheduleId schedule.nextDueAt))) = none
  free : rows (.inl (.occurrenceDue scheduleId schedule.nextDueAt)) = none
  built : envelope library scheduleId schedule (pairId library scheduleId schedule.nextDueAt) draws now = .ok message
  command : (commandRow library scheduleId schedule draws now subject message).checks = true

/-- The rows with the operation and the occurrence. -/
def recordedRows (rows : Rows) : Rows :=
  let id := pairId library scheduleId schedule.nextDueAt
  let accepted := rows.withSecond (Operations.acceptedRows rows.second draws.operationId schedule.ownerUserId
    schedule.operationKind draws.correlation.val (some (library.uuidText id)) (reporter schedule) now)
  Function.update (Function.update accepted (.inl (.occurrence id))
    (some (occurrenceRow scheduleId schedule drift draws.operationId now))) (.inl (.occurrenceDue scheduleId schedule.nextDueAt))
    (some id)

/-- The rows with the command too, unless there is one under the same identifier. -/
def withCommand (rows : Rows) (subject : String) (message : Message) : Rows :=
  match rows (.inr (.outbox (pairId library scheduleId schedule.nextDueAt))) with
  | none => Function.update rows (.inr (.outbox (pairId library scheduleId schedule.nextDueAt)))
      (some (commandRow library scheduleId schedule draws now subject message))
  | some _ => rows

theorem withCommand_of_ne (rows : Rows) (subject : String) (message : Message) (key : Key)
    (apart : key ≠ .inr (.outbox (pairId library scheduleId schedule.nextDueAt))) :
    withCommand library scheduleId schedule draws now rows subject message key = rows key := by
  rw [withCommand]
  cases rows (.inr (.outbox (pairId library scheduleId schedule.nextDueAt))) with
  | none => exact Function.update_of_ne apart _ _
  | some => rfl

theorem exec_insertOccurrence_done (id : MessageId) (row : Occurrence) (value : Unit) (rows later : Rows) :
    exec constraints (insertOccurrence id row) rows = .done value later ↔
      row.checks = true ∧ rows (.inl (.occurrence id)) = none ∧
        rows (.inl (.occurrenceDue row.scheduleId row.dueAt)) = none ∧
        later = Function.update (Function.update rows (.inl (.occurrence id)) (some row))
          (.inl (.occurrenceDue row.scheduleId row.dueAt)) (some id) := by
  have apart : (.inl (.occurrenceDue row.scheduleId row.dueAt) : Key) ≠ .inl (.occurrence id) := fun same => by cases same
  simp only [insertOccurrence,Tx.bind_eq,exec_bind_done,exec_insertNew_done]
  constructor
  · rintro ⟨_,_,⟨checks,fresh,rfl⟩,_,free,rfl⟩
    rw [Function.update_of_ne apart] at free
    exact ⟨checks,fresh,free,rfl⟩
  · rintro ⟨checks,fresh,free,rfl⟩
    refine ⟨(),_,⟨checks,fresh,rfl⟩,rfl,?_,rfl⟩
    rw [Function.update_of_ne apart]
    exact free

theorem exec_enqueueOccurrence_done (subject : String) (publication : Publication) (rows later : Rows) :
    exec constraints (enqueueOccurrence library scheduleId schedule (pairId library scheduleId schedule.nextDueAt) subject
        draws now) rows = .done publication later ↔
      ∃ message, envelope library scheduleId schedule (pairId library scheduleId schedule.nextDueAt) draws now = .ok message ∧
        (commandRow library scheduleId schedule draws now subject message).checks = true ∧
        publication = ⟨scheduleId,schedule.nextDueAt,draws.operationId,message⟩ ∧
        later = withCommand library scheduleId schedule draws now rows subject message := by
  simp only [enqueueOccurrence,withCommand]
  cases built : envelope library scheduleId schedule (pairId library scheduleId schedule.nextDueAt) draws now with
  | error => simp
  | ok message =>
    simp only [Outbox.enqueue,Tx.widen_insertUnlessConflict,Tx.bind_eq,exec_bind_done,exec_insertUnlessConflict_done,
      Except.ok.injEq,exists_eq_left',Tx.pure_eq,exec_done,Outcome.done.injEq]
    change (∃ _ _, ((commandRow library scheduleId schedule draws now subject message).checks = true ∧ _) ∧ _) ↔ _
    constructor
    · rintro ⟨fresh,_,⟨checks,⟨_,absent,rfl⟩ | ⟨_,present,rfl⟩⟩,rfl,rfl⟩
      · rw [absent]
        exact ⟨checks,rfl,rfl⟩
      · obtain ⟨row,stored⟩ := Option.isSome_iff_exists.mp present
        simp only [stored]
        exact ⟨checks,trivial,trivial⟩
    · rintro ⟨checks,rfl,rfl⟩
      cases found : rows (.inr (.outbox (pairId library scheduleId schedule.nextDueAt))) with
      | none => exact ⟨true,_,⟨checks,.inl ⟨rfl,rfl,rfl⟩⟩,rfl,rfl⟩
      | some row => exact ⟨false,_,⟨checks,.inr ⟨rfl,rfl,rfl⟩⟩,rfl,rfl⟩

theorem exec_publish_done (publication : Publication) (rows later : Rows) :
    exec constraints (publish library scheduleId schedule (pairId library scheduleId schedule.nextDueAt) drift draws now)
        rows = .done publication later ↔
      ∃ subject message, Publishable library scheduleId schedule drift draws now rows subject message ∧
        publication = ⟨scheduleId,schedule.nextDueAt,draws.operationId,message⟩ ∧
        later = withCommand library scheduleId schedule draws now
          (recordedRows library scheduleId schedule drift draws now rows) subject message := by
  simp only [publish]
  cases made : Subject.new .command schedule.commandType with
  | error =>
    refine iff_of_false (fun ended => by cases ended) ?_
    rintro ⟨_,_,publishable,_⟩
    cases made.symm.trans publishable.made
  | ok subject =>
    simp only [Tx.bind_eq,exec_bind_done,constraints,exec_widen_done]
    constructor
    · rintro ⟨accepted,_,⟨own,minted,rfl⟩,ended⟩
      cases accepted with
      | error => cases ended
      | ok operation =>
        obtain ⟨acceptable,_,rfl⟩ := (Operations.exec_accept_done _ _ _ _ _ _ _ _ _ _).mp minted
        obtain ⟨_,_,inserted,enqueued⟩ := (exec_bind_done _ _ _ _ _ _).mp ended
        obtain ⟨checks,fresh,free,rfl⟩ := (exec_insertOccurrence_done _ _ _ _ _).mp inserted
        obtain ⟨message,built,command,rfl,rfl⟩ := (exec_enqueueOccurrence_done _ _ _ _ _ _ _ _ _).mp enqueued
        exact ⟨subject,message,⟨made,acceptable,checks,fresh,free,built,command⟩,rfl,rfl⟩
    · rintro ⟨_,message,publishable,rfl,rfl⟩
      obtain rfl := Except.ok.inj (made.symm.trans publishable.made)
      refine ⟨.ok _,_,⟨_,(Operations.exec_accept_done _ _ _ _ _ _ _ _ _ _).mpr ⟨publishable.operation,rfl,rfl⟩,rfl⟩,?_⟩
      refine (exec_bind_done _ _ _ _ _ _).mpr ⟨(),recordedRows library scheduleId schedule drift draws now rows,?_,?_⟩
      · exact (exec_insertOccurrence_done _ _ _ _ _).mpr ⟨publishable.checks,publishable.fresh,publishable.free,rfl⟩
      · exact (exec_enqueueOccurrence_done _ _ _ _ _ _ _ _ _).mpr ⟨message,publishable.built,publishable.command,rfl,rfl⟩

/-- Whether the due occurrence is published now or was before. -/
inductive PublishedOnce (rows : Rows) : Option Publication → Rows → Prop where
  | suppressed (stored : (rows (.inl (.occurrence (pairId library scheduleId schedule.nextDueAt)))).isSome) :
      PublishedOnce rows none rows
  | published (subject : String) (message : Message)
      (publishable : Publishable library scheduleId schedule (driftSeconds schedule now) draws now rows subject message) :
      PublishedOnce rows (some ⟨scheduleId,schedule.nextDueAt,draws.operationId,message⟩)
        (withCommand library scheduleId schedule draws now
          (recordedRows library scheduleId schedule (driftSeconds schedule now) draws now rows) subject message)

theorem exec_publishOnce_done (published : Option Publication) (rows later : Rows) :
    exec constraints (publishOnce library scheduleId schedule draws now) rows = .done published later ↔
      PublishedOnce library scheduleId schedule draws now rows published later := by
  simp only [publishOnce,recorded,Tx.bind_eq,Tx.bind_assoc,exec_bind,exec_select,Outcome.done_bind,Tx.pure_eq,exec_done]
  change exec constraints (if (rows (.inl (.occurrence (pairId library scheduleId schedule.nextDueAt)))).isSome = true then _
    else (publish library scheduleId schedule (pairId library scheduleId schedule.nextDueAt) _ draws now).bind _) _ = _ ↔ _
  by_cases stored : (rows (.inl (.occurrence (pairId library scheduleId schedule.nextDueAt)))).isSome = true
  · rw [if_pos stored]
    constructor
    · intro ended
      obtain ⟨rfl,rfl⟩ := Outcome.done.inj ended
      exact .suppressed stored
    · intro once
      cases once with
      | suppressed => rfl
      | published subject message publishable =>
        rw [publishable.fresh] at stored
        cases stored
  · rw [if_neg stored,exec_bind_done]
    constructor
    · rintro ⟨publication,_,fired,ended⟩
      obtain ⟨subject,message,publishable,rfl,rfl⟩ := (exec_publish_done _ _ _ _ _ _ _ _ _).mp fired
      obtain ⟨rfl,rfl⟩ := Outcome.done.inj ended
      exact .published subject message publishable
    · intro once
      cases once with
      | suppressed own => exact absurd own stored
      | published subject message publishable =>
        exact ⟨_,_,(exec_publish_done _ _ _ _ _ _ _ _ _).mpr ⟨subject,message,publishable,rfl,rfl⟩,rfl⟩

variable {library scheduleId schedule draws now}

/-- A publication leaves the row of its schedule alone, and every other row of the scheduler but the
occurrence's own. -/
theorem PublishedOnce.kept {rows later : Rows} {published : Option Publication}
    (once : PublishedOnce library scheduleId schedule draws now rows published later) (key : SchedulingTable)
    (apart : key ≠ .occurrence (pairId library scheduleId schedule.nextDueAt))
    (apart' : key ≠ .occurrenceDue scheduleId schedule.nextDueAt) : later (.inl key) = rows (.inl key) := by
  cases once with
  | suppressed => rfl
  | published subject message publishable =>
    have recorded : recordedRows library scheduleId schedule (driftSeconds schedule now) draws now rows (.inl key) =
        rows (.inl key) := by
      rw [recordedRows,Function.update_of_ne (fun same => apart' (Sum.inl.inj same)),
        Function.update_of_ne (fun same => apart (Sum.inl.inj same))]
      rfl
    rw [withCommand_of_ne _ _ _ _ _ _ _ _ _ (fun same => by cases same)]
    exact recorded

/-- The occurrence of a publication, as it is stored. -/
theorem PublishedOnce.occurrence {rows later : Rows} {publication : Publication}
    (once : PublishedOnce library scheduleId schedule draws now rows (some publication) later) :
    publication.scheduleId = scheduleId ∧ publication.dueAt = schedule.nextDueAt ∧
      rows (.inl (.occurrence (pairId library scheduleId schedule.nextDueAt))) = none ∧
      later (.inl (.occurrence (pairId library scheduleId schedule.nextDueAt))) =
        some (occurrenceRow scheduleId schedule (driftSeconds schedule now) draws.operationId now) := by
  cases once with
  | published subject message publishable =>
    refine ⟨rfl,rfl,publishable.fresh,?_⟩
    have recorded : recordedRows library scheduleId schedule (driftSeconds schedule now) draws now rows
        (.inl (.occurrence (pairId library scheduleId schedule.nextDueAt))) =
        some (occurrenceRow scheduleId schedule (driftSeconds schedule now) draws.operationId now) := by
      rw [recordedRows,Function.update_of_ne (fun same => by cases same)]
      exact Function.update_self _ _ _
    rw [withCommand_of_ne _ _ _ _ _ _ _ _ _ (fun same => by cases same)]
    exact recorded

/-- And its entry in the index of the due times -/
theorem PublishedOnce.entry {rows later : Rows} {publication : Publication}
    (once : PublishedOnce library scheduleId schedule draws now rows (some publication) later) :
    later (.inl (.occurrenceDue scheduleId schedule.nextDueAt)) = some (pairId library scheduleId schedule.nextDueAt) := by
  cases once with
  | published subject message publishable =>
    rw [withCommand_of_ne _ _ _ _ _ _ _ _ _ (fun same => by cases same)]
    exact Function.update_self _ _ _

end Publish

section Handle

variable (library : Library) (scheduleId : ScheduleId) (draws : Draws) (now : Timestamp)

/-- Handling commits where the schedule is due, its occurrence is published or was before, and the row
with the next due time can be stored. -/
structure Advances (rows : Rows) (handled : Handled) (schedule : Schedule) (nextDueAt : Timestamp) (middle : Rows) :
    Prop where
  found : rows (.inl (.schedule scheduleId)) = some schedule
  enabled : schedule.enabled = true
  due : schedule.nextDueAt ≤ toOffset now
  next : nextAfter library.cron schedule.cronExpression (fromOffset schedule.nextDueAt) = some nextDueAt
  once : PublishedOnce library scheduleId schedule draws now rows handled.published middle
  checks : (schedule.rescheduled nextDueAt handled.published.isSome now).checks = true
  storable : (schedule.rescheduled nextDueAt handled.published.isSome now).storable = true
  name : handled.name = schedule.name
  drift : handled.driftSeconds = driftSeconds schedule now

theorem exec_reschedule_done (schedule : Schedule) (nextDueAt : Timestamp) (published : Bool) (value : Unit)
    (rows later : Rows) (found : rows (.inl (.schedule scheduleId)) = some schedule) :
    exec constraints (reschedule scheduleId nextDueAt published now) rows = .done value later ↔
      (schedule.rescheduled nextDueAt published now).checks = true ∧
        (schedule.rescheduled nextDueAt published now).storable = true ∧
        later = Function.update rows (.inl (.schedule scheduleId)) (some (schedule.rescheduled nextDueAt published now)) := by
  have moved := exec_updateWhere_match (β := Option SchedulingError) constraints rows (.inl (.schedule scheduleId))
    (fun _ => true) (fun row : Schedule => row.rescheduled nextDueAt published now) schedule found rfl
  change exec constraints _ rows = if ((schedule.rescheduled nextDueAt published now).checks &&
    (schedule.rescheduled nextDueAt published now).storable) = true then _ else _ at moved
  simp only [reschedule,Tx.bind_eq,exec_bind,moved,Bool.and_eq_true]
  by_cases kept : (schedule.rescheduled nextDueAt published now).checks = true ∧
      (schedule.rescheduled nextDueAt published now).storable = true
  · rw [if_pos kept]
    simp [kept.1,kept.2,eq_comm]
  · rw [if_neg kept]
    simp only [Outcome.refused_bind,reduceCtorEq,false_iff]
    exact fun both => kept ⟨both.1,both.2.1⟩

theorem exec_advance_done (schedule : Schedule) (published : Option Publication) (handled : Handled) (rows later : Rows)
    (found : rows (.inl (.schedule scheduleId)) = some schedule) :
    exec constraints (advance library scheduleId schedule now published) rows = .done handled later ↔
      ∃ nextDueAt, nextAfter library.cron schedule.cronExpression (fromOffset schedule.nextDueAt) = some nextDueAt ∧
        (schedule.rescheduled nextDueAt published.isSome now).checks = true ∧
        (schedule.rescheduled nextDueAt published.isSome now).storable = true ∧
        handled = ⟨schedule.name,published,driftSeconds schedule now⟩ ∧
        later = Function.update rows (.inl (.schedule scheduleId))
          (some (schedule.rescheduled nextDueAt published.isSome now)) := by
  rw [advance]
  cases nextAfter library.cron schedule.cronExpression (fromOffset schedule.nextDueAt) with
  | none => simp
  | some nextDueAt =>
    simp only [Tx.bind_eq,exec_bind_done,exec_reschedule_done _ _ schedule _ _ _ _ _ found,Option.some.injEq,
      exists_eq_left']
    constructor
    · rintro ⟨_,_,⟨checks,storable,rfl⟩,ended⟩
      obtain ⟨rfl,rfl⟩ := Outcome.done.inj ended
      exact ⟨checks,storable,rfl,rfl⟩
    · rintro ⟨checks,storable,rfl,rfl⟩
      exact ⟨(),_,⟨checks,storable,rfl⟩,rfl⟩

theorem exec_handle_done (rows later : Rows) (handled : Handled) :
    exec constraints (handle library scheduleId draws now) rows = .done handled later ↔
      ∃ schedule nextDueAt middle, Advances library scheduleId draws now rows handled schedule nextDueAt middle ∧
        later = Function.update middle (.inl (.schedule scheduleId))
          (some (schedule.rescheduled nextDueAt handled.published.isSome now)) := by
  have untouched {schedule : Schedule} {published : Option Publication} {middle : Rows}
      (once : PublishedOnce library scheduleId schedule draws now rows published middle) :
      middle (.inl (.schedule scheduleId)) = rows (.inl (.schedule scheduleId)) :=
    once.kept _ (fun same => by cases same) fun same => by cases same
  simp only [handle,claim,Tx.bind_eq,exec_bind,exec_selectForUpdate,Outcome.done_bind]
  cases found : rows (.inl (.schedule scheduleId)) with
  | none =>
    refine iff_of_false (fun ended => by cases ended) ?_
    rintro ⟨schedule,_,_,advances,_⟩
    cases found.symm.trans advances.found
  | some schedule =>
    by_cases claimable : schedule.enabled = true ∧ schedule.nextDueAt ≤ toOffset now
    · have matched : (some schedule).filter (fun row : Schedule => row.enabled && row.nextDueAt ≤ toOffset now) =
          some schedule := by simp [claimable.1,claimable.2]
      simp only [matched,exec_bind_done,exec_publishOnce_done]
      constructor
      · rintro ⟨published,middle,once,ended⟩
        obtain ⟨nextDueAt,next,checks,storable,rfl,rfl⟩ :=
          (exec_advance_done library scheduleId now schedule published handled middle later ((untouched once).trans found)).mp ended
        exact ⟨schedule,nextDueAt,middle,⟨found,claimable.1,claimable.2,next,once,checks,storable,rfl,rfl⟩,rfl⟩
      · rintro ⟨own,nextDueAt,middle,advances,rfl⟩
        obtain rfl : schedule = own := Option.some.inj (found.symm.trans advances.found)
        refine ⟨handled.published,middle,advances.once,?_⟩
        refine (exec_advance_done _ _ _ _ _ _ _ _ ((untouched advances.once).trans found)).mpr
          ⟨nextDueAt,advances.next,advances.checks,advances.storable,?_,rfl⟩
        rw [← advances.name,← advances.drift]
    · have unmatched : (some schedule).filter (fun row : Schedule => row.enabled && row.nextDueAt ≤ toOffset now) =
          none := by simpa using claimable
      simp only [unmatched,exec_abandon,reduceCtorEq,false_iff]
      rintro ⟨own,_,_,advances,_⟩
      obtain rfl : schedule = own := Option.some.inj (found.symm.trans advances.found)
      exact claimable ⟨advances.enabled,advances.due⟩

end Handle

end Ratatoskr.Scheduling
