import Ratatoskr.Scheduling.Firing

/-! A due time of a schedule has one occurrence, one operation and one command, or none of the three. -/
set_option linter.unusedSectionVars false

namespace Ratatoskr.Scheduling

open Transaction Eventing

section Rows

variable (library : Library) (rows : Rows) (scheduleId : ScheduleId) (dueAt : Int)

def occurrencesOf : Set MessageId :=
  {id | ∃ row, rows (.inl (.occurrence id)) = some row ∧ row.scheduleId = scheduleId ∧ row.dueAt = dueAt}

/-- The operations under the idempotency key of the pair, whatever their owner and kind. -/
def operationsOf : Set OperationId :=
  {operationId | ∃ record, rows (.inr (.operation operationId)) = some record ∧
    record.operation.idempotencyKey = some (pairKey library scheduleId dueAt)}

/-- The messages under the identity of the pair. -/
def commandsOf : Set MessageId :=
  {id | id = pairId library scheduleId dueAt ∧ (rows (.inr (.outbox id))).isSome}

structure Unfired : Prop where
  occurrences : occurrencesOf rows scheduleId dueAt = ∅
  operations : operationsOf library rows scheduleId dueAt = ∅
  commands : commandsOf library rows scheduleId dueAt = ∅

/-- One occurrence, one operation and one command, which name the same operation. -/
structure FiredOnce (operationId : OperationId) : Prop where
  occurrences : occurrencesOf rows scheduleId dueAt = {pairId library scheduleId dueAt}
  operations : operationsOf library rows scheduleId dueAt = {operationId}
  commands : commandsOf library rows scheduleId dueAt = {pairId library scheduleId dueAt}
  occurrence : ∃ row, rows (.inl (.occurrence (pairId library scheduleId dueAt))) = some row ∧
    row.operationId = operationId
  command : ∃ row, rows (.inr (.outbox (pairId library scheduleId dueAt))) = some row ∧ row.operationId = some operationId

end Rows

def Report.publication : Report → Option Publication
  | .handled given => given.published
  | _ => none

/-- The commits that published the pair, oldest first. -/
def publicationsOf {τ : Type} (journal : List (Commit Row Report τ)) (scheduleId : ScheduleId) (dueAt : Int) :
    List Publication :=
  (journal.filterMap fun entry => entry.value.publication).filter fun publication =>
    publication.scheduleId = scheduleId ∧ publication.dueAt = dueAt

/-- No sweep that has committed reached as far as this due time. -/
def Retained {τ : Type} (job : τ → Job) (journal : List (Commit Row Report τ)) (dueAt : Int) : Prop :=
  ∀ entry ∈ journal, ∀ visited before, job entry.transaction = .collect visited before → toOffset before ≤ dueAt

section Commits

variable {library : Library} {job : Job} {report : Report} {drafts : Drafts Row} {rows : Rows} {scheduleId : ScheduleId}
  {dueAt : Int}

/-- What a commit leaves of a pair that it neither fires nor sweeps away. -/
structure Undisturbed (library : Library) (rows later : Rows) (scheduleId : ScheduleId) (dueAt : Int) : Prop where
  occurrence : ∀ id row, row.scheduleId = scheduleId → row.dueAt = dueAt →
    (later (.inl (.occurrence id)) = some row ↔ rows (.inl (.occurrence id)) = some row)
  operation : ∀ operationId record, record.operation.idempotencyKey = some (pairKey library scheduleId dueAt) →
    (later (.inr (.operation operationId)) = some record ↔ rows (.inr (.operation operationId)) = some record)
  command : later (.inr (.outbox (pairId library scheduleId dueAt))) = rows (.inr (.outbox (pairId library scheduleId dueAt)))

theorem Undisturbed.sets {later : Rows} (kept : Undisturbed library rows later scheduleId dueAt) :
    occurrencesOf later scheduleId dueAt = occurrencesOf rows scheduleId dueAt ∧
      operationsOf library later scheduleId dueAt = operationsOf library rows scheduleId dueAt ∧
      commandsOf library later scheduleId dueAt = commandsOf library rows scheduleId dueAt := by
  refine ⟨Set.ext fun id => ?_,Set.ext fun operationId => ?_,Set.ext fun id => ?_⟩
  · exact exists_congr fun row => ⟨fun ⟨stored,schedule,due⟩ => ⟨(kept.occurrence id row schedule due).mp stored,schedule,due⟩,
      fun ⟨stored,schedule,due⟩ => ⟨(kept.occurrence id row schedule due).mpr stored,schedule,due⟩⟩
  · exact exists_congr fun record => ⟨fun ⟨stored,keyed⟩ => ⟨(kept.operation operationId record keyed).mp stored,keyed⟩,
      fun ⟨stored,keyed⟩ => ⟨(kept.operation operationId record keyed).mpr stored,keyed⟩⟩
  · refine and_congr_right fun same => ?_
    subst same
    rw [kept.command]

theorem Unfired.keep {later : Rows} (unfired : Unfired library rows scheduleId dueAt)
    (kept : Undisturbed library rows later scheduleId dueAt) : Unfired library later scheduleId dueAt := by
  obtain ⟨occurrences,operations,commands⟩ := kept.sets
  exact ⟨occurrences.trans unfired.occurrences,operations.trans unfired.operations,commands.trans unfired.commands⟩

theorem FiredOnce.keep {later : Rows} {operationId : OperationId}
    (fired : FiredOnce library rows scheduleId dueAt operationId) (kept : Undisturbed library rows later scheduleId dueAt) :
    FiredOnce library later scheduleId dueAt operationId := by
  obtain ⟨occurrences,operations,commands⟩ := kept.sets
  refine ⟨occurrences.trans fired.occurrences,operations.trans fired.operations,commands.trans fired.commands,?_,?_⟩
  · obtain ⟨row,stored,own⟩ := fired.occurrence
    have member : pairId library scheduleId dueAt ∈ occurrencesOf rows scheduleId dueAt := by
      rw [fired.occurrences]
      rfl
    obtain ⟨same,stored',schedule,due⟩ := member
    obtain rfl := Option.some.inj (stored.symm.trans stored')
    exact ⟨row,(kept.occurrence _ row schedule due).mpr stored,own⟩
  · obtain ⟨row,stored,own⟩ := fired.command
    exact ⟨row,kept.command.trans stored,own⟩

/-- A firing of another pair, a registration, and a sweep that does not reach the due time leave the
rows of the pair alone. -/
theorem commits_undisturbed (named : Named library rows) (commits : job.Commits library report drafts rows)
    (other : ∀ publication, report.publication = some publication →
      pairKey library publication.scheduleId publication.dueAt ≠ pairKey library scheduleId dueAt)
    (retained : ∀ visited before, job = .collect visited before → toOffset before ≤ dueAt) :
    Undisturbed library rows (overlay drafts rows) scheduleId dueAt := by
  have free (unheld : ∀ id operationId,
      drafts (.inl (.occurrence id)) = none ∧ drafts (.inr (.operation operationId)) = none ∧
        drafts (.inr (.outbox id)) = none) : Undisturbed library rows (overlay drafts rows) scheduleId dueAt := by
    refine ⟨fun id row _ _ => ?_,fun operationId record _ => ?_,?_⟩
    · rw [overlay_free (unheld id 0).1]
    · rw [overlay_free (unheld 0 operationId).2.1]
    · exact overlay_free (unheld _ 0).2.2 rows
  have outside {keys : Key → Prop} (only : ∀ key, (drafts key).isSome → keys key) (key : Key) (apart : ¬keys key) :
      drafts key = none := Option.not_isSome_iff_eq_none.mp fun held => apart (only key held)
  cases job with
  | handle sid draws now =>
    obtain ⟨handled,rfl,rest⟩ := commits
    cases published : handled.published with
    | none =>
      rw [published] at rest
      exact free fun id operationId => ⟨outside rest _ (fun same => by cases same),
        outside rest _ (fun same => by cases same),outside rest _ (fun same => by cases same)⟩
    | some publication =>
      rw [published] at rest
      have fires : Fires library sid draws now publication drafts rows := rest
      have keys := other publication published
      rw [fires.schedule] at keys
      have apart : pairId library scheduleId dueAt ≠ pairId library sid publication.dueAt := fun same =>
        keys (congrArg library.uuidText same.symm)
      refine ⟨fun id row schedule due => ?_,fun operationId record keyed => ?_,?_⟩
      · by_cases own : id = pairId library sid publication.dueAt
        · subst own
          obtain ⟨drift,written⟩ := fires.occurrence
          simp only [overlay,written,fires.fresh,Option.some.injEq,reduceCtorEq,iff_false]
          rintro rfl
          exact apart (by rw [← schedule,← due])
        · rw [overlay_free (outside fires.only (.inl (.occurrence id)) own)]
      · by_cases own : operationId = draws.operationId
        · subst own
          obtain ⟨record',written,keyed'⟩ := fires.operation
          simp only [overlay,written,fires.unused,Option.some.injEq,reduceCtorEq,iff_false]
          rintro rfl
          exact keys (Option.some.inj (keyed'.symm.trans keyed))
        · rw [overlay_free (outside fires.only (.inr (.operation operationId)) own)]
      · exact overlay_free (outside fires.only (.inr (.outbox _)) apart) rows
  | register message draws now =>
    exact free fun id operationId => ⟨outside commits.2 _ not_false,outside commits.2 _ not_false,
      outside commits.2 _ not_false⟩
  | collect visited before =>
    obtain ⟨_,only,removed⟩ := commits
    refine ⟨fun id row schedule due => ?_,fun operationId record _ => ?_,?_⟩
    · cases held : drafts (.inl (.occurrence id)) with
      | none => rw [overlay_free held]
      | some draft =>
        obtain ⟨gone,row',stored,late⟩ := removed id (by simp [held])
        have kept := retained visited before rfl
        have published := (named id row' stored).2
        simp only [overlay,gone,stored,reduceCtorEq,Option.some.injEq,false_iff]
        rintro rfl
        omega
    · rw [overlay_free (outside only (.inr (.operation operationId)) not_false)]
    · exact overlay_free (outside only (.inr (.outbox _)) not_false) rows

/-- The firing of a pair that has not fired before leaves it fired once. -/
theorem commits_fired {publication : Publication} (commits : job.Commits library report drafts rows)
    (unfired : Unfired library rows publication.scheduleId publication.dueAt)
    (publishes : report.publication = some publication) :
    FiredOnce library (overlay drafts rows) publication.scheduleId publication.dueAt publication.operationId := by
  cases job with
  | register => obtain ⟨⟨_,rfl⟩,_⟩ := commits; cases publishes
  | collect => obtain ⟨⟨_,rfl⟩,_⟩ := commits; cases publishes
  | handle scheduleId draws now =>
    obtain ⟨handled,rfl,rest⟩ := commits
    have published : handled.published = some publication := publishes
    rw [published] at rest
    have fires : Fires library scheduleId draws now publication drafts rows := rest
    obtain rfl := fires.schedule
    obtain ⟨drift,occurrence⟩ := fires.occurrence
    obtain ⟨record,operation,keyed⟩ := fires.operation
    have outside (key : Key) (apart : ¬Touches publication.scheduleId
        (pairId library publication.scheduleId publication.dueAt) draws.operationId key) : drafts key = none :=
      Option.not_isSome_iff_eq_none.mp fun held => apart (fires.only key held)
    -- nothing of the pair was there, so the command was not in conflict
    obtain ⟨command,written,own⟩ : ∃ row,
        drafts (.inr (.outbox (pairId library publication.scheduleId publication.dueAt))) = some (.written (some row)) ∧
          row.operationId = some draws.operationId := by
      refine fires.command.resolve_right fun ⟨_,stored⟩ => ?_
      have member : pairId library publication.scheduleId publication.dueAt ∈
          commandsOf library rows publication.scheduleId publication.dueAt := ⟨rfl,stored⟩
      rw [unfired.commands] at member
      exact member
    refine ⟨Set.ext fun id => ?_,Set.ext fun operationId => ?_,Set.ext fun id => ?_,
      ⟨⟨publication.scheduleId,publication.dueAt,toOffset now,drift,draws.operationId⟩,?_,fires.operationId.symm⟩,
      ⟨command,?_,fires.operationId ▸ own⟩⟩
    · constructor
      · rintro ⟨row,stored,schedule,due⟩
        by_contra apart
        rw [overlay_free (outside (.inl (.occurrence id)) apart)] at stored
        have member : id ∈ occurrencesOf rows publication.scheduleId publication.dueAt := ⟨row,stored,schedule,due⟩
        rw [unfired.occurrences] at member
        exact member
      · rintro rfl
        exact ⟨⟨publication.scheduleId,publication.dueAt,toOffset now,drift,draws.operationId⟩,
          by simp only [overlay,occurrence],rfl,rfl⟩
    · rw [fires.operationId]
      constructor
      · rintro ⟨other,stored,same⟩
        by_contra apart
        rw [overlay_free (outside (.inr (.operation operationId)) apart)] at stored
        have member : operationId ∈ operationsOf library rows publication.scheduleId publication.dueAt :=
          ⟨other,stored,same⟩
        rw [unfired.operations] at member
        exact member
      · rintro rfl
        exact ⟨record,by simp only [overlay,operation],keyed⟩
    · constructor
      · exact fun member => member.1
      · rintro rfl
        exact ⟨rfl,by simp only [overlay,written,Option.isSome_some]⟩
    · simp only [overlay,occurrence]
    · simp only [overlay,written]

end Commits

/-- No other occurrence published so far prints the identifier of the pair. -/
def Identified {τ : Type} (library : Library) (journal : List (Commit Row Report τ)) (scheduleId : ScheduleId)
    (dueAt : Int) : Prop :=
  ∀ entry ∈ journal, ∀ publication, entry.value.publication = some publication →
    pairKey library publication.scheduleId publication.dueAt = pairKey library scheduleId dueAt →
      publication.scheduleId = scheduleId ∧ publication.dueAt = dueAt

section Runs

variable {τ : Type} [DecidableEq τ] (library : Library) (contract : RegistrationContract) (allowed : List String)
  (job : τ → Job)

/-- What has become of a pair: nothing yet, or one firing, which the journal holds once. -/
inductive Fate (rows : Rows) (journal : List (Commit Row Report τ)) (scheduleId : ScheduleId) (dueAt : Int) : Prop where
  | unfired (none_ : Unfired library rows scheduleId dueAt) (unpublished : publicationsOf journal scheduleId dueAt = [])
  | fired (publication : Publication) (once : FiredOnce library rows scheduleId dueAt publication.operationId)
    (published : publicationsOf journal scheduleId dueAt = [publication])

theorem publicationsOf_append (journal : List (Commit Row Report τ)) (entry : Commit Row Report τ)
    (scheduleId : ScheduleId) (dueAt : Int) :
    publicationsOf (journal ++ [entry]) scheduleId dueAt =
      publicationsOf journal scheduleId dueAt ++ publicationsOf [entry] scheduleId dueAt := by
  simp [publicationsOf]

/-- One more commit: the pair keeps its fate, or it fires for the first time. -/
theorem fate_commit (rows : Rows) (journal : List (Commit Row Report τ)) (t : τ)
    (report : Report) (drafts : Drafts Row) (named : Named library rows)
    (commits : (job t).Commits library report drafts rows) (scheduleId : ScheduleId) (dueAt : Int)
    (retained : Retained job (journal ++ [⟨t,report,drafts⟩]) dueAt)
    (identified : Identified library (journal ++ [⟨t,report,drafts⟩]) scheduleId dueAt)
    (fate : Fate library rows journal scheduleId dueAt) :
    Fate library (overlay drafts rows) (journal ++ [⟨t,report,drafts⟩]) scheduleId dueAt := by
  have reach : ∀ visited before, job t = .collect visited before → toOffset before ≤ dueAt :=
    retained ⟨t,report,drafts⟩ (by simp)
  by_cases fires : ∃ publication, report.publication = some publication ∧ publication.scheduleId = scheduleId ∧
      publication.dueAt = dueAt
  · obtain ⟨publication,published,rfl,rfl⟩ := fires
    have entry : publicationsOf [(⟨t,report,drafts⟩ : Commit Row Report τ)] publication.scheduleId publication.dueAt =
        [publication] := by simp [publicationsOf,published]
    cases fate with
    | unfired none_ unpublished =>
      refine .fired publication (commits_fired commits none_ published) ?_
      rw [publicationsOf_append,unpublished,entry,List.nil_append]
    | fired earlier once =>
      -- a second firing would have found the occurrence of the first one
      have fresh : rows (.inl (.occurrence (pairId library publication.scheduleId publication.dueAt))) = none := by
        revert commits
        cases job t with
        | register => rintro ⟨⟨_,rfl⟩,_⟩; cases published
        | collect => rintro ⟨⟨_,rfl⟩,_⟩; cases published
        | handle sid draws now =>
          rintro ⟨handled,rfl,rest⟩
          have named : handled.published = some publication := published
          rw [named] at rest
          have fires : Fires library sid draws now publication drafts rows := rest
          obtain rfl := fires.schedule
          exact fires.fresh
      obtain ⟨row,stored,_⟩ := once.occurrence
      rw [fresh] at stored
      cases stored
  · have kept := commits_undisturbed named commits (fun publication published same => fires ⟨publication,published,
      identified ⟨t,report,drafts⟩ (by simp) publication published same⟩) reach
    have entry : publicationsOf [(⟨t,report,drafts⟩ : Commit Row Report τ)] scheduleId dueAt = [] := by
      cases published : report.publication with
      | none => simp [publicationsOf,published]
      | some publication =>
        have apart : ¬(publication.scheduleId = scheduleId ∧ publication.dueAt = dueAt) := fun own =>
          fires ⟨publication,published,own⟩
        simp [publicationsOf,published,apart]
    cases fate with
    | unfired none_ unpublished =>
      refine .unfired (none_.keep kept) ?_
      rw [publicationsOf_append,unpublished,entry,List.nil_append]
    | fired publication once published =>
      refine .fired publication (once.keep kept) ?_
      rw [publicationsOf_append,published,entry,List.append_nil]

/-- In every interleaving of passes, registrations and sweeps, with any of them crashing anywhere, a
due time that no sweep has reached has fired once with all three of its rows, or not at all. -/
theorem fires_once (store : Rows)
    (start : ∀ scheduleId dueAt, Unfired library store scheduleId dueAt) (pool : Pool Row (Option SchedulingError) Report τ)
    (reached : Pool.Reachable constraints (fun t => (job t).program library contract allowed) store pool)
    (scheduleId : ScheduleId) (dueAt : Int) (retained : Retained job pool.journal dueAt)
    (identified : Identified library pool.journal scheduleId dueAt) :
    Fate library pool.committed pool.journal scheduleId dueAt := by
  have named : Named library store := by
    intro id row stored
    have member : id ∈ occurrencesOf store row.scheduleId row.dueAt := ⟨row,stored,rfl,rfl⟩
    rw [(start row.scheduleId row.dueAt).occurrences] at member
    exact member.elim
  refine (jobs_keep library contract allowed job).journal store named
    (fun rows journal => Retained job journal dueAt → Identified library journal scheduleId dueAt →
      Fate library rows journal scheduleId dueAt)
    (fun _ _ => .unfired (start scheduleId dueAt) rfl) ?_ pool reached retained identified
  intro rows journal t report drafts named fate commits retained identified
  refine fate_commit library job rows journal t report drafts named commits scheduleId dueAt retained identified ?_
  exact fate (fun entry member => retained entry (List.mem_append_left _ member))
    fun entry member => identified entry (List.mem_append_left _ member)

end Runs

section Minutely

/-- The hyphenated form of an identifier -/
def hyphenated (id : Nat) : String :=
  let digits := (Nat.toDigits 16 (id + 340282366920938463463374607431768211456)).tail
  String.ofList (['-'].intercalate [digits.take 8,(digits.drop 8).take 4,(digits.drop 12).take 4,(digits.drop 16).take 4,
    digits.drop 20])

def minutelySchedule : ScheduleId := 2160426446042792574273813191413451833

/-- The digests of the names that the runs below ask for. -/
def minutelyIds : List (String × MessageId) :=
  [("01a0153f-63e5-7010-a4c9-1fe6c43bcc39:60000000",315004776285024903136213705336368942249),
    ("01a0153f-63e5-7010-a4c9-1fe6c43bcc39:120000000",108330802950860765494961327254604351834),
    ("01a0153f-63e5-7010-a4c9-1fe6c43bcc39:180000000",284314013317097443164907732470441029565)]

/-- A cron library that knows one expression, the start of every minute. -/
def minutely : CronCrate where
  Schedule := Unit
  fromStr text := if text = "0 * * * * * *" then some () else none
  after _ t := some (60 * (t / 60) + 60)
  before _ t := some (60 * ((t - 1) / 60))

def minutelyLibrary : Library where
  cron := minutely
  newV5 name := (minutelyIds.lookup name).getD 0
  uuidText := hyphenated
  isScheduleRef _ := true
  isOccurrenceRef _ := true
  isEntityRef _ := true
  isProducerName _ := true
  validForPublish occurrence := occurrence.previousDueAt < occurrence.dueAt &&
    occurrence.dueAt - occurrence.previousDueAt ≤ digestMaxSpan
  wire _ := "\x7b\x7d"

def minutelyRegistration (enabled : Bool) : RegistrationRequested where
  serviceName := "ratatoskr-github"
  name := "nightly-stars"
  ownerUserId := 1
  cronExpression := "* * * * *"
  commandType := "github.sync.requested.v1"
  operationKind := "github.sync"
  payload := []
  enabled := enabled

/-- Every envelope carries the one registration, switched on or off by its only member. -/
def minutelyContract : RegistrationContract where
  Envelope := RegistrationRequested
  fromJson json := some (minutelyRegistration (json.get "enabled").isSome)
  producer _ := "ratatoskr-github"
  payloadAs := some

def minutelyMessage (enabled : Bool) : Incoming Json where
  messageId := 0
  subject := "cmd.platform.schedule.registration_requested.v1"
  producer := "ratatoskr-github"
  payload := .object (if enabled then [("enabled",.null)] else [])

def minutelyDraws (operationId : OperationId) : Draws :=
  ⟨operationId,⟨"correlation:1",by decide⟩,operationId + 100,operationId + 200⟩

/-- Nothing is stored but one active user. -/
def oneUser : Rows
  | .inl (.userStatus 1) => some "active"
  | _ => none

/-- A registration, and two passes a minute later. -/
def racing : Nat → Job
  | 0 => .register (minutelyMessage true) ⟨minutelySchedule,50⟩ 0
  | n => .handle minutelySchedule (minutelyDraws n) 60000000000

/-- The second pass waits for the first one and then finds nothing due. -/
theorem racing_fires_once : ∃ pool : Pool Row (Option SchedulingError) Report Nat,
    Fate minutelyLibrary pool.committed pool.journal minutelySchedule 60000000 ∧
      pool.journal.length = 2 ∧ (publicationsOf pool.journal minutelySchedule 60000000).length = 1 := by
  have ran : ((StateMachine.run
      (Pool.step constraints fun t => (racing t).program minutelyLibrary minutelyContract ["ratatoskr-github"])
      (Pool.initial oneUser) ([.start 0] ++ List.replicate 5 (.advance 0) ++ [.start 1,.start 2] ++
        List.replicate 10 (.advance 1) ++ List.replicate 2 (.advance 2))).map
      fun pool => pool.journal.length == 2 && (publicationsOf pool.journal minutelySchedule 60000000).length == 1 &&
        pool.journal.all fun entry => entry.value.publication.all fun publication =>
          publication.scheduleId == minutelySchedule && publication.dueAt == 60000000) = some true := by decide +kernel
  obtain ⟨pool,reached,ended⟩ := Option.map_eq_some_iff.mp ran
  simp only [Bool.and_eq_true,beq_iff_eq,List.all_eq_true] at ended
  obtain ⟨⟨commits,publications⟩,own⟩ := ended
  refine ⟨pool,fires_once minutelyLibrary minutelyContract ["ratatoskr-github"] racing oneUser ?_ pool ⟨_,reached⟩ _ _ ?_ ?_,
    commits,publications⟩
  · intro scheduleId dueAt
    refine ⟨Set.eq_empty_of_forall_notMem ?_,Set.eq_empty_of_forall_notMem ?_,Set.eq_empty_of_forall_notMem ?_⟩
    · rintro id ⟨row,stored,_⟩
      cases stored
    · rintro id ⟨row,stored,_⟩
      cases stored
    · rintro id ⟨_,stored⟩
      cases stored
  · intro entry _ visited before which
    cases t : entry.transaction with
    | zero => rw [t] at which; cases which
    | succ n => rw [t] at which; cases which
  · intro entry member publication published _
    have both := own entry member
    rw [published] at both
    simpa using both

end Minutely

end Ratatoskr.Scheduling
