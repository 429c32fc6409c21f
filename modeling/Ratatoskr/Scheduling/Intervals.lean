import Ratatoskr.Scheduling.CatchUp

/-! The intervals that the occurrences of a digest schedule cover, and when they join. -/
set_option linter.unusedSectionVars false

namespace Ratatoskr.Scheduling

open Transaction Eventing

/-- The payload of a digest occurrence -/
def Message.digest? : Message → Option DigestOccurrence
  | .digest envelope => some envelope.payload
  | .command _ => none

/-- The cron expression of the last registration of a schedule. -/
def cronOf (log : List Event) (scheduleId : ScheduleId) : Option String :=
  (registrationsOf log scheduleId).getLast?.map Registration.cronExpression

section Previous

variable {library : Library} {instants : library.cron.Schedule → Set Int} (lawful : library.cron.Lawful instants)
  {expression : String} {due : Int} {maxBack previous : Timestamp}

include lawful

/-- What a digest covers ends where it is due and is no longer than the cap. -/
theorem previousBefore_bounds (whole : Whole due) (positive : 0 < maxBack)
    (found : previousBefore library.cron expression (fromOffset due) maxBack = some previous) :
    previous < fromOffset due ∧ fromOffset due - previous ≤ maxBack := by
  obtain ⟨second,rfl⟩ := whole
  simp only [previousBefore,Option.bind_eq_bind,Option.bind_eq_some_iff,Option.pure_def,fromOffset_ofSecond,
    asSecond_ofSecond] at found ⊢
  obtain ⟨schedule,parsed,found⟩ := found
  have width : ofSecond second - maxBack < ofSecond second := Int.sub_lt_self _ positive
  cases earlier : library.cron.before schedule second with
  | none =>
    rw [earlier] at found
    obtain rfl := Option.some.inj found
    exact ⟨width,(Int.sub_sub_self _ _).le⟩
  | some g =>
    rw [earlier] at found
    obtain rfl := Option.some.inj found
    have below : g < second := ((lawful.before schedule second g).mp earlier).1.2
    have instant : ofSecond g < ofSecond second := by
      change g * 1000000000 < second * 1000000000
      omega
    refine ⟨max_lt instant width,?_⟩
    have floor : ofSecond second - maxBack ≤ max (ofSecond g) (ofSecond second - maxBack) := le_max_right _ _
    exact Int.sub_le_of_sub_le floor

/-- From the due time after a point of the grid the search goes back to that point. -/
theorem previousBefore_of_after {earlier : Int} (point : earlier ∈ dueGrid library.cron expression instants)
    (after : Grid.After (dueGrid library.cron expression instants) earlier due)
    (found : previousBefore library.cron expression (fromOffset due) maxBack = some previous) :
    previous = max (fromOffset earlier) (fromOffset due - maxBack) := by
  obtain ⟨schedule,first,parsed,member,rfl⟩ := point
  obtain ⟨⟨schedule',second,parsed',member',rfl⟩,_⟩ := after.1
  obtain rfl := Option.some.inj (parsed.symm.trans parsed')
  have step := (after_dueGrid_iff schedule parsed first second).mp after
  have back := (lawful.before schedule second first).mpr (step.before member)
  simp only [previousBefore,parsed,Option.bind_eq_bind,Option.bind_some,fromOffset_ofSecond,asSecond_ofSecond,back,
    Option.pure_def,Option.some.injEq] at found ⊢
  exact found.symm

end Previous

/-- Between a due time of the grid and the next one, the clock leads to the next one as well. -/
theorem after_of_between {library : Library} {instants : library.cron.Schedule → Set Int}
    (walks : ∀ schedule t g, library.cron.after schedule t = some g → Grid.After (instants schedule) t g)
    {expression : String} {earlier due : Int} {now next : Timestamp}
    (after : Grid.After (dueGrid library.cron expression instants) earlier due) (whole : Whole due)
    (found : nextAfter library.cron expression now = some next) (era : 0 ≤ now) (clocked : earlier ≤ toOffset now)
    (ahead : toOffset now < due) : Grid.After (dueGrid library.cron expression instants) earlier (toOffset next) := by
  obtain ⟨schedule,second,parsed,step,rfl⟩ := nextAfter_eq_some.mp found
  obtain ⟨⟨schedule',last,parsed',member,rfl⟩,_⟩ := after.1
  obtain rfl := Option.some.inj (parsed.symm.trans parsed')
  have walked := walks schedule (asSecond now) second step
  have same : second = last := walked.unique ⟨⟨member,lt_of_offset_lt now last era ahead⟩,fun h ⟨point,later⟩ => by
    have above := lt_of_asSecond_lt now h later
    have bound := after.le (toOffset (ofSecond h)) ⟨schedule,h,parsed,point,rfl⟩ (clocked.trans_lt above)
    rw [to_offset_ofSecond,to_offset_ofSecond] at bound
    omega⟩
  exact same ▸ after

/-- What a digest message says of its due time and of the one before. -/
theorem envelope_digest {library : Library} {scheduleId : ScheduleId} {schedule : Schedule} {id : MessageId} {draws : Draws}
    {now : Timestamp} {message : Message} {payload : DigestOccurrence}
    (built : envelope library scheduleId schedule id draws now = .ok message) (digest : message.digest? = some payload) :
    payload.dueAt = fromOffset schedule.nextDueAt ∧
      previousBefore library.cron schedule.cronExpression (fromOffset schedule.nextDueAt) digestMaxSpan =
        some payload.previousDueAt := by
  rw [envelope] at built
  split at built
  · cases typed : digestOccurrence library scheduleId schedule id draws.operationId now with
    | error => rw [typed] at built; cases built
    | ok envelope =>
      rw [typed] at built
      obtain rfl := Except.ok.inj built
      obtain rfl := Option.some.inj digest
      simp only [digestOccurrence] at typed
      split at typed
      · cases typed
      · rename_i previousDueAt found
        repeat' split at typed
        all_goals first
          | cases typed
            done
          | obtain rfl := Except.ok.inj typed
            exact ⟨rfl,found⟩
  · obtain rfl := Except.ok.inj built
    cases digest

/-- Nothing of the schedule was suppressed, and its registrations kept the expression and the clock,
which stands after 1970. -/
def Steady (events : List Event) (scheduleId : ScheduleId) (expression : String) (due : Int) : Prop :=
  ∀ event ∈ events, (∀ pass other, event ≠ .suppressed pass scheduleId other) ∧
    ∀ input now, event = .registered scheduleId input now → input.cronExpression = expression ∧
      0 ≤ now ∧ due ≤ toOffset now

/-- A digest ends where it is due, and its length is within the cap. -/
def Covered (log : List Event) : Prop :=
  ∀ number publication payload, .published number publication ∈ log → publication.message.digest? = some payload →
    payload.dueAt = fromOffset publication.dueAt ∧ payload.previousDueAt < payload.dueAt ∧
      payload.dueAt - payload.previousDueAt ≤ digestMaxSpan

/-- An event is the first one after a publication of its schedule, and nothing in between changed its grid. -/
structure Follows (library : Library) (instants : library.cron.Schedule → Set Int) (before between : List Event)
    (earlier : Publication) (expression : String) : Prop where
  consecutive : dues between earlier.scheduleId = []
  steady : Steady between earlier.scheduleId expression earlier.dueAt
  current : cronOf before earlier.scheduleId = some expression
  point : earlier.dueAt ∈ dueGrid library.cron expression instants

theorem Follows.shorter {before between : List Event} {event : Event} {earlier : Publication} {expression : String}
    (follows : Follows library instants before (between ++ [event]) earlier expression) :
    Follows library instants before between earlier expression := by
  refine ⟨?_,fun other member => follows.steady other (List.mem_append_left _ member),follows.current,follows.point⟩
  exact (List.append_eq_nil_iff.mp ((dues_append _ _ _).symm.trans follows.consecutive)).1

/-- A digest begins where the one before it ended, or at the cap. -/
def Joined (library : Library) (instants : library.cron.Schedule → Set Int) (log : List Event) : Prop :=
  ∀ before number earlier between pass later after expression payload,
    log = before ++ .published number earlier :: (between ++ .published pass later :: after) →
    later.scheduleId = earlier.scheduleId → Follows library instants before between earlier expression →
    later.message.digest? = some payload →
      payload.previousDueAt = max (fromOffset earlier.dueAt) (payload.dueAt - digestMaxSpan)

namespace Scheduler

variable {τ : Type} [DecidableEq τ] {library : Library} {contract : RegistrationContract} {allowed : List String}
  {s next : Scheduler τ} {instants : library.cron.Schedule → Set Int}

/-- Stored expressions are those of the last registrations. -/
def Current (s : Scheduler τ) : Prop :=
  ∀ id row, s.rows (.inl (.schedule id)) = some row → cronOf s.log id = some row.cronExpression

theorem Current.step {action : SchedulerAction τ} (current : Current s) (sound : Sound library s)
    (step : s.step library contract allowed action = some next) : Current next := by
  intro id row stored
  cases stepped step with
  | quiet schedules names occurrences indexed log =>
    rw [log]
    exact current id row ((schedules id).symm.trans stored)
  | handled number scheduleId draws now handled schedule nextDueAt middle advances rows log =>
    have move := moved advances rows
    have unregistered : registrationsOf [handledEvent number scheduleId schedule handled] id = [] := by
      rw [handledEvent]
      cases handled.published <;> rfl
    rw [log,cronOf,registrationsOf_append,unregistered,List.append_nil]
    by_cases same : id = scheduleId
    · subst same
      obtain rfl := Option.some.inj (move.own.symm.trans stored)
      exact current id schedule advances.found
    · exact current id row ((move.others id same).symm.trans stored)
  | registered message draws now input nextDueAt scheduleId middle accepts stores rows log =>
    have registered := sound.stored stores rows
    rw [log,cronOf,registrationsOf_append]
    by_cases same : id = scheduleId
    · subst same
      obtain ⟨after,own,_,_,origin⟩ := registered.own
      obtain rfl := Option.some.inj (own.symm.trans stored)
      have kept : after.cronExpression = input.cronExpression := by
        rcases origin with ⟨_,rfl⟩ | ⟨_,_,rfl⟩ <;> rfl
      simp [registrationsOf,kept]
    · have none_ : registrationsOf [Event.registered scheduleId input now] id = [] := by
        simp [registrationsOf,Ne.symm same]
      rw [none_,List.append_nil]
      exact current id row ((registered.others id same).symm.trans stored)

/-- After a publication, and as long as its schedule is steady, the schedule stands at the due time that
follows the published one. -/
def Next (library : Library) (instants : library.cron.Schedule → Set Int) (s : Scheduler τ) : Prop :=
  ∀ before number earlier between expression, s.log = before ++ .published number earlier :: between →
    Follows library instants before between earlier expression →
    ∀ row, s.rows (.inl (.schedule earlier.scheduleId)) = some row → row.cronExpression = expression ∧
      Grid.After (dueGrid library.cron expression instants) earlier.dueAt row.nextDueAt

theorem Next.step (walks : ∀ schedule t g, library.cron.after schedule t = some g → Grid.After (instants schedule) t g)
    {action : SchedulerAction τ} (following : Next library instants s) (sound : Sound library s) (current : Current s)
    (step : s.step library contract allowed action = some next) : Next library instants next := by
  intro before number earlier between expression split follows row stored
  cases stepped step with
  | quiet schedules names occurrences indexed log =>
    rw [log] at split
    exact following before number earlier between expression split follows row ((schedules _).symm.trans stored)
  | handled pass scheduleId draws now handled schedule nextDueAt middle advances rows log =>
    have move := moved advances rows
    rw [log] at split
    rcases split_of_append split with ⟨rfl,same,event⟩ | ⟨rest,rfl,same⟩
    · -- the publication has just been made
      rw [handledEvent] at event
      cases published : handled.published with
      | none => rw [published] at event; cases event
      | some publication =>
        rw [published] at event
        cases event
        obtain ⟨rfl,due⟩ := move.published earlier published
        obtain rfl := Option.some.inj (move.own.symm.trans stored)
        have expressed := Option.some.inj ((same ▸ current _ schedule advances.found).symm.trans follows.current)
        refine ⟨expressed,?_⟩
        rw [due,← expressed]
        exact after_of_nextAfter walks (sound.kept _ schedule advances.found).whole advances.next
    · by_cases own : earlier.scheduleId = scheduleId
      · -- a later event of the schedule would be a publication or a suppression
        subst own
        have steady := (follows.steady _ (List.mem_append_right _ (List.mem_singleton.mpr rfl))).1
        have consecutive := (List.append_eq_nil_iff.mp ((dues_append _ _ _).symm.trans follows.consecutive)).2
        rw [handledEvent] at steady consecutive
        cases published : handled.published with
        | none =>
          rw [published] at steady
          exact absurd rfl (steady pass schedule.nextDueAt)
        | some publication =>
          rw [published] at consecutive
          simp [dues,(move.published publication published).1] at consecutive
      · exact following before number earlier rest expression same follows.shorter row
          ((move.others _ own).symm.trans stored)
  | registered message draws now input nextDueAt scheduleId middle accepts stores rows log =>
    have registered := sound.stored stores rows
    rw [log] at split
    rcases split_of_append split with ⟨_,_,event⟩ | ⟨rest,rfl,same⟩
    · cases event
    · by_cases own : earlier.scheduleId = scheduleId
      · subst own
        obtain ⟨after,written,_,_,origin⟩ := registered.own
        obtain rfl := Option.some.inj (written.symm.trans stored)
        obtain ⟨kept,era,clocked⟩ := (follows.steady _ (List.mem_append_right _ (List.mem_singleton.mpr rfl))).2 input now rfl
        rcases origin with ⟨absent,_⟩ | ⟨row,found,rfl⟩
        · have present := sound.logged (.published number earlier) (same ▸ by simp)
          rw [Event.scheduleId,absent] at present
          cases present
        · obtain ⟨_,after⟩ := following before number earlier rest expression same follows.shorter row found
          refine ⟨kept,?_⟩
          change Grid.After _ _ (if row.nextDueAt ≤ toOffset now then row.nextDueAt else toOffset nextDueAt)
          split
          · exact after
          · rename_i ahead
            exact after_of_between walks after (sound.kept _ row found).whole (kept ▸ accepts.next) era clocked
              (Int.not_le.mp ahead)
      · exact following before number earlier rest expression same follows.shorter row
          ((registered.others _ own).symm.trans stored)

/-- What is known of the digests of a run. -/
structure Tiled (library : Library) (instants : library.cron.Schedule → Set Int) (s : Scheduler τ) : Prop where
  sound : Sound library s
  current : Current s
  following : Next library instants s
  covered : Covered s.log
  joined : Joined library instants s.log

theorem initial_tiled (others : Rows) : Tiled library instants (initial others : Scheduler τ) := by
  refine ⟨initial_sound others,fun _ _ stored => ?_,fun before _ _ _ _ split => ?_,fun _ _ _ member => ?_,
    fun before _ _ _ _ _ _ _ _ split => ?_⟩
  · cases stored
  · cases before <;> cases split
  · cases member
  · cases before <;> cases split

theorem Tiled.step (lawful : library.cron.Lawful instants) {action : SchedulerAction τ} (tiled : Tiled library instants s)
    (step : s.step library contract allowed action = some next) : Tiled library instants next := by
  have walks : ∀ schedule t g, library.cron.after schedule t = some g → Grid.After (instants schedule) t g :=
    fun schedule t g found => (lawful.after schedule t g).mp found
  have unchanged (event : Event) (log : next.log = s.log ++ [event])
      (unpublished : ∀ number publication, event ≠ .published number publication) :
      Covered next.log ∧ Joined library instants next.log := by
    rw [log]
    refine ⟨fun number publication payload member => ?_,?_⟩
    · rcases List.mem_append.mp member with before | here
      · exact tiled.covered number publication payload before
      · exact absurd (List.mem_singleton.mp here).symm (unpublished number publication)
    · intro before number earlier between pass later after expression payload split
      rw [← List.cons_append,← List.append_assoc] at split
      rcases split_of_append split with ⟨_,_,same⟩ | ⟨rest,_,same⟩
      · exact absurd same (unpublished pass later)
      · rw [List.append_assoc] at same
        exact tiled.joined before number earlier between pass later rest expression payload same
  suffices both : Covered next.log ∧ Joined library instants next.log from
    ⟨tiled.sound.step walks step,tiled.current.step tiled.sound step,
      Next.step walks tiled.following tiled.sound tiled.current step,both.1,both.2⟩
  cases stepped step with
  | quiet schedules names occurrences indexed log =>
    rw [log]
    exact ⟨tiled.covered,tiled.joined⟩
  | registered message draws now input nextDueAt scheduleId middle accepts stores rows log =>
    exact unchanged _ log fun _ _ same => by cases same
  | handled pass scheduleId draws now handled schedule nextDueAt middle advances rows log =>
    have move := moved advances rows
    cases published : handled.published with
    | none =>
      refine unchanged _ log fun _ _ same => ?_
      rw [handledEvent,published] at same
      cases same
    | some publication =>
      have event : handledEvent pass scheduleId schedule handled = .published pass publication := by
        rw [handledEvent,published]
      rw [log,event]
      obtain ⟨rfl,due⟩ := move.published publication published
      obtain ⟨draws',built⟩ := move.built publication published
      have whole := (tiled.sound.kept _ schedule advances.found).whole
      refine ⟨fun number other payload member digest => ?_,?_⟩
      · rcases List.mem_append.mp member with before | here
        · exact tiled.covered number other payload before digest
        · obtain ⟨rfl,rfl⟩ := Event.published.inj (List.mem_singleton.mp here)
          obtain ⟨ends,found⟩ := envelope_digest built digest
          obtain ⟨below,within⟩ := previousBefore_bounds lawful whole (by decide) found
          rw [ends,due]
          exact ⟨rfl,below,within⟩
      · intro before number earlier between pass' later after expression payload split same follows digest
        rw [← List.cons_append,← List.append_assoc] at split
        rcases split_of_append split with ⟨_,log',here⟩ | ⟨rest,_,log'⟩
        · obtain ⟨rfl,rfl⟩ := Event.published.inj here
          obtain ⟨ends,found⟩ := envelope_digest built digest
          obtain ⟨expressed,after⟩ := tiled.following before number earlier between expression log' follows schedule
            (same ▸ advances.found)
          rw [ends]
          exact previousBefore_of_after lawful (expressed ▸ follows.point) (expressed ▸ after) found
        · rw [List.append_assoc] at log'
          exact tiled.joined before number earlier between pass' later rest expression payload log' same follows digest

end Scheduler

section Runs

variable {τ : Type} [DecidableEq τ] (library : Library) (contract : RegistrationContract) (allowed : List String)
  (instants : library.cron.Schedule → Set Int)

/-- Every published digest covers an interval of at most the cap, and begins where the one before it
ended as long as neither an edit nor the clock took the schedule off its grid. -/
theorem digests_join (lawful : library.cron.Lawful instants) (others : Rows) (actions : List (SchedulerAction τ))
    (final : Scheduler τ)
    (reached : StateMachine.run (Scheduler.step library contract allowed) (Scheduler.initial others) actions = some final) :
    Covered final.log ∧ Joined library instants final.log := by
  have tiled := StateMachine.run_invariant _ (Scheduler.Tiled library instants)
    (fun _ _ _ tiled stepped => tiled.step lawful stepped) _ actions final (Scheduler.initial_tiled others) reached
  exact ⟨tiled.covered,tiled.joined⟩

end Runs

section Daily

/-- A cron library that knows two expressions, of six in the morning and of six in the evening. -/
def daily : CronCrate where
  Schedule := Int
  fromStr text :=
    if text = "0 0 6 * * * *" then some 21600 else if text = "0 0 18 * * * *" then some 64800 else none
  after hour t := some (86400 * ((t - hour) / 86400) + 86400 + hour)
  before hour t := some (86400 * ((t - hour - 1) / 86400) + hour)

def dailyGrid (hour : Int) : Set Int := {second | 86400 ∣ second - hour}

theorem daily_lawful : daily.Lawful dailyGrid := by
  refine ⟨fun (hour : Int) t g => ?_,fun (hour : Int) t g => ?_⟩
  · have step : Grid.After (dailyGrid hour) t (86400 * ((t - hour) / 86400) + 86400 + hour) := by
      refine ⟨⟨⟨(t - hour) / 86400 + 1,by omega⟩,by omega⟩,fun h ⟨⟨day,same⟩,later⟩ => by omega⟩
    refine ⟨fun found => Option.some.inj found ▸ step,fun after => ?_⟩
    exact congrArg some (step.unique after)
  · have step : Grid.Before (dailyGrid hour) t (86400 * ((t - hour - 1) / 86400) + hour) := by
      refine ⟨⟨⟨(t - hour - 1) / 86400,by omega⟩,by omega⟩,fun h ⟨⟨day,same⟩,earlier⟩ => by omega⟩
    refine ⟨fun found => Option.some.inj found ▸ step,fun before => ?_⟩
    exact congrArg some (step.unique before)

def dailyIds : List (String × MessageId) :=
  [("01a0153f-63e5-7010-a4c9-1fe6c43bcc39:21600000000",269599640373697868246814081554334965032),
    ("01a0153f-63e5-7010-a4c9-1fe6c43bcc39:64800000000",336346269804497745756419902543528064164),
    ("01a0153f-63e5-7010-a4c9-1fe6c43bcc39:108000000000",236437105244889464207024529030033091675)]

def dailyLibrary : Library where
  cron := daily
  newV5 name := (dailyIds.lookup name).getD 0
  uuidText := hyphenated
  isScheduleRef _ := true
  isOccurrenceRef _ := true
  isEntityRef _ := true
  isProducerName _ := true
  validForPublish occurrence := occurrence.previousDueAt < occurrence.dueAt &&
    occurrence.dueAt - occurrence.previousDueAt ≤ digestMaxSpan
  wire _ := "\x7b\x7d"

def dailyRegistration (evening : Bool) : RegistrationRequested where
  serviceName := "ratatoskr-github"
  name := "channel-digest"
  ownerUserId := 1
  cronExpression := if evening then "0 18 * * *" else "0 6 * * *"
  commandType := digestCommandType
  operationKind := "channel_digest.digest"
  payload := []
  enabled := true

def dailyContract : RegistrationContract where
  Envelope := RegistrationRequested
  fromJson json := some (dailyRegistration (json.get "evening").isSome)
  producer _ := "ratatoskr-github"
  payloadAs := some

def dailyMessage (evening : Bool) : Incoming Json where
  messageId := 0
  subject := "cmd.platform.schedule.registration_requested.v1"
  producer := "ratatoskr-github"
  payload := .object (if evening then [("evening",.null)] else [])

def dailyStep : Scheduler Unit → SchedulerAction Unit → Option (Scheduler Unit) :=
  Scheduler.step dailyLibrary dailyContract ["ratatoskr-github"]

/-- A pass ten seconds after an hour of some day -/
def passAt (second : Int) (operationId : OperationId) : List (SchedulerAction Unit) :=
  [.start () [minutelySchedule] 10 (ofSecond (second + 10)),.handle () (minutelyDraws operationId)]

/-- Two publications of a schedule right after one another, within the cap, whose intervals do not join. -/
def Overlaps (log : List Event) : Prop :=
  ∃ before number earlier between pass later after payload,
    log = before ++ .published number earlier :: (between ++ .published pass later :: after) ∧
      later.scheduleId = earlier.scheduleId ∧ dues between earlier.scheduleId = [] ∧
      (earlier.message.digest?).isSome ∧ later.message.digest? = some payload ∧
      payload.dueAt - fromOffset earlier.dueAt ≤ digestMaxSpan ∧ payload.previousDueAt ≠ fromOffset earlier.dueAt

/-- Whether a morning and then an evening are published, the evening from the evening before -/
def publishesTwice : List Event → Bool
  | [_,.published _ earlier,.registered _ _ _,.published _ later] =>
    later.scheduleId == earlier.scheduleId && earlier.dueAt == 21600000000 && earlier.message.digest?.isSome &&
      (later.message.digest?).any fun payload =>
        payload.dueAt == 64800000000000 && payload.previousDueAt == -21600000000000
  | _ => false

/-- Moved from the morning to the evening, the schedule digests the day before once more. -/
theorem moved_digest_overlaps : ∃ final : Scheduler Unit,
    StateMachine.run dailyStep (Scheduler.initial oneUser)
      (.register (dailyMessage false) ⟨minutelySchedule,50⟩ 0 :: passAt 21600 1 ++
        .register (dailyMessage true) ⟨0,51⟩ (ofSecond 25200) :: passAt 64800 2) = some final ∧ Overlaps final.log := by
  have ran : ((StateMachine.run dailyStep (Scheduler.initial oneUser)
      (.register (dailyMessage false) ⟨minutelySchedule,50⟩ 0 :: passAt 21600 1 ++
        .register (dailyMessage true) ⟨0,51⟩ (ofSecond 25200) :: passAt 64800 2)).map fun final => publishesTwice final.log) = some true := by
    decide +kernel
  obtain ⟨final,reached,ended⟩ := Option.map_eq_some_iff.mp ran
  refine ⟨final,reached,?_⟩
  unfold publishesTwice at ended
  split at ended
  · rename_i first number earlier id input now pass later log
    simp only [Bool.and_eq_true,beq_iff_eq,Option.any_eq_true] at ended
    obtain ⟨⟨⟨same,due⟩,digest⟩,payload,found,ends,begins⟩ := ended
    refine ⟨[first],number,earlier,[.registered id input now],pass,later,[],payload,log,same,rfl,digest,found,?_,?_⟩
    · rw [ends,due]
      decide
    · rw [begins,due]
      decide
  · cases ended

/-- Whether two mornings of a daily schedule are published -/
def publishesDaily : List Event → Bool
  | [.registered id input _,.published _ earlier,.published _ later] =>
    id == minutelySchedule && earlier.scheduleId == minutelySchedule && later.scheduleId == minutelySchedule &&
      input.cronExpression == "0 6 * * *" && earlier.dueAt == 21600000000 && later.dueAt == 108000000000 &&
      (later.message.digest?).isSome
  | _ => false

/-- On two days that follow one another the digests join. -/
theorem daily_digests_join : ∃ (earlier later : Publication) (payload : DigestOccurrence),
    later.message.digest? = some payload ∧ earlier.dueAt = 21600000000 ∧ later.dueAt = 108000000000 ∧
      payload.previousDueAt = max (fromOffset earlier.dueAt) (payload.dueAt - digestMaxSpan) := by
  have ran : ((StateMachine.run dailyStep (Scheduler.initial oneUser)
      (.register (dailyMessage false) ⟨minutelySchedule,50⟩ 0 :: passAt 21600 1 ++ passAt 108000 2)).map fun final =>
      publishesDaily final.log) = some true := by decide +kernel
  obtain ⟨final,reached,ended⟩ := Option.map_eq_some_iff.mp ran
  have joined := (digests_join dailyLibrary dailyContract ["ratatoskr-github"] dailyGrid daily_lawful oneUser _ final reached).2
  unfold publishesDaily at ended
  split at ended
  · rename_i id input now number earlier pass later log
    simp only [Bool.and_eq_true,beq_iff_eq] at ended
    obtain ⟨⟨⟨⟨⟨⟨own,first⟩,second⟩,expression⟩,due⟩,due'⟩,digest⟩ := ended
    obtain ⟨payload,found⟩ := Option.isSome_iff_exists.mp digest
    refine ⟨earlier,later,payload,found,due,due',joined [.registered id input now] number earlier [] pass later []
      "0 6 * * *" payload log (second.trans first.symm) ⟨rfl,List.forall_mem_nil _,?_,?_⟩ found⟩
    · rw [first,own,← expression]
      simp [cronOf,registrationsOf]
    · exact ⟨(21600 : Int),21600,rfl,⟨0,rfl⟩,due⟩
  · cases ended

end Daily

end Ratatoskr.Scheduling
