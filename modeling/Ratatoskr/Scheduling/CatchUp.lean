import Ratatoskr.Scheduling.FiredOnce
import Ratatoskr.Scheduling.Reached

/-! Catching up: what is published for a schedule between two edits is a walk over its grid. -/
set_option linter.unusedSectionVars false

namespace Ratatoskr.Scheduling

open Transaction Eventing

/-- The due times published for a schedule, in order. -/
def dues (log : List Event) (scheduleId : ScheduleId) : List Int :=
  log.filterMap fun
    | .published _ publication => if publication.scheduleId = scheduleId then some publication.dueAt else none
    | _ => none

/-- What one pass published for a schedule. -/
def publishedIn (log : List Event) (number : Nat) (scheduleId : ScheduleId) : List Publication :=
  log.filterMap fun
    | .published pass publication =>
      if pass = number ∧ publication.scheduleId = scheduleId then some publication else none
    | _ => none

def registrationsOf (log : List Event) (scheduleId : ScheduleId) : List Registration :=
  log.filterMap fun
    | .registered id input _ => if id = scheduleId then some input else none
    | _ => none

/-- The occurrence a handled schedule came to. -/
def Event.occurrence : Event → Option (ScheduleId × Int)
  | .published _ publication => some (publication.scheduleId,publication.dueAt)
  | .suppressed _ scheduleId dueAt => some (scheduleId,dueAt)
  | .registered _ _ _ => none

/-- No two of the occurrences that were handled have the same name-based identifier. -/
def Distinct (library : Library) (log : List Event) : Prop :=
  ∀ event ∈ log, ∀ other ∈ log, ∀ pair pair', event.occurrence = some pair → other.occurrence = some pair' →
    pairId library pair.1 pair.2 = pairId library pair'.1 pair'.2 → pair = pair'

/-- No registration of the schedule was clocked before a due time published earlier. -/
def Forward (log : List Event) (scheduleId : ScheduleId) : Prop :=
  log.Pairwise fun earlier later => ∀ due ∈ dues [earlier] scheduleId, ∀ input now,
    later = .registered scheduleId input now → due ≤ toOffset now

@[simp] theorem dues_append (log events : List Event) (scheduleId : ScheduleId) :
    dues (log ++ events) scheduleId = dues log scheduleId ++ dues events scheduleId := List.filterMap_append

theorem mem_dues {log : List Event} {scheduleId : ScheduleId} {due : Int} :
    due ∈ dues log scheduleId ↔
      ∃ number publication, .published number publication ∈ log ∧ publication.scheduleId = scheduleId ∧
        publication.dueAt = due := by
  simp only [dues,List.mem_filterMap]
  constructor
  · rintro ⟨event,member,found⟩
    cases event with
    | published number publication =>
      obtain ⟨own,same⟩ := Option.ite_none_right_eq_some.mp found
      exact ⟨number,publication,member,own,Option.some.inj same⟩
    | suppressed | registered => cases found
  · rintro ⟨number,publication,member,rfl,rfl⟩
    exact ⟨_,member,if_pos rfl⟩

theorem dues_of_occurrence {event : Event} {scheduleId : ScheduleId} (other : event.scheduleId ≠ scheduleId) :
    dues [event] scheduleId = [] := by
  refine List.eq_nil_iff_forall_not_mem.mpr fun due member => ?_
  obtain ⟨number,publication,here,own,_⟩ := mem_dues.mp member
  obtain rfl := List.mem_singleton.mp here
  exact other own

theorem Forward.before {log events : List Event} {scheduleId : ScheduleId} (forward : Forward (log ++ events) scheduleId) :
    Forward log scheduleId := (List.pairwise_append.mp forward).1

theorem Distinct.before {library : Library} {log events : List Event} (distinct : Distinct library (log ++ events)) :
    Distinct library log :=
  fun event member other member' => distinct event (List.mem_append_left _ member) other (List.mem_append_left _ member')

/-- An event of a log with one more is the last one, or was there before. -/
theorem split_of_append {log before after : List Event} {event here : Event}
    (split : log ++ [event] = before ++ here :: after) :
    after = [] ∧ log = before ∧ event = here ∨ ∃ rest, after = rest ++ [event] ∧ log = before ++ here :: rest := by
  rcases List.eq_nil_or_concat after with rfl | ⟨rest,last,rfl⟩
  · obtain ⟨rfl,same⟩ := List.append_inj' split rfl
    exact Or.inl ⟨rfl,rfl,List.singleton_inj.mp same⟩
  · rw [List.concat_eq_append,← List.cons_append,← List.append_assoc] at split
    obtain ⟨same,last⟩ := List.append_inj' split rfl
    exact Or.inr ⟨rest,by rw [List.concat_eq_append,List.singleton_inj.mp last],same⟩

namespace Scheduler

variable {τ : Type} [DecidableEq τ] {library : Library} {contract : RegistrationContract} {allowed : List String}
  {s next : Scheduler τ} {instants : library.cron.Schedule → Set Int} {id : ScheduleId}

/-- A schedule stands beyond every due time published for it. -/
def Ahead (id : ScheduleId) (s : Scheduler τ) : Prop :=
  Forward s.log id → ∀ due ∈ dues s.log id, ∀ row, s.rows (.inl (.schedule id)) = some row → due < row.nextDueAt

section Walks

variable (walks : ∀ schedule t g, library.cron.after schedule t = some g → Grid.After (instants schedule) t g)

include walks

theorem Ahead.step {action : SchedulerAction τ} (ahead : Ahead id s) (sound : Sound library s)
    (stepped : s.step library contract allowed action = some next) : Ahead id next := by
  intro forward due member row stored
  cases Scheduler.stepped stepped with
  | quiet schedules names occurrences indexed log =>
    rw [log] at member forward
    exact ahead forward due member row ((schedules id).symm.trans stored)
  | handled number scheduleId draws now handled schedule nextDueAt middle advances rows log =>
    have move := moved advances rows
    rw [log] at member forward
    by_cases same : id = scheduleId
    · subst same
      obtain rfl := Option.some.inj (move.own.symm.trans stored)
      have step := (after_of_nextAfter walks (sound.kept id schedule advances.found).whole advances.next).lt
      rw [dues_append] at member
      change due < toOffset nextDueAt
      rcases List.mem_append.mp member with before | new
      · exact (ahead forward.before due before schedule advances.found).trans step
      · obtain ⟨_,publication,here,_,rfl⟩ := mem_dues.mp new
        have logged := List.mem_singleton.mp here
        rw [handledEvent] at logged
        cases published : handled.published with
        | none => rw [published] at logged; cases logged
        | some other =>
          rw [published] at logged
          cases logged
          rw [(move.published publication published).2]
          exact step
    · have apart : dues [handledEvent number scheduleId schedule handled] id = [] :=
        dues_of_occurrence (by rw [move.logged]; exact fun equal => same equal.symm)
      rw [dues_append,apart,List.append_nil] at member
      exact ahead forward.before due member row ((move.others id same).symm.trans stored)
  | registered message draws now input nextDueAt scheduleId middle accepts stores rows log =>
    have registered := sound.stored stores rows
    rw [log] at member forward
    have apart : dues [Event.registered scheduleId input now] id = [] := rfl
    rw [dues_append,apart,List.append_nil] at member
    by_cases same : id = scheduleId
    · subst same
      obtain ⟨after,own,_,_,origin⟩ := registered.own
      obtain rfl := Option.some.inj (own.symm.trans stored)
      obtain ⟨_,publication,before,schedule,rfl⟩ := mem_dues.mp member
      rcases origin with ⟨absent,_⟩ | ⟨row,found,rfl⟩
      · -- nothing is published for a schedule that does not exist
        have present := sound.logged _ before
        rw [Event.scheduleId,schedule,absent] at present
        cases present
      · have earlier := ahead forward.before publication.dueAt member row found
        have clocked := (List.pairwise_append.mp forward).2.2 _ before _ (List.mem_singleton.mpr rfl) publication.dueAt
          (mem_dues.mpr ⟨_,publication,List.mem_singleton.mpr rfl,schedule,rfl⟩) input now rfl
        have later := (lt_of_nextAfter walks accepts.next).1
        change publication.dueAt < if row.nextDueAt ≤ toOffset now then row.nextDueAt else toOffset nextDueAt
        split <;> omega
    · exact ahead forward.before due member row ((registered.others id same).symm.trans stored)

/-- What is true of every state that is reached -/
structure Standing (library : Library) (id : ScheduleId) (s : Scheduler τ) : Prop where
  sound : Sound library s
  ahead : Ahead id s

omit walks in
theorem initial_standing (others : Rows) : Standing library id (initial others : Scheduler τ) :=
  ⟨initial_sound others,fun _ _ member => by cases member⟩

theorem Standing.step {action : SchedulerAction τ} (standing : Standing library id s)
    (stepped : s.step library contract allowed action = some next) : Standing library id next :=
  ⟨standing.sound.step walks stepped,standing.ahead.step walks standing.sound stepped⟩

end Walks

/-- Between two states the schedule has walked its grid, unless it was edited. -/
def Walked (library : Library) (instants : library.cron.Schedule → Set Int) (id : ScheduleId) (s f : Scheduler τ) : Prop :=
  ∃ events, f.log = s.log ++ events ∧ (registrationsOf events id = [] → Forward f.log id → Distinct library f.log →
    ∀ row, s.rows (.inl (.schedule id)) = some row → ∃ after, f.rows (.inl (.schedule id)) = some after ∧
      after.cronExpression = row.cronExpression ∧
      Grid.Walk (dueGrid library.cron row.cronExpression instants) row.nextDueAt (dues events id) after.nextDueAt)

theorem walked_refl (s : Scheduler τ) : Walked library instants id s s :=
  ⟨[],(List.append_nil _).symm,fun _ _ _ row stored => ⟨row,stored,rfl,.here _⟩⟩

theorem Walked.trans {m f : Scheduler τ} (first : Walked library instants id s m) (second : Walked library instants id m f) :
    Walked library instants id s f := by
  obtain ⟨events,log,walk⟩ := first
  obtain ⟨events',log',walk'⟩ := second
  refine ⟨events ++ events',by rw [log',log,List.append_assoc],fun unedited forward distinct row stored => ?_⟩
  obtain ⟨unedited₁,unedited₂⟩ := List.append_eq_nil_iff.mp ((List.filterMap_append).symm.trans unedited)
  obtain ⟨middle,stored₁,cron₁,walk₁⟩ := walk unedited₁ (log' ▸ forward).before (log' ▸ distinct).before row stored
  obtain ⟨after,stored₂,cron₂,walk₂⟩ := walk' unedited₂ forward distinct middle stored₁
  rw [cron₁] at walk₂
  rw [dues_append]
  exact ⟨after,stored₂,cron₂.trans cron₁,walk₁.trans walk₂⟩

theorem walked_of_same (schedule : next.rows (.inl (.schedule id)) = s.rows (.inl (.schedule id))) (events : List Event)
    (log : next.log = s.log ++ events) (others : ∀ event ∈ events, event.scheduleId ≠ id) :
    Walked library instants id s next := by
  refine ⟨events,log,fun _ _ _ row stored => ⟨row,schedule.trans stored,rfl,?_⟩⟩
  have quiet : dues events id = [] := by
    refine List.eq_nil_iff_forall_not_mem.mpr fun due member => ?_
    obtain ⟨number,publication,here,own,_⟩ := mem_dues.mp member
    exact others _ here own
  rw [quiet]
  exact .here _

/-- One step: a handled schedule publishes the due time it stood at and goes to the next one. -/
theorem walked_step (walks : ∀ schedule t g, library.cron.after schedule t = some g → Grid.After (instants schedule) t g)
    {action : SchedulerAction τ} (standing : Standing library id s)
    (stepped : s.step library contract allowed action = some next) : Walked library instants id s next := by
  cases Scheduler.stepped stepped with
  | quiet schedules names occurrences indexed log =>
    exact walked_of_same (schedules id) [] (log.trans (List.append_nil _).symm) fun _ member => by cases member
  | handled number scheduleId draws now handled schedule nextDueAt middle advances rows log =>
    have move := moved advances rows
    by_cases same : id = scheduleId
    · subst same
      refine ⟨_,log,fun _ forward distinct row stored => ?_⟩
      obtain rfl := Option.some.inj (stored.symm.trans advances.found)
      refine ⟨_,move.own,rfl,?_⟩
      cases published : handled.published with
      | none =>
        -- its occurrence would be one that was published under the same identifier, long before
        obtain ⟨occurrence,recorded⟩ := Option.isSome_iff_exists.mp (move.suppressed published)
        obtain ⟨pass,publication,before,identifier⟩ := standing.sound.occurrences _ _ recorded
        have event : handledEvent number id row handled = .suppressed number id row.nextDueAt := by
          rw [handledEvent,published]
        rw [log,event] at distinct forward
        have pair := distinct (.published pass publication) (List.mem_append_left _ before)
          (.suppressed number id row.nextDueAt) (by simp) (publication.scheduleId,publication.dueAt) (id,row.nextDueAt) rfl rfl
          identifier.symm
        obtain ⟨own,due⟩ := Prod.mk.inj pair
        have beyond := standing.ahead forward.before publication.dueAt (mem_dues.mpr ⟨pass,publication,before,own,rfl⟩) row
          advances.found
        omega
      | some publication =>
        obtain ⟨own,due⟩ := move.published publication published
        have event : dues [handledEvent number id row handled] id = [row.nextDueAt] := by
          simp [handledEvent,published,dues,own,due]
        rw [event]
        exact .step (after_of_nextAfter walks (standing.sound.kept id row advances.found).whole advances.next) (.here _)
    · refine walked_of_same (move.others id same) _ log fun event member => ?_
      rw [List.mem_singleton.mp member,move.logged]
      exact fun equal => same equal.symm
  | registered message draws now input nextDueAt scheduleId middle accepts stores rows log =>
    have registered := standing.sound.stored stores rows
    by_cases same : id = scheduleId
    · subst same
      refine ⟨_,log,fun unedited => ?_⟩
      simp [registrationsOf] at unedited
    · refine walked_of_same (registered.others id same) _ log fun event member => ?_
      rw [List.mem_singleton.mp member]
      exact fun equal => same equal.symm

section Numbered

theorem due_nodup (rows : Rows) (scan : List ScheduleId) (limit : Nat) (now : Timestamp) (distinct : scan.Nodup) :
    (dueSchedules rows scan limit now).Nodup := by
  rw [dueSchedules]
  refine List.Nodup.sublist ((List.take_sublist _ _).map _) ?_
  refine (((List.perm_insertionSort _ _).map Prod.snd).nodup_iff).mpr ?_
  rw [List.map_filterMap]
  refine distinct.filterMap fun id id' b own own' => ?_
  simp only [Option.map_map,Option.mem_def,Option.map_eq_some_iff,Function.comp_apply] at own own'
  obtain ⟨_,_,rfl⟩ := own
  obtain ⟨_,_,rfl⟩ := own'
  rfl

theorem publishedIn_append (log events : List Event) (number : Nat) :
    publishedIn (log ++ events) number id = publishedIn log number id ++ publishedIn events number id :=
  List.filterMap_append

theorem mem_publishedIn {log : List Event} {number : Nat} {publication : Publication} :
    publication ∈ publishedIn log number id ↔ .published number publication ∈ log ∧ publication.scheduleId = id := by
  simp only [publishedIn,List.mem_filterMap]
  constructor
  · rintro ⟨event,member,found⟩
    cases event with
    | published pass other =>
      obtain ⟨⟨rfl,own⟩,same⟩ := Option.ite_none_right_eq_some.mp found
      obtain rfl := Option.some.inj same
      exact ⟨member,own⟩
    | suppressed | registered => cases found
  · rintro ⟨member,rfl⟩
    exact ⟨_,member,if_pos ⟨rfl,rfl⟩⟩

/-- Passes have numbers of their own, and have published nothing yet of what they are waiting to handle. -/
structure Numbered (s : Scheduler τ) : Prop where
  fresh : ∀ number id, s.begun ≤ number → publishedIn s.log number id = []
  begun : ∀ process pass, s.passes process = some pass → pass.number < s.begun
  waiting : ∀ process pass, s.passes process = some pass → pass.waiting.Nodup ∧
    ∀ id ∈ pass.waiting, publishedIn s.log pass.number id = []
  apart : ∀ process other pass pass', s.passes process = some pass → s.passes other = some pass' →
    pass.number = pass'.number → process = other
  once : ∀ number id, (publishedIn s.log number id).length ≤ 1
  listed : s.schedules.Nodup

theorem initial_numbered (others : Rows) : Numbered (initial others : Scheduler τ) where
  fresh _ _ _ := rfl
  begun _ _ running := by cases running
  waiting _ _ running := by cases running
  apart _ _ _ _ running := by cases running
  once _ _ := Nat.zero_le _
  listed := List.nodup_nil

/-- Without a publication in the log, passes may only go on or end. -/
theorem Numbered.quiet (numbered : Numbered s) (events : List Event) (log : next.log = s.log ++ events)
    (unpublished : ∀ number id, publishedIn events number id = []) (begun : next.begun = s.begun)
    (passes : next.passes = s.passes) (listed : next.schedules.Nodup) : Numbered next := by
  have same (number : Nat) (id : ScheduleId) : publishedIn next.log number id = publishedIn s.log number id := by
    rw [log,publishedIn_append,unpublished,List.append_nil]
  refine ⟨fun number id => ?_,?_,?_,?_,fun number id => ?_,listed⟩
  · rw [same,begun]
    exact numbered.fresh number id
  · rw [passes,begun]
    exact numbered.begun
  · rw [passes]
    simp only [same]
    exact numbered.waiting
  · rw [passes]
    exact numbered.apart
  · rw [same]
    exact numbered.once number id

/-- A pass goes on with the schedules after the first one, which it may have published for. -/
theorem Numbered.goes_on (numbered : Numbered s) (process : τ) (pass pass' : Pass) (first : ScheduleId)
    (running : s.passes process = some pass) (passes : next.passes = Function.update s.passes process (some pass'))
    (waiting : pass.waiting = first :: pass'.waiting) (number : pass'.number = pass.number)
    (begun : next.begun = s.begun) (listed : next.schedules = s.schedules) (events : List Event)
    (log : next.log = s.log ++ events)
    (only : ∀ number id, publishedIn events number id ≠ [] →
      number = pass.number ∧ id = first ∧ (publishedIn events number id).length = 1) : Numbered next := by
  have lookup (other : τ) (found : Pass) (held : next.passes other = some found) :
      other = process ∧ found = pass' ∨ other ≠ process ∧ s.passes other = some found := by
    by_cases same : other = process
    · subst same
      rw [passes,Function.update_self] at held
      exact Or.inl ⟨rfl,(Option.some.inj held).symm⟩
    · rw [passes,Function.update_of_ne same] at held
      exact Or.inr ⟨same,held⟩
  have other (number : Nat) (id : ScheduleId) (apart : number ≠ pass.number ∨ id ≠ first) :
      publishedIn next.log number id = publishedIn s.log number id := by
    have nothing : publishedIn events number id = [] := by
      by_contra something
      obtain ⟨same,same',_⟩ := only number id something
      exact apart.elim (fun different => different same) fun different => different same'
    rw [log,publishedIn_append,nothing,List.append_nil]
  have below := numbered.begun process pass running
  obtain ⟨distinct,unpublished⟩ := numbered.waiting process pass running
  rw [waiting] at distinct unpublished
  obtain ⟨absent,distinct⟩ := List.nodup_cons.mp distinct
  refine ⟨fun n id beyond => ?_,fun p found held => ?_,fun p found held => ?_,fun p q a b held held' same => ?_,
    fun n id => ?_,listed ▸ numbered.listed⟩
  · rw [begun] at beyond
    rw [other n id (Or.inl (by omega))]
    exact numbered.fresh n id beyond
  · rcases lookup p found held with ⟨rfl,rfl⟩ | ⟨_,before⟩
    · rw [number,begun]
      exact below
    · rw [begun]
      exact numbered.begun p found before
  · rcases lookup p found held with ⟨rfl,rfl⟩ | ⟨different,before⟩
    · refine ⟨distinct,fun id member => ?_⟩
      rw [number,other pass.number id (Or.inr fun same => absent (same ▸ member))]
      exact unpublished id (List.mem_cons_of_mem _ member)
    · obtain ⟨nodup,none_⟩ := numbered.waiting p found before
      refine ⟨nodup,fun id member => ?_⟩
      rw [other found.number id (Or.inl fun same => different (numbered.apart p process found pass before running same))]
      exact none_ id member
  · rcases lookup p a held with ⟨rfl,rfl⟩ | ⟨different,before⟩
    · rcases lookup q b held' with ⟨rfl,_⟩ | ⟨_,before'⟩
      · rfl
      · exact numbered.apart p q pass b running before' (number ▸ same)
    · rcases lookup q b held' with ⟨rfl,rfl⟩ | ⟨_,before'⟩
      · exact numbered.apart p q a pass before running (same.trans number)
      · exact numbered.apart p q a b before before' same
  · by_cases own : n = pass.number ∧ id = first
    · obtain ⟨rfl,rfl⟩ := own
      rw [log,publishedIn_append,unpublished id List.mem_cons_self,List.nil_append]
      by_cases nothing : publishedIn events pass.number id = []
      · rw [nothing]
        exact Nat.zero_le _
      · exact (only _ _ nothing).2.2.le
    · rw [other n id (by tauto)]
      exact numbered.once n id

/-- A pass that starts has the next number. -/
theorem Numbered.starts (numbered : Numbered s) (process : τ) (pass : Pass) (distinct : pass.waiting.Nodup)
    (number : pass.number = s.begun) :
    Numbered ({ s with begun := s.begun + 1 }.setPass process pass) := by
  have lookup (other : τ) (found : Pass)
      (held : ({ s with begun := s.begun + 1 }.setPass process pass).passes other = some found) :
      other = process ∧ found = pass ∨ other ≠ process ∧ s.passes other = some found := by
    simp only [setPass] at held
    by_cases same : other = process
    · subst same
      rw [Function.update_self] at held
      exact Or.inl ⟨rfl,(Option.some.inj held).symm⟩
    · rw [Function.update_of_ne same] at held
      exact Or.inr ⟨same,held⟩
  refine ⟨fun n id beyond => ?_,fun p found held => ?_,fun p found held => ?_,fun p q a b held held' same => ?_,
    numbered.once,numbered.listed⟩
  · exact numbered.fresh n id (Nat.le_of_succ_le beyond)
  · change found.number < s.begun + 1
    rcases lookup p found held with ⟨_,rfl⟩ | ⟨_,before⟩
    · omega
    · exact (numbered.begun p found before).trans (Nat.lt_succ_self _)
  · rcases lookup p found held with ⟨_,rfl⟩ | ⟨_,before⟩
    · exact ⟨distinct,fun id _ => numbered.fresh found.number id number.ge⟩
    · exact numbered.waiting p found before
  · rcases lookup p a held with ⟨rfl,rfl⟩ | ⟨_,before⟩
    · rcases lookup q b held' with ⟨rfl,_⟩ | ⟨_,before'⟩
      · rfl
      · have below := numbered.begun q b before'
        omega
    · rcases lookup q b held' with ⟨rfl,rfl⟩ | ⟨_,before'⟩
      · have below := numbered.begun p a before
        omega
      · exact numbered.apart p q a b before before' same

theorem listed_nodup (schedules : List ScheduleId) (events : List Event) (distinct : schedules.Nodup) :
    (listed schedules events).Nodup := by
  rw [listed.eq_def]
  split
  · split
    · exact distinct
    · rename_i absent
      rw [← List.concat_eq_append]
      exact distinct.concat absent
  · exact distinct

theorem Numbered.step {action : SchedulerAction τ} (numbered : Numbered s)
    (stepped : s.step library contract allowed action = some next) : Numbered next := by
  cases action with
  | start process scan limit now =>
    simp only [Scheduler.step] at stepped
    split at stepped
    · rename_i permuted
      cases stepped
      have distinct : scan.Nodup := (List.isPerm_iff.mp permuted).nodup_iff.mpr numbered.listed
      exact numbered.starts process _ (due_nodup _ _ _ _ distinct) rfl
    · cases stepped
  | handle process draws =>
    simp only [Scheduler.step] at stepped
    split at stepped
    · rename_i number now scheduleId waiting report running
      cases ended : exec constraints (Scheduling.handle library scheduleId draws now) s.rows with
      | abandoned | refused =>
        rw [ended] at stepped
        cases stepped
        exact numbered.goes_on process _ _ scheduleId running rfl rfl rfl rfl rfl [] rfl fun _ _ something =>
          absurd rfl something
      | done handled later =>
        rw [ended] at stepped
        obtain ⟨schedule,nextDueAt,middle,advances,rfl⟩ := (exec_handle_done _ _ _ _ _ _ _).mp ended
        have move := moved advances rfl
        cases stepped
        refine numbered.goes_on process _ _ scheduleId running rfl rfl rfl rfl rfl [handledEvent number scheduleId schedule handled]
          ?_ fun n id something => ?_
        · change s.log ++ handledEvents s.rows number scheduleId _ = _
          simp only [handledEvents,handledEvent,advances.found]
          cases handled.published <;> rfl
        · cases published : handled.published with
          | none => simp [handledEvent,published,publishedIn] at something
          | some publication =>
            have own := (move.published publication published).1
            by_cases same : number = n ∧ scheduleId = id
            · obtain ⟨rfl,rfl⟩ := same
              simp [handledEvent,published,publishedIn,own]
            · simp [handledEvent,published,publishedIn,own,same] at something
    · cases stepped
  | leave process failed =>
    simp only [Scheduler.step] at stepped
    split at stepped
    · rename_i number now scheduleId waiting report running
      cases stepped
      exact numbered.goes_on process _ _ scheduleId running rfl rfl rfl rfl rfl [] (List.append_nil _).symm
        fun _ _ something => absurd rfl something
    · cases stepped
  | register message draws now =>
    cases stepped
    refine numbered.quiet _ rfl (fun number id => ?_) rfl rfl (listed_nodup _ _ numbered.listed)
    refine List.eq_nil_iff_forall_not_mem.mpr fun publication member => ?_
    have here := (mem_publishedIn.mp member).1
    rw [registeredEvents.eq_def] at here
    split at here
    · split at here
      · cases here
      · split at here
        · cases here
        · cases List.mem_singleton.mp here
    · cases here
  | collect visited before =>
    cases stepped
    exact numbered.quiet [] (List.append_nil _).symm (fun _ _ => rfl) rfl rfl numbered.listed
  | elsewhere others =>
    cases stepped
    exact numbered.quiet [] (List.append_nil _).symm (fun _ _ => rfl) rfl rfl numbered.listed

end Numbered

theorem registrationsOf_append (log events : List Event) :
    registrationsOf (log ++ events) id = registrationsOf log id ++ registrationsOf events id := List.filterMap_append

/-- A schedule that was registered once only stands on its grid. -/
def Gridded (library : Library) (instants : library.cron.Schedule → Set Int) (id : ScheduleId) (s : Scheduler τ) : Prop :=
  ∀ row, s.rows (.inl (.schedule id)) = some row → registrationsOf s.log id ≠ [] ∧
    ((registrationsOf s.log id).length = 1 → row.nextDueAt ∈ dueGrid library.cron row.cronExpression instants)

theorem Gridded.step (walks : ∀ schedule t g, library.cron.after schedule t = some g → Grid.After (instants schedule) t g)
    {action : SchedulerAction τ} (gridded : Gridded library instants id s) (sound : Sound library s)
    (stepped : s.step library contract allowed action = some next) : Gridded library instants id next := by
  intro row stored
  cases Scheduler.stepped stepped with
  | quiet schedules names occurrences indexed log =>
    rw [log]
    exact gridded row ((schedules id).symm.trans stored)
  | handled number scheduleId draws now handled schedule nextDueAt middle advances rows log =>
    have move := moved advances rows
    have unregistered : registrationsOf [handledEvent number scheduleId schedule handled] id = [] := by
      rw [handledEvent]
      cases handled.published <;> rfl
    rw [log,registrationsOf_append,unregistered,List.append_nil]
    by_cases same : id = scheduleId
    · subst same
      obtain rfl := Option.some.inj (move.own.symm.trans stored)
      refine ⟨(gridded schedule advances.found).1,fun _ => ?_⟩
      exact (after_of_nextAfter walks (sound.kept id schedule advances.found).whole advances.next).mem
    · exact gridded row ((move.others id same).symm.trans stored)
  | registered message draws now input nextDueAt scheduleId middle accepts stores rows log =>
    have registered := sound.stored stores rows
    rw [log,registrationsOf_append]
    by_cases same : id = scheduleId
    · subst same
      have one : registrationsOf [Event.registered id input now] id = [input] := by simp [registrationsOf]
      rw [one]
      refine ⟨by simp,fun once => ?_⟩
      obtain ⟨after,own,_,_,origin⟩ := registered.own
      obtain rfl := Option.some.inj (own.symm.trans stored)
      rcases origin with ⟨_,rfl⟩ | ⟨before,found,rfl⟩
      · exact (lt_of_nextAfter walks accepts.next).2
      · have earlier := List.length_pos_iff.mpr (gridded before found).1
        simp only [List.length_append,List.length_singleton] at once
        omega
    · have none_ : registrationsOf [Event.registered scheduleId input now] id = [] := by
        simp [registrationsOf,Ne.symm same]
      rw [none_,List.append_nil]
      exact gridded row ((registered.others id same).symm.trans stored)

/-- An edit of a schedule whose due time is owed: it goes to the schedule of that name and leaves the
due time where it is. -/
def KeepsOwed (s next : Scheduler τ) : Prop :=
  ∀ id input now row, next.log = s.log ++ [.registered id input now] → s.rows (.inl (.schedule id)) = some row →
    row.nextDueAt ≤ toOffset now →
      (∀ stored, s.rows (.inl (.scheduleName input.serviceName input.name)) = some stored → stored = id) ∧
        ∃ after, next.rows (.inl (.schedule id)) = some after ∧ after.nextDueAt = row.nextDueAt

theorem keeps_owed {action : SchedulerAction τ} (sound : Sound library s)
    (stepped : s.step library contract allowed action = some next) : KeepsOwed s next := by
  intro id input now row logged found owed
  cases Scheduler.stepped stepped with
  | quiet schedules names occurrences indexed log => simp [log] at logged
  | handled number scheduleId draws now' handled schedule nextDueAt middle advances rows log =>
    rw [log] at logged
    have event := List.singleton_inj.mp (List.append_cancel_left logged)
    rw [handledEvent] at event
    cases published : handled.published <;> rw [published] at event <;> cases event
  | registered message draws now' input' nextDueAt scheduleId middle accepts stores rows log =>
    rw [log] at logged
    obtain ⟨rfl,rfl,rfl⟩ := Event.registered.inj (List.singleton_inj.mp (List.append_cancel_left logged))
    have registered := sound.stored stores rows
    refine ⟨registered.kept,?_⟩
    obtain ⟨after,own,_,_,origin⟩ := registered.own
    rcases origin with ⟨absent,_⟩ | ⟨before,found',rfl⟩
    · cases absent.symm.trans found
    · obtain rfl := Option.some.inj (found.symm.trans found')
      exact ⟨_,own,if_pos owed⟩

end Scheduler

section Runs

variable {τ : Type} [DecidableEq τ] (library : Library) (contract : RegistrationContract) (allowed : List String)
  (instants : library.cron.Schedule → Set Int)
  (walks : ∀ schedule t g, library.cron.after schedule t = some g → Grid.After (instants schedule) t g)

include walks

/-- Whatever passes run and however late, an unedited schedule publishes the due time it stands at and
those after it, one at a time; an edit keeps the due time that is owed. -/
theorem catches_up (others : Rows) (before stretch : List (SchedulerAction τ)) (middle final : Scheduler τ)
    (reached : StateMachine.run (Scheduler.step library contract allowed) (Scheduler.initial others) before = some middle)
    (ran : StateMachine.run (Scheduler.step library contract allowed) middle stretch = some final) :
    (∃ events, final.log = middle.log ++ events ∧ ∀ id row, middle.rows (.inl (.schedule id)) = some row →
        registrationsOf events id = [] → Forward final.log id → Distinct library final.log →
        (∃ after, final.rows (.inl (.schedule id)) = some after ∧
          Grid.Walk (dueGrid library.cron row.cronExpression instants) row.nextDueAt (dues events id) after.nextDueAt) ∧
        ((registrationsOf middle.log id).length = 1 → row.nextDueAt ∈ dueGrid library.cron row.cronExpression instants)) ∧
      (∀ number id, (publishedIn final.log number id).length ≤ 1) ∧
      ∀ action next, final.step library contract allowed action = some next → Scheduler.KeepsOwed final next := by
  have standing (id : ScheduleId) : Scheduler.Standing library id middle :=
    StateMachine.run_invariant _ (Scheduler.Standing library id) (fun _ _ _ standing stepped => standing.step walks stepped)
      _ before middle (Scheduler.initial_standing others) reached
  have walked (id : ScheduleId) : Scheduler.Walked library instants id middle final :=
    StateMachine.run_relation _ (Scheduler.Standing library id) (Scheduler.Walked library instants id)
      Scheduler.walked_refl (fun _ _ _ => Scheduler.Walked.trans) (fun _ _ _ standing stepped => standing.step walks stepped)
      (fun _ _ _ standing stepped => Scheduler.walked_step walks standing stepped) middle stretch final (standing id) ran
  have gridded (id : ScheduleId) : Scheduler.Sound library middle ∧ Scheduler.Gridded library instants id middle :=
    StateMachine.run_invariant _ (fun s => Scheduler.Sound library s ∧ Scheduler.Gridded library instants id s)
      (fun _ _ _ both stepped => ⟨both.1.step walks stepped,both.2.step walks both.1 stepped⟩) _ before middle
      ⟨Scheduler.initial_sound others,fun _ stored => by cases stored⟩ reached
  have whole : StateMachine.run (Scheduler.step library contract allowed) (Scheduler.initial others) (before ++ stretch) =
      some final := (StateMachine.run_append_eq_some _ _ _ _ _).mpr ⟨middle,reached,ran⟩
  have numbered := StateMachine.run_invariant _ Scheduler.Numbered (fun _ _ _ numbered stepped => numbered.step stepped) _ _
    final (Scheduler.initial_numbered others) whole
  have sound := StateMachine.run_invariant _ (Scheduler.Sound library) (fun _ _ _ sound stepped => sound.step walks stepped) _
    _ final (Scheduler.initial_sound others) whole
  refine ⟨?_,numbered.once,fun action next stepped => Scheduler.keeps_owed sound stepped⟩
  obtain ⟨events,log,_⟩ := walked 0
  refine ⟨events,log,fun id row stored unedited forward distinct => ⟨?_,fun once => ((gridded id).2 row stored).2 once⟩⟩
  obtain ⟨events',log',walk⟩ := walked id
  obtain rfl := List.append_cancel_left (log.symm.trans log')
  obtain ⟨after,stored',_,walk⟩ := walk unedited forward distinct row stored
  exact ⟨after,stored',walk⟩

end Runs

section Minutely

theorem minutely_walks (schedule : minutely.Schedule) (t g : Int) (found : minutely.after schedule t = some g) :
    Grid.After {second : Int | 60 ∣ second} t g := by
  obtain rfl : 60 * (t / 60) + 60 = g := Option.some.inj found
  refine ⟨⟨?_,?_⟩,fun h ⟨⟨minute,same⟩,later⟩ => ?_⟩
  · exact ⟨t / 60 + 1,by omega⟩
  · omega
  · omega

/-- Without a later registration nothing is clocked before what was published. -/
theorem forward_of_once (log : List Event) (scheduleId : ScheduleId) (once : registrationsOf log.tail scheduleId = []) :
    Forward log scheduleId := by
  have unregistered (events : List Event) (none_ : registrationsOf events scheduleId = []) (input : Registration)
      (now : Timestamp) : .registered scheduleId input now ∉ events := by
    intro member
    have found : input ∈ registrationsOf events scheduleId := List.mem_filterMap.mpr ⟨_,member,if_pos rfl⟩
    rw [none_] at found
    cases found
  refine List.pairwise_iff_getElem.mpr fun i j low high ordered due _ input now equal => ?_
  refine absurd ?_ (unregistered log.tail once input now)
  rw [← equal,List.mem_iff_getElem]
  exact ⟨j - 1,by rw [List.length_tail]; omega,by simp [List.getElem_tail,show j - 1 + 1 = j by omega]⟩

def minutelyStep : Scheduler Unit → SchedulerAction Unit → Option (Scheduler Unit) :=
  Scheduler.step minutelyLibrary minutelyContract ["ratatoskr-github"]

/-- Two passes over three minutes late -/
def latePasses : List (SchedulerAction Unit) :=
  [.start () [minutelySchedule] 10 200000000000,.handle () (minutelyDraws 1),
    .start () [minutelySchedule] 10 200000000000,.handle () (minutelyDraws 2)]

/-- Three minutes late, two passes publish the first two of the three due times. -/
theorem late_catches_up : ∃ middle final : Scheduler Unit,
    StateMachine.run minutelyStep middle latePasses = some final ∧ dues final.log minutelySchedule = [60000000,120000000] ∧
      ∃ after, final.rows (.inl (.schedule minutelySchedule)) = some after ∧
        Grid.Walk (dueGrid minutely "* * * * *" fun _ => {second : Int | 60 ∣ second}) 60000000 [60000000,120000000]
          after.nextDueAt := by
  have ran : ((StateMachine.run minutelyStep (Scheduler.initial oneUser)
      [.register (minutelyMessage true) ⟨minutelySchedule,50⟩ 0]).bind fun middle =>
        (middle.rows (.inl (.schedule minutelySchedule))).bind fun row : Schedule =>
          (StateMachine.run minutelyStep middle latePasses).map fun final =>
            row.nextDueAt == 60000000 && row.cronExpression == "* * * * *" && dues middle.log minutelySchedule == [] &&
              middle.log.length == 1 && (registrationsOf final.log.tail minutelySchedule).length == 0 &&
              final.log.filterMap Event.occurrence == [(minutelySchedule,60000000),(minutelySchedule,120000000)] &&
              dues final.log minutelySchedule == [60000000,120000000]) = some true := by decide +kernel
  obtain ⟨middle,reached,ran⟩ := Option.bind_eq_some_iff.mp ran
  obtain ⟨row,stored,ran⟩ := Option.bind_eq_some_iff.mp ran
  obtain ⟨final,passed,ended⟩ := Option.map_eq_some_iff.mp ran
  simp only [Bool.and_eq_true,beq_iff_eq] at ended
  obtain ⟨⟨⟨⟨⟨⟨due,cron⟩,unpublished⟩,first⟩,once⟩,handled⟩,published⟩ := ended
  obtain ⟨events,log,walk⟩ := (catches_up minutelyLibrary minutelyContract ["ratatoskr-github"]
    (fun _ => {second : Int | 60 ∣ second}) minutely_walks oneUser _ latePasses middle final reached passed).1
  obtain ⟨event,start⟩ := List.length_eq_one_iff.mp first
  have tail : final.log.tail = events := by rw [log,start]; rfl
  have unedited := List.length_eq_zero_iff.mp once
  have distinct : Distinct minutelyLibrary final.log := by
    have apart : pairId minutelyLibrary minutelySchedule 60000000 ≠ pairId minutelyLibrary minutelySchedule 120000000 := by
      decide +kernel
    intro event member other member' pair pair' occurrence occurrence' same
    have listed := List.mem_filterMap.mpr ⟨event,member,occurrence⟩
    have listed' := List.mem_filterMap.mpr ⟨other,member',occurrence'⟩
    rw [handled] at listed listed'
    simp only [List.mem_cons,List.not_mem_nil,or_false] at listed listed'
    rcases listed with rfl | rfl <;> rcases listed' with rfl | rfl
    · rfl
    · exact absurd same apart
    · exact absurd same apart.symm
    · rfl
  obtain ⟨⟨after,stored',walked⟩,_⟩ := walk minutelySchedule row stored (tail ▸ unedited)
    (forward_of_once _ _ unedited) distinct
  have new : dues events minutelySchedule = [60000000,120000000] := by
    rw [log,dues_append,unpublished] at published
    exact published
  rw [new,due,cron] at walked
  exact ⟨middle,final,passed,published,after,stored',walked⟩

end Minutely

end Ratatoskr.Scheduling
