import Ratatoskr.Lib.Text
import Ratatoskr.Scheduling.FiredOnce
import Ratatoskr.Scheduling.Reached

/-! Which registration commands the handler answers: the checks it makes itself against those of the
tables it writes. -/
namespace Ratatoskr.Scheduling

open Transaction Eventing

section Grammars

/-- `-` is what a subject takes and a contract type does not. -/
theorem token_dash_iff {segment : List Char} (token : isSubjectToken segment = true) :
    isToken Char.isLower isNameChar 31 segment = true ↔ '-' ∉ segment := by
  cases segment with
  | nil => cases token
  | cons first rest =>
    simp only [isSubjectToken,isToken,Bool.and_eq_true,List.all_eq_true,decide_eq_true_eq] at token ⊢
    obtain ⟨⟨lower,short⟩,chars⟩ := token
    constructor
    · rintro ⟨_,names⟩ dash
      rcases List.mem_cons.mp dash with rfl | inside
      · revert lower
        decide
      · have name := names '-' inside
        revert name
        decide
    · intro dashless
      refine ⟨⟨lower,short⟩,fun c inside => ?_⟩
      have valid := chars c inside
      simp only [isNamespaceChar,Bool.or_eq_true,beq_iff_eq] at valid
      exact valid.resolve_right fun same => dashless (List.mem_cons_of_mem _ (same ▸ inside))

theorem contractType_iff {commandType : String} (made : (Subject.new .command commandType).isOk = true) :
    isContractType commandType = true ↔ '-' ∉ commandType.toList := by
  cases named : Subject.new .command commandType with
  | error => rw [named] at made; cases made
  | ok subject =>
    obtain ⟨body,version,text,short,digits,leading,least,most,tokens,_⟩ := new_eq_ok named
    have parts := splitOn_typeName text digits
    have numbered := version_of_digits short digits leading
    have split : isContractType commandType = (body.splitOn '.').all (isToken Char.isLower isNameChar 31) := by
      simp [isContractType,parts,least,most,numbered]
    rw [split,List.all_eq_true,Text.mem_splitOn (show '-' ≠ '.' by decide),parts]
    have dashless : '-' ∉ 'v' :: version := by
      intro dash
      rcases List.mem_cons.mp dash with letter | digit
      · cases letter
      · have inside := List.all_eq_true.mp digits '-' digit
        revert inside
        decide
    constructor
    · rintro names ⟨part,listed,dash⟩
      rcases List.mem_append.mp listed with segment | last
      · exact (token_dash_iff (List.all_eq_true.mp tokens part segment)).mp (names part segment) dash
      · exact dashless (List.mem_singleton.mp last ▸ dash)
    · intro none_ segment listed
      refine (token_dash_iff (List.all_eq_true.mp tokens segment listed)).mpr fun dash => ?_
      exact none_ ⟨segment,List.mem_append_left _ listed,dash⟩

/-- Five fields and what stands between them. -/
theorem nine_le_of_fieldCount {expression : String} (fields : fieldCount expression = 5) : 9 ≤ expression.length := by
  have bound := Text.two_mul_parts_le isWhiteSpace expression.toList
  rw [show ((expression.toList.splitOnP isWhiteSpace).filter fun part => !part.isEmpty).length = 5 from fields] at bound
  rw [← String.length_toList]
  omega

theorem nine_le_of_nextAfter {crate : CronCrate} {expression : String} {after : Timestamp}
    (evaluates : (nextAfter crate expression after).isSome = true) : 9 ≤ expression.length := by
  obtain ⟨next,found⟩ := Option.isSome_iff_exists.mp evaluates
  obtain ⟨schedule,second,parsed,_⟩ := nextAfter_eq_some.mp found
  rw [parseExpression] at parsed
  split at parsed
  · exact nine_le_of_fieldCount ‹_›
  · cases parsed

end Grammars

section Storable

variable {library : Library} {contract : RegistrationContract} {allowed : List String} {message : Incoming Json}
  {draws : RegistrationDraws} {now nextDueAt : Timestamp} {input : Registration} {rows : Rows}

/-- What the tables ask of a registration beyond the checks of the handler. -/
structure Registration.Storable (input : Registration) (now : Timestamp) (rows : Rows) : Prop where
  short : input.cronExpression.length ≤ 120
  text : isText input.cronExpression = true
  dashless : '-' ∉ input.commandType.toList
  unprefixed : isAlreadyASubject input.commandType = false
  payload : input.payload.storable = true
  /-- The clock has not been set back behind the creation of the schedule. -/
  clock : ∀ scheduleId schedule, rows (.inl (.scheduleName input.serviceName input.name)) = some scheduleId →
    rows (.inl (.schedule scheduleId)) = some schedule → schedule.createdAt ≤ toOffset now

theorem admitted_fields (admitted : input.admitted library allowed message now = true) :
    isLabel input.serviceName = true ∧ isLabel input.name = true ∧ isDottedName input.operationKind = true ∧
      9 ≤ input.cronExpression.length ∧ (Subject.new .command input.commandType).isOk = true ∧
      input.payload.isObject = true := by
  simp only [Registration.admitted,Bool.and_eq_true] at admitted
  obtain ⟨⟨⟨⟨⟨⟨⟨_,_⟩,service⟩,name⟩,kind⟩,evaluates⟩,subject⟩,object⟩ := admitted
  exact ⟨service,name,kind,nine_le_of_nextAfter evaluates,subject,object⟩

/-- Of the columns a registration fills, these four are the ones the handler has not checked in full. -/
theorem columns_iff (admitted : input.admitted library allowed message now = true) (row : Schedule)
    (service : isLabel row.serviceName = true) (name : isLabel row.name = true)
    (cron : row.cronExpression = input.cronExpression) (command : row.commandType = input.commandType)
    (kind : row.operationKind = input.operationKind) (payload : row.payload = input.payload) :
    (row.checks && row.storable) = true ↔ input.cronExpression.length ≤ 120 ∧ isText input.cronExpression = true ∧
      '-' ∉ input.commandType.toList ∧ isAlreadyASubject input.commandType = false ∧ input.payload.storable = true ∧
        row.createdAt ≤ row.updatedAt := by
  obtain ⟨_,_,dotted,nine,subject,object⟩ := admitted_fields admitted
  rw [← contractType_iff subject]
  simp only [Schedule.checks,Schedule.storable,cron,command,kind,payload,service,name,dotted,object,lengthBetween,nine,
    Bool.and_eq_true,decide_eq_true_eq,true_and,and_true,Bool.not_eq_true']
  tauto

/-- What the tables themselves keep true: an index entry has its row, and a row its CHECKs. -/
structure Consistent (rows : Rows) : Prop where
  named : ∀ service name id, rows (.inl (.scheduleName service name)) = some id → (rows (.inl (.schedule id))).isSome
  checked : ∀ id row, rows (.inl (.schedule id)) = some row → row.checks = true ∧ row.storable = true

theorem Consistent.stores (consistent : Consistent rows) {target : ScheduleId} {middle : Rows}
    (stores : Stores input nextDueAt draws.scheduleId now rows target middle) : Consistent middle := by
  cases stores with
  | created free absent checks storable =>
    refine ⟨fun service name id entry => ?_,fun id row stored => ?_⟩
    · rw [Function.update_of_ne (fun same => by cases same)] at entry
      by_cases own : id = draws.scheduleId
      · rw [own,Function.update_self]
        rfl
      · rw [Function.update_of_ne fun same => own (SchedulingTable.schedule.inj (Sum.inl.inj same)),
          Function.update_of_ne fun same => by cases same]
        by_cases same : service = input.serviceName ∧ name = input.name
        · obtain ⟨rfl,rfl⟩ := same
          rw [Function.update_self] at entry
          exact absurd (Option.some.inj entry).symm own
        · rw [Function.update_of_ne fun equal => same (SchedulingTable.scheduleName.inj (Sum.inl.inj equal))] at entry
          exact consistent.named service name id entry
    · by_cases own : id = draws.scheduleId
      · subst own
        rw [Function.update_self] at stored
        obtain rfl := Option.some.inj stored
        exact ⟨checks,storable⟩
      · rw [Function.update_of_ne fun same => own (SchedulingTable.schedule.inj (Sum.inl.inj same)),
          Function.update_of_ne fun same => by cases same] at stored
        exact consistent.checked id row stored
  | edited _ row taken found checks storable =>
    refine ⟨fun service name id entry => ?_,fun id later stored => ?_⟩
    · rw [Function.update_of_ne fun same => by cases same] at entry
      by_cases own : id = target
      · rw [own,Function.update_self]
        rfl
      · rw [Function.update_of_ne fun same => own (SchedulingTable.schedule.inj (Sum.inl.inj same))]
        exact consistent.named service name id entry
    · by_cases own : id = target
      · subst own
        rw [Function.update_self] at stored
        obtain rfl := Option.some.inj stored
        exact ⟨checks,storable⟩
      · rw [Function.update_of_ne fun same => own (SchedulingTable.schedule.inj (Sum.inl.inj same))] at stored
        exact consistent.checked id later stored
  | missed => exact consistent

theorem stores_iff (consistent : Consistent rows) (fresh : rows (.inl (.schedule draws.scheduleId)) = none)
    (admitted : input.admitted library allowed message now = true) :
    (∃ id middle, Stores input nextDueAt draws.scheduleId now rows id middle) ↔ input.Storable now rows := by
  obtain ⟨service,name,_⟩ := admitted_fields admitted
  constructor
  · rintro ⟨id,middle,stores⟩
    cases stores with
    | created free absent checks storable =>
      obtain ⟨short,text,dashless,unprefixed,payload,_⟩ := (columns_iff admitted (input.row nextDueAt now) service name rfl rfl
        rfl rfl).mp (Bool.and_eq_true_iff.mpr ⟨checks,storable⟩)
      exact ⟨short,text,dashless,unprefixed,payload,fun id schedule entry => by cases free.symm.trans entry⟩
    | edited id row taken found checks storable =>
      have labels := (consistent.checked id row found).1
      simp only [Schedule.checks,Bool.and_eq_true] at labels
      obtain ⟨short,text,dashless,unprefixed,payload,clock⟩ := (columns_iff admitted (row.edited input nextDueAt now)
        labels.1.1.1.1.1.1.2 labels.1.1.1.1.1.1.1 rfl rfl rfl rfl).mp (Bool.and_eq_true_iff.mpr ⟨checks,storable⟩)
      refine ⟨short,text,dashless,unprefixed,payload,fun other schedule entry stored => ?_⟩
      obtain rfl := Option.some.inj (taken.symm.trans entry)
      obtain rfl := Option.some.inj (found.symm.trans stored)
      exact clock
    | missed id taken absent =>
      have present := consistent.named _ _ _ taken
      rw [absent] at present
      cases present
  · rintro ⟨short,text,dashless,unprefixed,payload,clock⟩
    cases taken : rows (.inl (.scheduleName input.serviceName input.name)) with
    | none =>
      obtain ⟨checks,storable⟩ := Bool.and_eq_true_iff.mp ((columns_iff admitted (input.row nextDueAt now) service name rfl
        rfl rfl rfl).mpr ⟨short,text,dashless,unprefixed,payload,le_refl _⟩)
      exact ⟨_,_,.created taken fresh checks storable⟩
    | some id =>
      obtain ⟨row,found⟩ := Option.isSome_iff_exists.mp (consistent.named _ _ _ taken)
      have labels := (consistent.checked id row found).1
      simp only [Schedule.checks,Bool.and_eq_true] at labels
      obtain ⟨checks,storable⟩ := Bool.and_eq_true_iff.mp ((columns_iff admitted (row.edited input nextDueAt now)
        labels.1.1.1.1.1.1.2 labels.1.1.1.1.1.1.1 rfl rfl rfl rfl).mpr
          ⟨short,text,dashless,unprefixed,payload,clock id row taken found⟩)
      exact ⟨_,_,.edited id row taken found checks storable⟩

end Storable

section Answers

variable {τ : Type} [DecidableEq τ] {library : Library} {contract : RegistrationContract} {allowed : List String}

theorem Consistent.step {s next : Scheduler τ} {action : SchedulerAction τ} (consistent : Consistent s.rows)
    (stepped : s.step library contract allowed action = some next) : Consistent next.rows := by
  cases Scheduler.stepped stepped with
  | quiet schedules names occurrences indexed log =>
    refine ⟨fun service name id entry => ?_,fun id row stored => ?_⟩
    · rw [schedules]
      exact consistent.named service name id ((names service name).symm.trans entry)
    · exact consistent.checked id row ((schedules id).symm.trans stored)
  | handled number scheduleId draws now handled schedule nextDueAt middle advances rows log =>
    have moved := Scheduler.moved advances rows
    refine ⟨fun service name id entry => ?_,fun id row stored => ?_⟩
    · have present := consistent.named service name id ((moved.names service name).symm.trans entry)
      by_cases own : id = scheduleId
      · rw [own,moved.own]
        rfl
      · rwa [moved.others id own]
    · by_cases own : id = scheduleId
      · subst own
        obtain rfl := Option.some.inj (moved.own.symm.trans stored)
        exact ⟨advances.checks,advances.storable⟩
      · exact consistent.checked id row ((moved.others id own).symm.trans stored)
  | registered message draws now input nextDueAt scheduleId middle accepts stores rows log =>
    have later := consistent.stores stores
    refine ⟨fun service name id entry => ?_,fun id row stored => ?_⟩
    · rw [rows]
      exact later.named service name id ((rows _).symm.trans entry)
    · exact later.checked id row ((rows _).symm.trans stored)

theorem reachable_consistent {s : Scheduler τ} (reached : s.Reachable library contract allowed) : Consistent s.rows := by
  obtain ⟨others,actions,ran⟩ := reached
  refine StateMachine.run_invariant _ (fun s : Scheduler τ => Consistent s.rows)
    (fun _ _ _ consistent stepped => consistent.step stepped) _ actions s ?_ ran
  exact ⟨fun _ _ _ entry => (by cases entry),fun _ _ stored => (by cases stored)⟩

theorem auditEvent_checks (ownerUserId : Option UserId) (scheduleId : Option ScheduleId) (outcome : AuditOutcome)
    (message : Incoming Json) (now : Timestamp) :
    (auditEvent ownerUserId scheduleId outcome message now).checks = isNamespaced (auditedCorrelation message) := by
  have action : lengthBetween 1 120 "schedule.registration" = true := by decide
  have target : lengthBetween 1 60 "schedule" = true := by decide
  simp [auditEvent,AuditEvent.checks,action,target]

/-- The handler answers a command when the audit trail takes its correlation and the table of the
schedules what the handler has let through. -/
theorem apply_answers_iff {s : Scheduler τ} (reached : s.Reachable library contract allowed) (message : Incoming Json)
    (draws : RegistrationDraws) (now : Timestamp) (unusedSchedule : s.rows (.inl (.schedule draws.scheduleId)) = none)
    (unusedAudit : s.rows (.inr (.audit draws.auditEventId)) = none) :
    (∃ answer later, exec constraints (apply library contract allowed message draws now) s.rows = .done answer later) ↔
      isNamespaced (auditedCorrelation message) = true ∧
        ∀ input nextDueAt, Accepts library contract allowed message now s.rows input nextDueAt →
          input.Storable now s.rows := by
  have consistent := reachable_consistent reached
  simp only [exec_apply_done]
  constructor
  · rintro ⟨answer,later,applies⟩
    cases applies with
    | applied input nextDueAt scheduleId middle later accepts stores audits =>
      refine ⟨auditEvent_checks _ _ _ message now ▸ audits.checks,fun other next accepts' => ?_⟩
      obtain rfl := Option.some.inj (accepts.read.symm.trans accepts'.read)
      exact (stores_iff consistent unusedSchedule accepts.admitted).mp ⟨scheduleId,middle,stores⟩
    | rejected later refused audits =>
      exact ⟨auditEvent_checks _ _ _ message now ▸ audits.checks,fun input next accepts => absurd accepts (refused input next)⟩
  · rintro ⟨namespaced,storable⟩
    by_cases accepted : ∃ input nextDueAt, Accepts library contract allowed message now s.rows input nextDueAt
    · obtain ⟨input,nextDueAt,accepts⟩ := accepted
      obtain ⟨scheduleId,middle,stores⟩ :=
        (stores_iff consistent unusedSchedule accepts.admitted).mpr (storable input nextDueAt accepts)
      refine ⟨.applied,_,.applied input nextDueAt scheduleId middle _ accepts stores
        ⟨(auditEvent_checks _ _ _ message now).trans namespaced,?_,rfl⟩⟩
      cases stores with
      | created =>
        exact (Function.update_of_ne (fun same => by cases same) _ _).trans
          ((Function.update_of_ne (fun same => by cases same) _ _).trans unusedAudit)
      | edited => exact (Function.update_of_ne (fun same => by cases same) _ _).trans unusedAudit
      | missed => exact unusedAudit
    · refine ⟨.rejected,_,.rejected _ (fun input next accepts => accepted ⟨input,next,accepts⟩)
        ⟨(auditEvent_checks _ _ _ message now).trans namespaced,unusedAudit,rfl⟩⟩

end Answers

section Nightly

/-- A contract crate that takes no envelope -/
def strictContract : RegistrationContract where
  Envelope := RegistrationRequested
  fromJson _ := none
  producer _ := "ratatoskr-github"
  payloadAs := some

/-- An envelope with nothing but a correlation, which is a bare word. -/
def nightlyMessage : Incoming Json where
  messageId := 0
  subject := "cmd.platform.schedule.registration_requested.v1"
  producer := "ratatoskr-github"
  payload := .object [("correlation_id",.string "nightly")]

/-- Its refusal cannot be audited, so the handler fails instead of answering. -/
theorem bare_correlation_is_an_error : ¬∃ answer later,
    exec constraints (apply minutelyLibrary strictContract ["ratatoskr-github"] nightlyMessage ⟨minutelySchedule,50⟩ 0)
      (Scheduler.initial oneUser : Scheduler Unit).rows = .done answer later := by
  rintro ⟨answer,later,ended⟩
  have applies := (exec_apply_done _ _ _ _ _ _ _ _ _).mp ended
  cases applies with
  | applied input nextDueAt scheduleId middle later accepts => cases accepts.read
  | rejected later refused audits =>
    have checks := audits.checks
    revert checks
    decide

/-- The registration of every minute is answered. -/
theorem minutely_is_answered : ∃ answer later,
    exec constraints (apply minutelyLibrary minutelyContract ["ratatoskr-github"] (minutelyMessage true)
      ⟨minutelySchedule,50⟩ 0) (Scheduler.initial oneUser : Scheduler Unit).rows = .done answer later := by
  refine (apply_answers_iff ⟨oneUser,[],rfl⟩ _ _ _ rfl rfl).mpr ⟨by decide,fun input nextDueAt accepts => ?_⟩
  obtain rfl := Option.some.inj (accepts.read.symm.trans (rfl : Registration.read minutelyContract (minutelyMessage true) = _))
  exact ⟨by decide,by decide,by decide,by decide,by decide,fun id schedule entry => by cases entry⟩

end Nightly

end Ratatoskr.Scheduling
