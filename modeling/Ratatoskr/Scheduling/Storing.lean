import Ratatoskr.Scheduling.Registration

/-! When the transaction of a registration commits, and the rows it leaves. -/
namespace Ratatoskr.Scheduling

open Transaction Eventing

section Upsert

variable (input : Registration) (nextDueAt : Timestamp) (scheduleId : ScheduleId) (now : Timestamp)

/-- The schedule a registration went to, and the rows it left. -/
inductive Stores (rows : Rows) : ScheduleId → Rows → Prop where
  | created (free : rows (.inl (.scheduleName input.serviceName input.name)) = none)
      (fresh : rows (.inl (.schedule scheduleId)) = none) (checks : (input.row nextDueAt now).checks = true)
      (storable : (input.row nextDueAt now).storable = true) :
      Stores rows scheduleId (Function.update (Function.update rows (.inl (.scheduleName input.serviceName input.name))
        (some scheduleId)) (.inl (.schedule scheduleId)) (some (input.row nextDueAt now)))
  | edited (stored : ScheduleId) (row : Schedule)
      (taken : rows (.inl (.scheduleName input.serviceName input.name)) = some stored)
      (found : rows (.inl (.schedule stored)) = some row) (checks : (row.edited input nextDueAt now).checks = true)
      (storable : (row.edited input nextDueAt now).storable = true) :
      Stores rows stored (Function.update rows (.inl (.schedule stored)) (some (row.edited input nextDueAt now)))
  | missed (stored : ScheduleId) (taken : rows (.inl (.scheduleName input.serviceName input.name)) = some stored)
      (absent : rows (.inl (.schedule stored)) = none) : Stores rows stored rows

/-- The name of the schedule stands for it afterwards. -/
theorem Stores.named {input : Registration} {nextDueAt : Timestamp} {scheduleId id : ScheduleId} {now : Timestamp}
    {rows later : Rows} (stores : Stores input nextDueAt scheduleId now rows id later) :
    later (.inl (.scheduleName input.serviceName input.name)) = some id := by
  cases stores with
  | created => exact (Function.update_of_ne (fun same => by cases same) _ _).trans (Function.update_self _ _ _)
  | edited stored row taken => exact (Function.update_of_ne (fun same => by cases same) _ _).trans taken
  | missed stored taken => exact taken

theorem exec_upsert_done (id : ScheduleId) (rows later : Rows) :
    exec constraints (upsert input nextDueAt scheduleId now) rows = .done id later ↔
      Stores input nextDueAt scheduleId now rows id later := by
  simp only [upsert,Tx.bind_eq,exec_bind_done,exec_insertUnlessConflict_done]
  constructor
  · rintro ⟨fresh,middle,⟨_,⟨rfl,free,rfl⟩ | ⟨rfl,taken,rfl⟩⟩,ended⟩
    · simp only [if_true,exec_bind_done,exec_insertNew_done] at ended
      obtain ⟨_,_,⟨checks,absent,rfl⟩,ended⟩ := ended
      obtain ⟨rfl,rfl⟩ := Outcome.done.inj ended
      rw [Function.update_of_ne (fun same => by cases same)] at absent
      obtain ⟨passes,storable⟩ := Bool.and_eq_true_iff.mp checks
      exact .created free absent passes storable
    · obtain ⟨stored,taken⟩ := Option.isSome_iff_exists.mp taken
      simp only [Bool.false_eq_true,if_false,exec_bind,exec_select,Outcome.done_bind,taken] at ended
      rw [← exec_bind,exec_bind_done] at ended
      obtain ⟨_,_,updated,ended⟩ := ended
      obtain ⟨rfl,rfl⟩ := Outcome.done.inj ended
      rcases (exec_updateWhere_any_done _ _ _ _ _ _).mp updated with ⟨row,found,checks,_,rfl⟩ | ⟨absent,_,rfl⟩
      · obtain ⟨passes,storable⟩ := Bool.and_eq_true_iff.mp checks
        exact .edited stored row taken found passes storable
      · exact .missed stored taken absent
  · intro stores
    cases stores with
    | created free fresh checks storable =>
      refine ⟨true,_,⟨rfl,.inl ⟨rfl,free,rfl⟩⟩,?_⟩
      simp only [if_true,exec_bind_done,exec_insertNew_done]
      refine ⟨(),_,⟨Bool.and_eq_true_iff.mpr ⟨checks,storable⟩,?_,rfl⟩,rfl⟩
      rw [Function.update_of_ne (fun same => by cases same)]
      exact fresh
    | edited stored row taken found checks storable =>
      refine ⟨false,_,⟨rfl,.inr ⟨rfl,taken ▸ rfl,rfl⟩⟩,?_⟩
      simp only [Bool.false_eq_true,if_false,exec_bind,exec_select,Outcome.done_bind,taken]
      rw [← exec_bind,exec_bind_done]
      exact ⟨_,_,(exec_updateWhere_any_done _ _ _ _ _ _).mpr
        (.inl ⟨row,found,Bool.and_eq_true_iff.mpr ⟨checks,storable⟩,rfl,rfl⟩),rfl⟩
    | missed stored taken absent =>
      refine ⟨false,_,⟨rfl,.inr ⟨rfl,taken ▸ rfl,rfl⟩⟩,?_⟩
      simp only [Bool.false_eq_true,if_false,exec_bind,exec_select,Outcome.done_bind,taken]
      rw [← exec_bind,exec_bind_done]
      exact ⟨_,_,(exec_updateWhere_any_done _ _ _ _ _ _).mpr (.inr ⟨absent,rfl,rfl⟩),rfl⟩

end Upsert

/-- The audit trail takes the event under the drawn id. -/
structure Audits (auditEventId : Nat) (event : AuditEvent) (rows later : Rows) : Prop where
  checks : event.checks = true
  fresh : rows (.inr (.audit auditEventId)) = none
  later : later = Function.update rows (.inr (.audit auditEventId)) (some event)

theorem exec_audit_done (auditEventId : Nat) (event : AuditEvent) (value : Unit) (rows later : Rows) :
    exec constraints (audit auditEventId event) rows = .done value later ↔ Audits auditEventId event rows later := by
  simp only [audit,AuditEvent.record,Tx.widen_insertNew,exec_insertNew_done]
  exact ⟨fun ⟨checks,fresh,same⟩ => ⟨checks,fresh,same⟩,fun ⟨checks,fresh,same⟩ => ⟨checks,fresh,same⟩⟩

section Apply

variable (library : Library) (contract : RegistrationContract) (allowed : List String) (message : Incoming Json)
  (draws : RegistrationDraws) (now : Timestamp)

theorem exec_refuse_done (value : ScheduleRegistration) (rows later : Rows) :
    exec constraints (refuse message draws now) rows = .done value later ↔
      value = .rejected ∧ Audits draws.auditEventId (auditEvent none none .denied message now) rows later := by
  simp only [refuse,Tx.bind_eq,exec_bind_done,exec_audit_done]
  constructor
  · rintro ⟨_,_,audits,ended⟩
    obtain ⟨rfl,rfl⟩ := Outcome.done.inj ended
    exact ⟨rfl,audits⟩
  · rintro ⟨rfl,audits⟩
    exact ⟨(),_,audits,rfl⟩

/-- A registration that passes its checks, of an owner who is an active user. -/
structure Accepts (rows : Rows) (input : Registration) (nextDueAt : Timestamp) : Prop where
  read : Registration.read contract message = some input
  admitted : input.admitted library allowed message now = true
  next : nextAfter library.cron input.cronExpression now = some nextDueAt
  active : rows (.inl (.userStatus input.ownerUserId)) = some "active"

/-- What a registration command came to. -/
inductive Applies (rows : Rows) : ScheduleRegistration → Rows → Prop where
  | applied (input : Registration) (nextDueAt : Timestamp) (scheduleId : ScheduleId) (middle later : Rows)
      (accepts : Accepts library contract allowed message now rows input nextDueAt)
      (stores : Stores input nextDueAt draws.scheduleId now rows scheduleId middle)
      (audits : Audits draws.auditEventId (auditEvent (some input.ownerUserId) (some scheduleId) .allowed message now)
        middle later) : Applies rows .applied later
  | rejected (later : Rows)
      (refused : ∀ input nextDueAt, ¬Accepts library contract allowed message now rows input nextDueAt)
      (audits : Audits draws.auditEventId (auditEvent none none .denied message now) rows later) :
      Applies rows .rejected later

theorem exec_store_done (input : Registration) (nextDueAt : Timestamp) (value : ScheduleRegistration) (rows later : Rows) :
    exec constraints (store input nextDueAt message draws now) rows = .done value later ↔
      (rows (.inl (.userStatus input.ownerUserId)) = some "active" ∧ value = .applied ∧
        ∃ scheduleId middle, Stores input nextDueAt draws.scheduleId now rows scheduleId middle ∧
          Audits draws.auditEventId (auditEvent (some input.ownerUserId) (some scheduleId) .allowed message now) middle
            later) ∨
      rows (.inl (.userStatus input.ownerUserId)) ≠ some "active" ∧ value = .rejected ∧
        Audits draws.auditEventId (auditEvent none none .denied message now) rows later := by
  simp only [store,Tx.bind_eq,exec_bind,exec_select,Outcome.done_bind]
  by_cases active : rows (.inl (.userStatus input.ownerUserId)) = some "active"
  · rw [if_neg (not_not_intro active),exec_bind_done]
    simp only [active,true_and,ne_eq,not_true_eq_false,false_and,or_false,exec_upsert_done,exec_bind_done,exec_audit_done]
    constructor
    · rintro ⟨scheduleId,middle,stores,_,_,audits,ended⟩
      obtain ⟨rfl,rfl⟩ := Outcome.done.inj ended
      exact ⟨rfl,scheduleId,middle,stores,audits⟩
    · rintro ⟨rfl,scheduleId,middle,stores,audits⟩
      exact ⟨scheduleId,middle,stores,(),_,audits,rfl⟩
  · rw [if_pos active,exec_refuse_done]
    simp [active]

theorem exec_apply_done (value : ScheduleRegistration) (rows later : Rows) :
    exec constraints (apply library contract allowed message draws now) rows = .done value later ↔
      Applies library contract allowed message draws now rows value later := by
  have unaccepted (refused : ∀ input nextDueAt, ¬Accepts library contract allowed message now rows input nextDueAt) :
      value = .rejected ∧ Audits draws.auditEventId (auditEvent none none .denied message now) rows later ↔
        Applies library contract allowed message draws now rows value later := by
    constructor
    · rintro ⟨rfl,audits⟩
      exact .rejected later refused audits
    · intro applies
      cases applies with
      | applied input nextDueAt scheduleId middle later accepts => exact absurd accepts (refused input nextDueAt)
      | rejected later refused audits => exact ⟨rfl,audits⟩
  rw [apply]
  cases read : Registration.read contract message with
  | none =>
    rw [exec_refuse_done]
    exact unaccepted fun input nextDueAt accepts => by cases read.symm.trans accepts.read
  | some input =>
    by_cases admitted : input.admitted library allowed message now = true
    · obtain ⟨nextDueAt,next⟩ : ∃ nextDueAt, nextAfter library.cron input.cronExpression now = some nextDueAt := by
        simp only [Registration.admitted,Bool.and_eq_true] at admitted
        exact Option.isSome_iff_exists.mp admitted.1.1.2
      simp only [admitted,Bool.not_true,Bool.false_eq_true,if_false,next,exec_store_done]
      by_cases active : rows (.inl (.userStatus input.ownerUserId)) = some "active"
      · simp only [active,true_and,ne_eq,not_true_eq_false,false_and,or_false]
        constructor
        · rintro ⟨rfl,scheduleId,middle,stores,audits⟩
          exact .applied input nextDueAt scheduleId middle later ⟨read,admitted,next,active⟩ stores audits
        · intro applies
          cases applies with
          | applied own next' scheduleId middle later accepts stores audits =>
            obtain rfl := Option.some.inj (read.symm.trans accepts.read)
            obtain rfl := Option.some.inj (next.symm.trans accepts.next)
            exact ⟨rfl,scheduleId,middle,stores,audits⟩
          | rejected later refused => exact absurd ⟨read,admitted,next,active⟩ (refused input nextDueAt)
      · simp only [active,false_and,false_or,ne_eq,not_false_eq_true,true_and]
        refine unaccepted fun own next' accepts => active ?_
        obtain rfl := Option.some.inj (read.symm.trans accepts.read)
        exact accepts.active
    · simp only [admitted,Bool.not_false,if_true,exec_refuse_done]
      refine unaccepted fun own next' accepts => admitted ?_
      obtain rfl := Option.some.inj (read.symm.trans accepts.read)
      exact accepts.admitted

end Apply

end Ratatoskr.Scheduling
