import Mathlib.Data.Set.Basic
import Ratatoskr.Lib.Protocol
import Ratatoskr.Scheduling.Registration

/-! Scheduler passes, registrations and retention sweeps of any number of processes, interleaved
statement by statement: a due time of a schedule fires once, and all of it together. -/
set_option linter.unusedSectionVars false

namespace Ratatoskr.Scheduling

open Transaction Eventing

/-- One transaction of the scheduler's tables. A pass is a `handle` for each schedule it read as due. -/
inductive Job where
  | handle (scheduleId : ScheduleId) (draws : Draws) (now : Timestamp)
  | register (message : Incoming Json) (draws : RegistrationDraws) (now : Timestamp)
  | collect (visited : List MessageId) (before : Timestamp)

inductive Report where
  | handled (handled : Handled)
  | registered (registration : ScheduleRegistration)
  | collected (removed : Nat)

section Protocol

variable (library : Library) (contract : RegistrationContract) (allowed : List String)

def Job.program : Job → Body Report
  | handle scheduleId draws now => do return .handled (← Scheduling.handle library scheduleId draws now)
  | register message draws now => do return .registered (← apply library contract allowed message draws now)
  | collect visited before => do return .collected (← collectOccurrencesBefore before visited)

/-- The identifier of the occurrence of a pair. -/
def pairId (scheduleId : ScheduleId) (dueAt : Int) : MessageId := occurrenceId library scheduleId (fromOffset dueAt)

/-- What the pair is the idempotency key of its operation as. -/
def pairKey (scheduleId : ScheduleId) (dueAt : Int) : String := library.uuidText (pairId library scheduleId dueAt)

/-- The rows one firing may write. -/
def Touches (scheduleId : ScheduleId) (id : MessageId) (operationId : OperationId) : Key → Prop
  | .inl (.schedule other) => other = scheduleId
  | .inl (.occurrence other) => other = id
  | .inl (.occurrenceDue _ _) => True
  | .inr (.operation other) => other = operationId
  | .inr (.operationKey _ _ _) => True
  | .inr (.outbox other) => other = id
  | _ => False

/-- The operation of a firing is written, under an id nobody has used, and no row is that is not the
firing's own. -/
structure Opened (scheduleId : ScheduleId) (id : MessageId) (operationId : OperationId) (drafts : Drafts Row)
    (rows : Rows) : Prop where
  operation : ∃ record, drafts (.inr (.operation operationId)) = some (.written (some record)) ∧
    record.operation.idempotencyKey = some (library.uuidText id)
  unused : rows (.inr (.operation operationId)) = none
  only : ∀ key, (drafts key).isSome → Touches scheduleId id operationId key

/-- A firing as it commits: operation, occurrence and command together. -/
structure Fires (scheduleId : ScheduleId) (draws : Draws) (now : Timestamp) (publication : Publication)
    (drafts : Drafts Row) (rows : Rows) : Prop extends
    Opened library scheduleId (pairId library scheduleId publication.dueAt) draws.operationId drafts rows where
  schedule : publication.scheduleId = scheduleId
  operationId : publication.operationId = draws.operationId
  due : publication.dueAt ≤ toOffset now
  occurrence : ∃ drift, drafts (.inl (.occurrence (pairId library scheduleId publication.dueAt))) =
    some (.written (some ⟨scheduleId,publication.dueAt,toOffset now,drift,draws.operationId⟩))
  fresh : rows (.inl (.occurrence (pairId library scheduleId publication.dueAt))) = none
  command : (∃ row, drafts (.inr (.outbox (pairId library scheduleId publication.dueAt))) = some (.written (some row)) ∧
      row.operationId = some draws.operationId) ∨
    drafts (.inr (.outbox (pairId library scheduleId publication.dueAt))) = none ∧
      (rows (.inr (.outbox (pairId library scheduleId publication.dueAt)))).isSome

/-- A registration concerns its schedule, the status of its owner and the audit trail. -/
def Registers : Key → Prop
  | .inl (.userStatus _) => True
  | .inl (.schedule _) => True
  | .inl (.scheduleName _ _) => True
  | .inr (.audit _) => True
  | _ => False

/-- A sweep concerns occurrences. -/
def Sweeps : Key → Prop
  | .inl (.occurrence _) => True
  | .inl (.occurrenceDue _ _) => True
  | _ => False

def Job.Commits (report : Report) (drafts : Drafts Row) (rows : Rows) : Job → Prop
  | handle scheduleId draws now => ∃ handled, report = .handled handled ∧
      match handled.published with
      | none => ∀ key, (drafts key).isSome → key = .inl (.schedule scheduleId)
      | some publication => Fires library scheduleId draws now publication drafts rows
  | register _ _ _ => (∃ registration, report = .registered registration) ∧ ∀ key, (drafts key).isSome → Registers key
  | collect _ before => (∃ removed, report = .collected removed) ∧ (∀ key, (drafts key).isSome → Sweeps key) ∧
      ∀ id, (drafts (.inl (.occurrence id))).isSome →
        drafts (.inl (.occurrence id)) = some (.written none) ∧
          ∃ row, rows (.inl (.occurrence id)) = some row ∧ row.publishedAt < toOffset before

/-- Every stored occurrence carries the identifier of its pair, and was not published before it was due. -/
def Named (rows : Rows) : Prop := ∀ id row, rows (.inl (.occurrence id)) = some row →
  id = pairId library row.scheduleId row.dueAt ∧ row.dueAt ≤ row.publishedAt

/-- Commands stay in the outbox. -/
def Standing (rows later : Rows) : Prop := ∀ id, (rows (.inr (.outbox id))).isSome → (later (.inr (.outbox id))).isSome

/-- An occurrence that is there after a commit was there before, or is the one that fired. -/
theorem occurrence_origin (job : Job) (report : Report) (drafts : Drafts Row) (rows : Rows)
    (commits : job.Commits library report drafts rows) (id : MessageId) (row : Occurrence)
    (stored : overlay drafts rows (.inl (.occurrence id)) = some row) :
    rows (.inl (.occurrence id)) = some row ∨
      ∃ scheduleId draws now publication, job = .handle scheduleId draws now ∧
        Fires library scheduleId draws now publication drafts rows ∧
        id = pairId library scheduleId publication.dueAt ∧ row.scheduleId = scheduleId ∧
        row.dueAt = publication.dueAt ∧ row.publishedAt = toOffset now ∧ row.operationId = draws.operationId ∧
        ∃ handled, report = .handled handled ∧ handled.published = some publication := by
  cases held : drafts (.inl (.occurrence id)) with
  | none => exact Or.inl (by simpa [overlay,held] using stored)
  | some draft =>
    have mine : (drafts (.inl (.occurrence id))).isSome := by simp [held]
    cases job with
    | handle scheduleId draws now =>
      obtain ⟨handled,same,rest⟩ := commits
      cases published : handled.published with
      | none =>
        rw [published] at rest
        cases rest _ mine
      | some publication =>
        rw [published] at rest
        have fires : Fires library scheduleId draws now publication drafts rows := rest
        obtain rfl : id = pairId library scheduleId publication.dueAt := fires.only _ mine
        obtain ⟨drift,written⟩ := fires.occurrence
        simp only [overlay,written,Option.some.injEq] at stored
        subst stored
        exact Or.inr ⟨scheduleId,draws,now,publication,rfl,fires,rfl,rfl,rfl,rfl,rfl,handled,same,published⟩
    | register => exact (commits.2 _ mine).elim
    | collect =>
      obtain ⟨removed,_⟩ := commits.2.2 id mine
      simp [overlay,removed] at stored

theorem commits_named (job : Job) (report : Report) (drafts : Drafts Row) (rows : Rows) (named : Named library rows)
    (commits : job.Commits library report drafts rows) : Named library (overlay drafts rows) := by
  intro id row stored
  rcases occurrence_origin library job report drafts rows commits id row stored with
    old | ⟨scheduleId,draws,now,publication,_,fires,same,schedule,due,published,_⟩
  · exact named id row old
  · subst schedule
    rw [due,published]
    exact ⟨same,fires.due⟩

/-- No commit takes a command out of the outbox. -/
theorem commits_standing (job : Job) (report : Report) (drafts : Drafts Row) (rows : Rows)
    (commits : job.Commits library report drafts rows) : Standing rows (overlay drafts rows) := by
  intro id stored
  cases held : drafts (.inr (.outbox id)) with
  | none => simpa [overlay,held] using stored
  | some draft =>
    have mine : (drafts (.inr (.outbox id))).isSome := by simp [held]
    cases job with
    | handle scheduleId draws now =>
      obtain ⟨handled,_,rest⟩ := commits
      cases published : handled.published with
      | none =>
        rw [published] at rest
        cases rest _ mine
      | some publication =>
        rw [published] at rest
        have fires : Fires library scheduleId draws now publication drafts rows := rest
        obtain rfl : id = pairId library scheduleId publication.dueAt := fires.only _ mine
        rcases fires.command with ⟨command,written,_⟩ | ⟨free,_⟩
        · simp [overlay,written]
        · rw [free] at held
          cases held
    | register => exact (commits.2 _ mine).elim
    | collect => exact (commits.2.1 _ mine).elim

/-- What jobs may count on and promise while they run. -/
def firingProtocol {τ : Type} (job : τ → Job) : Protocol Row (Option SchedulingError) Report τ where
  Invariant := Named library
  Rely := Standing
  Commits t report drafts rows := (job t).Commits library report drafts rows
  Abandons _ _ _ := True
  Refuses _ _ := True
  rely_refl _ _ stored := stored
  rely_trans _ _ _ first second id stored := second id (first id stored)
  commit_invariant t report drafts rows named commits := commits_named library (job t) report drafts rows named commits
  commit_rely t report drafts rows _ commits := commits_standing library (job t) report drafts rows commits
  abandon_stable _ _ _ _ _ _ := trivial

end Protocol

section Safe

variable {τ : Type} [DecidableEq τ] {library : Library} {contract : RegistrationContract} {allowed : List String}
  {job : τ → Job} {t : τ} {scheduleId : ScheduleId} {schedule : Schedule} {draws : Draws} {now : Timestamp}
  {drafts : Drafts Row} {s s' : Rows} {id : MessageId}

theorem Opened.env (opened : Opened library scheduleId id draws.operationId drafts s)
    (env : (firingProtocol library job).Env drafts s s') : Opened library scheduleId id draws.operationId drafts s' := by
  refine ⟨opened.operation,?_,opened.only⟩
  obtain ⟨record,written,_⟩ := opened.operation
  exact (env.2.2 _ (by simp [written])).trans opened.unused

theorem Opened.put (opened : Opened library scheduleId id draws.operationId drafts s) (key : Key) (row : Option (Row key))
    (own : Touches scheduleId id draws.operationId key) (apart : key ≠ .inr (.operation draws.operationId)) :
    Opened library scheduleId id draws.operationId (drafts.put key row) s := by
  obtain ⟨record,written,keyed⟩ := opened.operation
  refine ⟨⟨record,?_,keyed⟩,opened.unused,fun other held => ?_⟩
  · rw [put_of_ne _ _ _ _ apart.symm,written]
  · rcases (put_isSome _ _ _ _).mp held with rfl | before
    · exact own
    · exact opened.only other before

/-- Accepting the operation of an occurrence opens its firing. -/
theorem open_safe {γ : Type} {post : γ → Drafts Row → Rows → Prop} {owner : UserId} {kind : String}
    {reporter : Option String} {f : Except Operations.OperationError Operations.Operation → Body γ}
    (holds : ∀ key, (drafts key).isSome → key = .inl (.schedule scheduleId))
    (rejected : ∀ error, (firingProtocol library job).Safe constraints t post (f (.error error)) drafts s)
    (accepted : ∀ operation later s', (firingProtocol library job).Invariant s' →
      Opened library scheduleId id draws.operationId later s' →
      (∀ key, (later key).isSome → key = .inl (.schedule scheduleId) ∨ ∃ table, key = .inr table) →
      (∀ other, later (.inr (.outbox other)) = none) →
      (firingProtocol library job).Safe constraints t post (f (.ok operation)) later s') :
    (firingProtocol library job).Safe constraints t post
      (((Operations.accept draws.operationId owner kind draws.correlation.val (some (library.uuidText id)) reporter
        now).widen (μ := SchedulingRow) fun error : SchedulingError => some error).bind f) drafts s := by
  simp only [Operations.accept]
  split
  · exact rejected _
  · simp only [Tx.bind_eq,Tx.widen_bind,Tx.widen_insertNew,Tx.bind_assoc,Tx.pure_eq,Tx.widen_done]
    refine Protocol.Safe.insertNew (fun _ => trivial) fun s₁ env absent => ?_
    refine Protocol.Safe.insertNew (fun _ => trivial) fun s₂ later _ => ?_
    have unheld : drafts (.inr (.operation draws.operationId)) = none :=
      Option.not_isSome_iff_eq_none.mp fun held => by cases holds _ held
    have unused : s₁ (.inr (.operation draws.operationId)) = none := by simpa [overlay,unheld] using absent
    refine accepted _ _ s₂ later.1 ⟨⟨Operations.newRecord (Operations.newOperation owner kind draws.correlation.val
      (some (library.uuidText id)) reporter now),?_,rfl⟩,?_,fun key held => ?_⟩ (fun key held => ?_) fun other => ?_
    · rw [put_of_ne _ _ _ _ fun same => by cases same]
      exact put_self _ _ _
    · exact (later.2.2 _ ((put_isSome _ _ _ _).mpr (Or.inl rfl))).trans unused
    · rcases (put_isSome _ _ _ _).mp held with rfl | before
      · trivial
      · rcases (put_isSome _ _ _ _).mp before with rfl | first
        · rfl
        · exact holds key first ▸ rfl
    · rcases (put_isSome _ _ _ _).mp held with rfl | before
      · exact Or.inr ⟨_,rfl⟩
      · rcases (put_isSome _ _ _ _).mp before with rfl | first
        · exact Or.inr ⟨_,rfl⟩
        · exact Or.inl (holds key first)
    · rw [put_of_ne _ _ _ _ (fun same => by cases same),put_of_ne _ _ _ _ (fun same => by cases same)]
      exact Option.not_isSome_iff_eq_none.mp fun held => by cases holds _ held

/-- The occurrence of a firing is written next to its operation. -/
structure Recorded (library : Library) (scheduleId : ScheduleId) (dueAt : Int) (operationId : OperationId)
    (now : Timestamp) (drafts : Drafts Row) (rows : Rows) : Prop extends
    Opened library scheduleId (pairId library scheduleId dueAt) operationId drafts rows where
  occurrence : ∃ drift, drafts (.inl (.occurrence (pairId library scheduleId dueAt))) =
    some (.written (some ⟨scheduleId,dueAt,toOffset now,drift,operationId⟩))
  fresh : rows (.inl (.occurrence (pairId library scheduleId dueAt))) = none

theorem Recorded.env {dueAt : Int} (recorded : Recorded library scheduleId dueAt draws.operationId now drafts s)
    (env : (firingProtocol library job).Env drafts s s') :
    Recorded library scheduleId dueAt draws.operationId now drafts s' := by
  refine ⟨recorded.toOpened.env env,recorded.occurrence,?_⟩
  obtain ⟨drift,written⟩ := recorded.occurrence
  exact (env.2.2 _ (by simp [written])).trans recorded.fresh

theorem Recorded.put {dueAt : Int} (recorded : Recorded library scheduleId dueAt draws.operationId now drafts s) (key : Key)
    (row : Option (Row key)) (own : Touches scheduleId (pairId library scheduleId dueAt) draws.operationId key)
    (apart : key ≠ .inr (.operation draws.operationId))
    (apart' : key ≠ .inl (.occurrence (pairId library scheduleId dueAt))) :
    Recorded library scheduleId dueAt draws.operationId now (drafts.put key row) s := by
  obtain ⟨drift,written⟩ := recorded.occurrence
  refine ⟨recorded.toOpened.put key row own apart,⟨drift,?_⟩,recorded.fresh⟩
  rw [put_of_ne _ _ _ _ apart'.symm,written]

theorem Fires.recorded {publication : Publication} (fires : Fires library scheduleId draws now publication drafts s) :
    Recorded library scheduleId publication.dueAt draws.operationId now drafts s :=
  ⟨fires.toOpened,fires.occurrence,fires.fresh⟩

theorem Fires.env {publication : Publication} (fires : Fires library scheduleId draws now publication drafts s)
    (env : (firingProtocol library job).Env drafts s s') : Fires library scheduleId draws now publication drafts s' := by
  have kept := fires.recorded.env env
  refine ⟨kept.toOpened,fires.schedule,fires.operationId,fires.due,kept.occurrence,kept.fresh,?_⟩
  exact fires.command.imp_right fun ⟨free,stored⟩ => ⟨free,env.2.1 _ stored⟩

theorem Fires.reschedule {publication : Publication} (fires : Fires library scheduleId draws now publication drafts s)
    (row : Option Schedule) :
    Fires library scheduleId draws now publication (drafts.put (.inl (.schedule scheduleId)) row) s := by
  have kept := fires.recorded.put (.inl (.schedule scheduleId)) row rfl (fun same => by cases same)
    fun same => by cases same
  refine ⟨kept.toOpened,fires.schedule,fires.operationId,fires.due,kept.occurrence,kept.fresh,?_⟩
  rw [put_of_ne _ _ _ _ fun same => by cases same]
  exact fires.command

/-- What a handled schedule has done before it moves forward. -/
def Handles (library : Library) (scheduleId : ScheduleId) (draws : Draws) (now : Timestamp) (published : Option Publication)
    (drafts : Drafts Row) (rows : Rows) : Prop :=
  match published with
  | none => ∀ key, (drafts key).isSome → key = .inl (.schedule scheduleId)
  | some publication => Fires library scheduleId draws now publication drafts rows

theorem Handles.env {published : Option Publication} (handles : Handles library scheduleId draws now published drafts s)
    (env : (firingProtocol library job).Env drafts s s') : Handles library scheduleId draws now published drafts s' := by
  cases published with
  | none => exact handles
  | some publication => exact Fires.env handles env

theorem Handles.reschedule {published : Option Publication} (handles : Handles library scheduleId draws now published drafts s)
    (row : Option Schedule) :
    Handles library scheduleId draws now published (drafts.put (.inl (.schedule scheduleId)) row) s := by
  cases published with
  | none => exact fun key held => ((put_isSome _ _ _ _).mp held).elim id (handles key)
  | some publication => exact Fires.reschedule handles row

/-- What is left after the publication keeps to the protocol. -/
theorem advance_safe (which : job t = .handle scheduleId draws now) (published : Option Publication)
    (handles : Handles library scheduleId draws now published drafts s) :
    (firingProtocol library job).Safe constraints t ((firingProtocol library job).Commits t)
      ((advance library scheduleId schedule now published).bind fun handled => .done (.handled handled)) drafts s := by
  have ended (drafts : Drafts Row) (s : Rows) (handles : Handles library scheduleId draws now published drafts s) :
      (firingProtocol library job).Safe constraints t ((firingProtocol library job).Commits t)
        (.done (.handled ⟨schedule.name,published,driftSeconds schedule now⟩)) drafts s := by
    intro s' env
    simp only [firingProtocol,which]
    have kept := handles.env env
    refine ⟨_,rfl,?_⟩
    cases published with
    | none => exact kept
    | some publication => exact kept
  simp only [advance]
  split
  · exact fun _ _ => trivial
  · simp only [reschedule,Tx.bind_eq,Tx.bind_assoc]
    refine Protocol.Safe.updateWhere (fun _ => trivial) (fun s' env _ => ?_) fun s' row env _ _ => ?_
    · exact ended drafts s' (handles.env env)
    · exact ended _ s' ((handles.env env).reschedule _)

/-- The command of a recorded occurrence is enqueued, or is there already. -/
theorem enqueue_safe (which : job t = .handle scheduleId draws now) (subject : String)
    (due : schedule.nextDueAt ≤ toOffset now)
    (recorded : Recorded library scheduleId schedule.nextDueAt draws.operationId now drafts s)
    (free : ∀ other, drafts (.inr (.outbox other)) = none) :
    (firingProtocol library job).Safe constraints t ((firingProtocol library job).Commits t)
      (((enqueueOccurrence library scheduleId schedule (pairId library scheduleId schedule.nextDueAt) subject draws now).bind
        fun publication => advance library scheduleId schedule now (some publication)).bind
          fun handled => .done (.handled handled)) drafts s := by
  rw [Tx.bind_assoc]
  simp only [enqueueOccurrence]
  split
  · exact fun _ _ => trivial
  · rename_i message built
    simp only [Outbox.enqueue,Tx.widen_insertUnlessConflict,Tx.bind_eq,Tx.bind_assoc]
    refine Protocol.Safe.insertUnlessConflict trivial (fun s' env _ => ?_) fun s' stored env found => ?_
    · have kept := (recorded.env env).put (.inr (.outbox (pairId library scheduleId schedule.nextDueAt)))
        (some (Outbox.enqueuedRow draws.outboxId (pairId library scheduleId schedule.nextDueAt) subject (library.wire message)
          (some draws.operationId) now)) rfl (fun same => by cases same) fun same => by cases same
      exact advance_safe which _ ⟨kept.toOpened,rfl,rfl,due,kept.occurrence,kept.fresh,Or.inl ⟨_,put_self _ _ _,rfl⟩⟩
    · have kept := recorded.env env
      refine advance_safe which _ ⟨kept.toOpened,rfl,rfl,due,kept.occurrence,kept.fresh,Or.inr ⟨free _,?_⟩⟩
      simp only [overlay,free] at found
      simp [found]

theorem publish_safe (which : job t = .handle scheduleId draws now) (drift : Int) (due : schedule.nextDueAt ≤ toOffset now)
    (holds : ∀ key, (drafts key).isSome → key = .inl (.schedule scheduleId)) :
    (firingProtocol library job).Safe constraints t ((firingProtocol library job).Commits t)
      (((publish library scheduleId schedule (pairId library scheduleId schedule.nextDueAt) drift draws now).bind
        fun publication => advance library scheduleId schedule now (some publication)).bind
          fun handled => .done (.handled handled)) drafts s := by
  rw [Tx.bind_assoc]
  simp only [publish]
  split
  · exact fun _ _ => trivial
  · rename_i subject made
    simp only [Tx.bind_eq,Tx.bind_assoc]
    refine open_safe holds (fun _ _ _ => trivial) fun operation later s₁ _ opened keys free => ?_
    simp only [insertOccurrence,Tx.bind_eq,Tx.bind_assoc]
    refine Protocol.Safe.insertNew (fun _ => trivial) fun s₂ env absent => ?_
    refine Protocol.Safe.insertNew (fun _ => trivial) fun s₃ env' _ => ?_
    have unheld : later (.inl (.occurrence (pairId library scheduleId schedule.nextDueAt))) = none := by
      refine Option.not_isSome_iff_eq_none.mp fun held => ?_
      rcases keys _ held with same | ⟨table,same⟩
      · cases same
      · cases same
    have fresh : s₂ (.inl (.occurrence (pairId library scheduleId schedule.nextDueAt))) = none := by
      simpa [overlay,unheld] using absent
    have recorded : Recorded library scheduleId schedule.nextDueAt draws.operationId now
        (later.put (.inl (.occurrence (pairId library scheduleId schedule.nextDueAt)))
          (some (occurrenceRow scheduleId schedule drift draws.operationId now))) s₂ :=
      ⟨(opened.env env).put _ _ rfl (fun same => by cases same),⟨drift,put_self _ _ _⟩,fresh⟩
    have both := (recorded.env env').put (.inl (.occurrenceDue scheduleId schedule.nextDueAt))
      (some (pairId library scheduleId schedule.nextDueAt)) trivial (fun same => by cases same) fun same => by cases same
    have enqueued := enqueue_safe which subject due both fun other => by
      rw [put_of_ne _ _ _ _ (fun same => by cases same),put_of_ne _ _ _ _ (fun same => by cases same)]
      exact free other
    rwa [Tx.bind_assoc] at enqueued

theorem handle_safe (which : job t = .handle scheduleId draws now) (s : Rows) :
    (firingProtocol library job).Safe constraints t ((firingProtocol library job).Commits t)
      ((handle library scheduleId draws now).bind fun handled => .done (.handled handled)) Drafts.none s := by
  simp only [handle,claim,Tx.bind_eq,Tx.bind_assoc]
  refine Protocol.Safe.selectForUpdate (fun _ _ _ _ _ => trivial) fun s₁ row env found matched => ?_
  have due : row.nextDueAt ≤ toOffset now := by simpa using (Bool.and_eq_true_iff.mp matched).2
  have holds : ∀ key, ((Drafts.none.lock (.inl (.schedule scheduleId)) : Drafts Row) key).isSome →
      key = .inl (.schedule scheduleId) := by
    intro key held
    exact ((lock_isSome _ _ _).mp held).resolve_right (by simp [Drafts.none])
  simp only [publishOnce,recorded,Tx.bind_eq,Tx.bind_assoc]
  intro s₂ env'
  change Protocol.Safe _ _ _ _ (Tx.bind (if _ then _ else _) _) _ _
  split
  · exact advance_safe which none holds
  · have fired : (firingProtocol library job).Safe constraints t ((firingProtocol library job).Commits t) _ _ s₂ :=
      publish_safe which (driftSeconds row now) due holds
    rw [Tx.bind_assoc] at fired
    rw [Tx.bind_assoc]
    exact fired

theorem within_audit (auditEventId : Nat) (event : AuditEvent) : Within Registers (audit auditEventId event) := by
  simp only [audit,AuditEvent.record,Tx.widen_insertNew]
  exact within_insertNew Registers _ (by trivial) _

theorem within_refuse (message : Incoming Json) (draws : RegistrationDraws) (now : Timestamp) :
    Within Registers (refuse message draws now) := within_bind _ _ _ (within_audit _ _) fun _ => trivial

theorem within_upsert (input : Registration) (nextDueAt : Timestamp) (scheduleId : ScheduleId) (now : Timestamp) :
    Within Registers (upsert input nextDueAt scheduleId now) := by
  refine within_bind _ _ _ (within_insertUnlessConflict Registers _ (by trivial) _) fun fresh => ?_
  split
  · exact within_bind _ _ _ (within_insertNew Registers _ (by trivial) _) fun _ => trivial
  · refine within_bind _ _ _ (within_select Registers _ (by trivial)) fun found => ?_
    cases found with
    | none => exact trivial
    | some stored => exact within_bind _ _ _ (within_updateWhere Registers _ (by trivial) _ _) fun _ => trivial

theorem within_store (input : Registration) (nextDueAt : Timestamp) (message : Incoming Json) (draws : RegistrationDraws)
    (now : Timestamp) : Within Registers (store input nextDueAt message draws now) := by
  refine within_bind _ _ _ (within_select Registers _ (by trivial)) fun status => ?_
  split
  · exact within_refuse message draws now
  · exact within_bind _ _ _ (within_upsert _ _ _ _) fun _ => within_bind _ _ _ (within_audit _ _) fun _ => trivial

theorem within_apply (message : Incoming Json) (draws : RegistrationDraws) (now : Timestamp) :
    Within Registers (apply library contract allowed message draws now) := by
  simp only [apply]
  split
  · exact within_refuse message draws now
  · split
    · exact within_refuse message draws now
    · split
      · trivial
      · exact within_store _ _ message draws now

theorem register_safe {message : Incoming Json} {draws : RegistrationDraws} (which : job t = .register message draws now)
    (s : Rows) (named : Named library s) :
    (firingProtocol library job).Safe constraints t ((firingProtocol library job).Commits t)
      ((apply library contract allowed message draws now).bind fun registration => .done (.registered registration))
      Drafts.none s := by
  refine Protocol.Safe.bind named (Protocol.Safe.confined (within_apply message draws now) (leaves_any _) ?_
    (fun _ _ _ _ => trivial) fun _ _ => trivial)
  intro registration later s' others _ env s'' env'
  simp only [firingProtocol,which]
  refine ⟨⟨registration,rfl⟩,fun key held => ?_⟩
  by_cases own : Registers key
  · exact own
  · rw [others key own] at held
    simp [Drafts.none] at held

/-- What a sweep has done so far: occurrences that were published before the instant are gone. -/
def Swept (before : Timestamp) (drafts : Drafts Row) (rows : Rows) : Prop :=
  (∀ key, (drafts key).isSome → Sweeps key) ∧
    ∀ id, (drafts (.inl (.occurrence id))).isSome →
      drafts (.inl (.occurrence id)) = some (.written none) ∧
        ∃ row, rows (.inl (.occurrence id)) = some row ∧ row.publishedAt < toOffset before

theorem Swept.env {before : Timestamp} (swept : Swept before drafts s) (env : (firingProtocol library job).Env drafts s s') :
    Swept before drafts s' := by
  refine ⟨swept.1,fun id held => ?_⟩
  obtain ⟨gone,row,stored,late⟩ := swept.2 id held
  exact ⟨gone,row,(env.2.2 _ held).trans stored,late⟩

theorem collect_safe (before : Timestamp) (visited : List MessageId) {γ : Type} {post : γ → Drafts Row → Rows → Prop} (f : Nat → Body γ)
    (next : ∀ removed drafts s, Swept before drafts s → (firingProtocol library job).Safe constraints t post (f removed) drafts s)
    (swept : Swept before drafts s) :
    (firingProtocol library job).Safe constraints t post ((collectOccurrencesBefore before visited).bind f) drafts s := by
  induction visited generalizing drafts s f with
  | nil => exact next 0 drafts s swept
  | cons id visited ih =>
    simp only [collectOccurrencesBefore,collectOccurrence,Tx.bind_eq,Tx.bind_assoc]
    refine Protocol.Safe.selectForUpdate (fun s₁ env _ => ?_) fun s₁ row env found late => ?_
    · exact ih _ (fun removed drafts s done => next removed drafts s done) (swept.env env)
    have swept := swept.env env
    -- a row in sight has not been removed by this sweep, so it is the committed one
    have unheld : drafts (.inl (.occurrence id)) = none := by
      refine Option.not_isSome_iff_eq_none.mp fun held => ?_
      simp [overlay,(swept.2 id held).1] at found
    have stored : s₁ (.inl (.occurrence id)) = some row := by simpa [overlay,unheld] using found
    have own : ((drafts.lock (.inl (.occurrence id))) (.inl (.occurrence id))).isSome :=
      (lock_isSome _ _ _).mpr (Or.inl rfl)
    simp only [Tx.bind_assoc]
    refine Protocol.Safe.deleteWhere (fun s₂ env' missed => ?_) fun s₂ row' env' found' _ => ?_
    · rw [Protocol.Env.overlay_eq env' _ own,overlay_lock,found] at missed
      cases missed
    rw [lock_put]
    have removed : Swept before (drafts.put (.inl (.occurrence id)) none) s₂ := by
      have kept := swept.env (env'.weaken fun other held => (lock_isSome _ _ _).mpr (Or.inr held))
      refine ⟨fun key held => ?_,fun other held => ?_⟩
      · rcases (put_isSome _ _ _ _).mp held with rfl | earlier
        · trivial
        · exact kept.1 key earlier
      · by_cases same : other = id
        · subst same
          exact ⟨put_self _ _ _,row,(env'.2.2 _ own).trans stored,by simpa using late⟩
        · have apart : (Sum.inl (.occurrence other) : Key) ≠ .inl (.occurrence id) := fun equal =>
            same (SchedulingTable.occurrence.inj (Sum.inl.inj equal))
          rw [put_of_ne _ _ _ _ apart] at held ⊢
          exact kept.2 other held
    refine Protocol.Safe.deleteWhere (fun s₃ env'' _ => ?_) fun s₃ _ env'' _ _ => ?_
    · exact ih _ (fun count drafts s done => next _ drafts s done) (removed.env env'')
    · have kept := removed.env env''
      refine ih _ (fun count drafts s done => next _ drafts s done) ⟨fun key held => ?_,fun other held => ?_⟩
      · rcases (put_isSome _ _ _ _).mp held with rfl | earlier
        · trivial
        · exact kept.1 key earlier
      · rw [put_of_ne _ _ _ _ (fun same => by cases same)] at held ⊢
        exact kept.2 other held

variable (library contract allowed job)

/-- Every job keeps to the protocol. -/
theorem jobs_keep :
    (firingProtocol library job).Keeps constraints fun t => (job t).program library contract allowed := by
  intro t s named
  change Protocol.Safe _ _ _ _ ((job t).program library contract allowed) _ _
  cases which : job t with
  | handle scheduleId draws now => exact handle_safe which s
  | register message draws now => exact register_safe which s named
  | collect visited before =>
    refine collect_safe before visited _ (fun removed drafts s swept s' env => ?_)
      ⟨fun key held => by simp [Drafts.none] at held,fun id held => by simp [Drafts.none] at held⟩
    simp only [firingProtocol,which]
    exact ⟨⟨removed,rfl⟩,(swept.env env).1,(swept.env env).2⟩

end Safe

end Ratatoskr.Scheduling
