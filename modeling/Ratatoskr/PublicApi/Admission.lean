import Ratatoskr.Operations.Minting
import Ratatoskr.PublicApi.Intake

/-! Requests of the routes that use `admit`, and collections of expired reservations, interleaved
statement by statement: what becomes of the requests of one scope while its reservation lives. -/
set_option linter.unusedSectionVars false

namespace Ratatoskr.PublicApi

open Transaction Idempotency

/-- The rows a request may write. -/
def Intake.Owns (settings : Settings) (intake : Intake) : Table → Prop
  | .operation operationId => operationId = intake.operationId
  | .operationKey ownerUserId kind key => ownerUserId = intake.userId ∧ kind = intake.kind ∧ key = intake.key
  | .archiveAcceptance _ => False
  | .siteEdit operationId => operationId = intake.operationId
  | .outbox messageId => ∃ prepared, intake.prepare intake.operation = .ok (some prepared) ∧ messageId = prepared.commandId
  | .idempotency scope => scope = intake.scope settings
  | .audit auditEventId => auditEventId = intake.auditEventId

/-- The ledger row of an accepted request. -/
def Intake.ledgerRow (settings : Settings) (intake : Intake) : Record :=
  (reservedRow intake.recordId (intake.digest settings) intake.now settings.idempotencyTtl).completed
    (some intake.operationId) 202 intake.now

/-- The drafts of an accepted request: the operation, the completed reservation and the audit record
together, and no row that is not the request's own. -/
structure Intake.Wrote (settings : Settings) (intake : Intake) (drafts : Drafts TableRow) : Prop where
  operation : drafts (.operation intake.operationId) = some (.written (some (Operations.newRecord intake.operation)))
  ledger : drafts (.idempotency (intake.scope settings)) = some (.written (some (intake.ledgerRow settings)))
  audit : drafts (.audit intake.auditEventId) = some (.written (some intake.event))
  only : ∀ key, (drafts key).isSome → intake.Owns settings key

theorem ledgerRow_complete (settings : Settings) (intake : Intake) : (intake.ledgerRow settings).Complete := ⟨rfl,rfl,rfl⟩

inductive Party where
  | request (intake : Intake)
  | collector (visited : List Scope) (now : Timestamp)

namespace Party

def now : Party → Timestamp
  | request intake => intake.now
  | collector _ now => now

def program (settings : Settings) : Party → Tx TableRow Answer (Option OperationId)
  | request intake => do return some (← intake.admitOperation settings)
  | collector visited now => do
    collectExpired now visited
    return none

/-- Whether its statements concern the ledger row of a scope. -/
def Concerns (settings : Settings) (σ : Scope) : Party → Prop
  | request intake => intake.scope settings = σ
  | collector visited _ => σ ∈ visited

def Commits (settings : Settings) (σ : Scope) (value : Option OperationId) (drafts : Drafts TableRow) (rows : Db) :
    Party → Prop
  | request intake => value = some intake.operationId ∧ intake.Wrote settings drafts ∧
      (intake.scope settings = σ → rows (.idempotency σ) = none)
  | collector _ _ => value = none ∧ ∀ key, (drafts key).isSome → key ≠ .idempotency σ ∧
      ∃ scope, key = .idempotency scope ∧ drafts key = some (.written none)

def Abandons (settings : Settings) (σ : Scope) (answer : Answer) (rows : Db) : Party → Prop
  | request intake => intake.scope settings = σ →
    match answer with
    | .replayed operationId => ∃ row, rows (.idempotency σ) = some row ∧
        row.requestFingerprint = intake.digest settings ∧ row.operationId = some operationId
    | .refused .idempotencyConflict =>
      (∃ row, rows (.idempotency σ) = some row ∧ row.requestFingerprint ≠ intake.digest settings) ∨
        intake.prepare intake.operation = .error .idempotencyConflict
    | .refused _ => True
  | collector _ _ => True

end Party

variable {τ : Type} (settings : Settings) (party : τ → Party) (σ : Scope)

/-- No party that concerns the scope comes as late as this. -/
def Lasting (expiresAt : Int) : Prop := ∀ t, (party t).Concerns settings σ → toOffset (party t).now < expiresAt

/-- The reservation of the scope, the stored one as much as one that a request is about to take, is
still unexpired for everybody it concerns. -/
structure Unexpired (rows : Db) : Prop where
  stored : ∀ row, rows (.idempotency σ) = some row → Lasting settings party σ row.expiresAt
  reserved : ∀ t intake, party t = .request intake → intake.scope settings = σ →
    Lasting settings party σ (toOffset (intake.now + settings.idempotencyTtl))

/-- Committed reservations are complete, and the one of the scope has not expired for anybody. -/
structure Standing (rows : Db) : Prop where
  complete : ∀ scope row, rows (.idempotency scope) = some row → row.Complete
  lasting : ∀ row, rows (.idempotency σ) = some row → Lasting settings party σ row.expiresAt

theorem standing_commit (t : τ) (value : Option OperationId) (drafts : Drafts TableRow) (rows : Db)
    (unexpired : ∀ t intake, party t = .request intake → intake.scope settings = σ →
      Lasting settings party σ (toOffset (intake.now + settings.idempotencyTtl)))
    (standing : Standing settings party σ rows) (commits : (party t).Commits settings σ value drafts rows) :
    Standing settings party σ (overlay drafts rows) ∧
      ∀ row, rows (.idempotency σ) = some row → overlay drafts rows (.idempotency σ) = some row := by
  -- a ledger row of the new store is an old one, or the one this commit completed
  have origin (scope : Scope) (row : Record) (stored : overlay drafts rows (.idempotency scope) = some row) :
      rows (.idempotency scope) = some row ∨
        ∃ intake, party t = .request intake ∧ scope = intake.scope settings ∧ row = intake.ledgerRow settings := by
    rcases held : drafts (.idempotency scope) with _ | draft
    · refine Or.inl ?_
      simpa [overlay,held] using stored
    · cases which : party t with
      | request intake =>
        rw [which] at commits
        obtain ⟨_,wrote,_⟩ := commits
        have own : scope = intake.scope settings := wrote.only (.idempotency scope) (by simp [held])
        subst own
        simp only [overlay,wrote.ledger,Option.some.injEq] at stored
        exact Or.inr ⟨intake,rfl,rfl,stored.symm⟩
      | collector visited now =>
        rw [which] at commits
        obtain ⟨_,_,_,removed⟩ := commits.2 (.idempotency scope) (by simp [held])
        simp [overlay,removed] at stored
  refine ⟨⟨fun scope row stored => ?_,fun row stored => ?_⟩,fun row stored => ?_⟩
  · rcases origin scope row stored with old | ⟨intake,_,_,rfl⟩
    · exact standing.complete scope row old
    · exact ledgerRow_complete settings intake
  · rcases origin σ row stored with old | ⟨intake,which,own,rfl⟩
    · exact standing.lasting row old
    · exact unexpired t intake which own.symm
  · have free : drafts (.idempotency σ) = none := by
      cases which : party t with
      | request intake =>
        rw [which] at commits
        obtain ⟨_,wrote,absent⟩ := commits
        refine Option.not_isSome_iff_eq_none.mp fun held => ?_
        have own : σ = intake.scope settings := wrote.only _ held
        rw [absent own.symm] at stored
        cases stored
      | collector visited now =>
        rw [which] at commits
        exact Option.not_isSome_iff_eq_none.mp fun held => (commits.2 _ held).1 rfl
    simpa [overlay,free] using stored

/-- While the reservation of the scope is unexpired, its committed row stays. -/
def admissionProtocol (unexpired : ∀ t intake, party t = .request intake → intake.scope settings = σ →
      Lasting settings party σ (toOffset (intake.now + settings.idempotencyTtl))) :
    Protocol TableRow Answer (Option OperationId) τ where
  Invariant := Standing settings party σ
  Rely rows later := ∀ row, rows (.idempotency σ) = some row → later (.idempotency σ) = some row
  Commits t value drafts rows := (party t).Commits settings σ value drafts rows
  Abandons t answer rows := (party t).Abandons settings σ answer rows
  Refuses _ _ := True
  rely_refl _ _ stored := stored
  rely_trans _ _ _ first second row stored := second row (first row stored)
  commit_invariant t value drafts rows standing commits :=
    (standing_commit settings party σ t value drafts rows unexpired standing commits).1
  commit_rely t value drafts rows standing commits :=
    (standing_commit settings party σ t value drafts rows unexpired standing commits).2
  abandon_stable t answer rows later kept abandons := by
    cases which : party t with
    | collector => trivial
    | request intake =>
      rw [which] at abandons
      intro own
      have here := abandons own
      cases answer with
      | replayed operationId =>
        obtain ⟨row,stored,same⟩ := here
        exact ⟨row,kept row stored,same⟩
      | refused kind =>
        cases kind with
        | idempotencyConflict =>
          exact here.imp_left fun ⟨row,stored,different⟩ => ⟨row,kept row stored,different⟩
        | _ => trivial

section Safe

variable [DecidableEq τ] {settings : Settings} {party : τ → Party} {σ : Scope} {t : τ}
  {unexpired : ∀ t intake, party t = .request intake → intake.scope settings = σ →
    Lasting settings party σ (toOffset (intake.now + settings.idempotencyTtl))}
  {γ : Type} {post : γ → Drafts TableRow → Db → Prop}

/-- The reservation is taken, and nothing else is. -/
structure Taken (settings : Settings) (intake : Intake) (drafts : Drafts TableRow) : Prop where
  ledger : drafts (.idempotency (intake.scope settings)) =
    some (.written (some (reservedRow intake.recordId (intake.digest settings) intake.now settings.idempotencyTtl)))
  only : ∀ key, (drafts key).isSome → key = .idempotency (intake.scope settings)

/-- A reservation ends with a fresh row where the scope had none that lives, or with what a complete
live row says. -/
theorem reserve_safe (intake : Intake) (which : party t = .request intake)
    {f : Except PersistenceError Reservation → Tx TableRow Answer γ} {s : Db}
    (failed : ∀ drafts s', (admissionProtocol settings party σ unexpired).Safe schema t post (f (.error .query)) drafts s')
    (fresh : ∀ drafts s', Standing settings party σ s' → Taken settings intake drafts →
      (intake.scope settings = σ → s' (.idempotency σ) = none) →
      (admissionProtocol settings party σ unexpired).Safe schema t post (f (.ok (.fresh intake.recordId))) drafts s')
    (live : ∀ drafts s' row, s' (.idempotency (intake.scope settings)) = some row → row.Complete →
      (admissionProtocol settings party σ unexpired).Safe schema t post
        (f (.ok (row.found (intake.digest settings)))) drafts s') :
    (admissionProtocol settings party σ unexpired).Safe schema t post
      ((reserve (intake.scope settings) (intake.digest settings) intake.now settings.idempotencyTtl intake.recordId).bind f)
      Drafts.none s := by
  have unexpired_here (s' : Db) (row : Record) (standing : Standing settings party σ s') (own : intake.scope settings = σ)
      (stored : s' (.idempotency σ) = some row) : row.expired intake.now = false := by
    have late := standing.lasting row stored t (which ▸ own)
    rw [which] at late
    simpa [Record.expired,Party.now] using late
  simp only [reserve,Tx.bind_eq,Tx.bind_assoc]
  refine Protocol.Safe.deleteWhere (fun s' env _ => ?_) (fun s' row env stored lapsed => ?_)
  · refine Protocol.Safe.insertUnlessConflict trivial (fun s'' later absent => ?_) (fun s'' stored later found => ?_)
    · refine fresh _ s'' later.1 ⟨put_self _ _ _,fun key held => ?_⟩ fun own => own ▸ absent
      exact ((put_isSome _ _ _ _).mp held).resolve_right (by simp [Drafts.none])
    · refine Protocol.Safe.selectForUpdate (fun _ _ _ => failed _ _) (fun s₃ row last found _ => ?_)
      exact live _ s₃ row found (last.1.complete _ row found)
  · refine Protocol.Safe.insertUnlessConflict trivial (fun s'' later absent => ?_) (fun s'' stored later found => ?_)
    · refine fresh _ s'' later.1 ⟨put_self _ _ _,fun key held => ?_⟩ fun own => ?_
      · rcases (put_isSome _ _ _ _).mp held with same | before
        · exact same
        · exact ((put_isSome _ _ _ _).mp before).resolve_right (by simp [Drafts.none])
      · subst own
        exact absurd lapsed (by simp [unexpired_here s' row env.1 rfl stored])
    · simp [overlay] at found

/-- The reservation and the operation are written, and nothing that is not the request's. -/
structure Writing (settings : Settings) (σ : Scope) (intake : Intake) (drafts : Drafts TableRow) (s : Db) : Prop where
  ledger : drafts (.idempotency (intake.scope settings)) =
    some (.written (some (reservedRow intake.recordId (intake.digest settings) intake.now settings.idempotencyTtl)))
  operation : drafts (.operation intake.operationId) = some (.written (some (Operations.newRecord intake.operation)))
  only : ∀ key, (drafts key).isSome → intake.Owns settings key
  absent : intake.scope settings = σ → s (.idempotency σ) = none

theorem Writing.env {intake : Intake} {drafts : Drafts TableRow} {s s' : Db} (writing : Writing settings σ intake drafts s)
    (env : (admissionProtocol settings party σ unexpired).Env drafts s s') : Writing settings σ intake drafts s' := by
  refine ⟨writing.ledger,writing.operation,writing.only,fun own => ?_⟩
  subst own
  exact (env.2.2 _ (by simp [writing.ledger])).trans (writing.absent rfl)

theorem Writing.put {intake : Intake} {drafts : Drafts TableRow} {s : Db} (writing : Writing settings σ intake drafts s)
    (key : Table) (row : TableRow key) (own : intake.Owns settings key)
    (apart : key ≠ .idempotency (intake.scope settings)) (apart' : key ≠ .operation intake.operationId) :
    Writing settings σ intake (drafts.put key (some row)) s := by
  refine ⟨?_,?_,fun other held => ?_,writing.absent⟩
  · rw [put_of_ne _ _ _ _ apart.symm,writing.ledger]
  · rw [put_of_ne _ _ _ _ apart'.symm,writing.operation]
  · rcases (put_isSome _ _ _ _).mp held with rfl | before
    · exact own
    · exact writing.only other before

/-- The last two statements of an accepted request. -/
theorem finishing_safe (intake : Intake) (which : party t = .request intake) (drafts : Drafts TableRow) (s : Db)
    (writing : Writing settings σ intake drafts s) :
    (admissionProtocol settings party σ unexpired).Safe schema t
      ((admissionProtocol settings party σ unexpired).Commits t)
      ((complete (intake.scope settings) intake.recordId (some intake.operationId) 202 intake.now).bind fun _ =>
        (AuditEvent.record intake.auditEventId intake.event).bind fun _ => .done (some intake.operationId)) drafts s := by
  simp only [complete,Tx.bind_eq,Tx.bind_assoc]
  refine Protocol.Safe.updateWhere (fun _ => trivial) (fun s' _ missed => ?_) (fun s' row env found _ => ?_)
  · simp [overlay,writing.ledger,reservedRow] at missed
  · simp only [overlay,writing.ledger,Option.some.injEq] at found
    subst found
    refine Protocol.Safe.insertNew (fun _ => trivial) fun s'' later _ s₃ last => ?_
    have writing := (writing.env env)
    have apart : Table.audit intake.auditEventId ≠ .idempotency (intake.scope settings) := fun same => by cases same
    have apart' : Table.operation intake.operationId ≠ .idempotency (intake.scope settings) := fun same => by cases same
    have apart'' : Table.operation intake.operationId ≠ .audit intake.auditEventId := fun same => by cases same
    simp only [admissionProtocol,which]
    refine ⟨rfl,⟨?_,?_,put_self _ _ _,fun key held => ?_⟩,fun own => ?_⟩
    · rw [put_of_ne _ _ _ _ apart'',put_of_ne _ _ _ _ apart',writing.operation]
    · rw [put_of_ne _ _ _ _ apart.symm,put_self]
      rfl
    · rcases (put_isSome _ _ _ _).mp held with rfl | before
      · rfl
      · rcases (put_isSome _ _ _ _).mp before with rfl | earlier
        · rfl
        · exact writing.only key earlier
    · subst own
      have kept := (later.trans _ (last.weaken (put_isSome_of _ _ _))).2.2 _
        ((put_isSome _ _ _ _).mpr (Or.inl rfl))
      exact kept.trans (writing.absent rfl)

/-- What follows a fresh reservation. -/
theorem proceed_safe (intake : Intake) (which : party t = .request intake) (drafts : Drafts TableRow) (s : Db)
    (taken : Taken settings intake drafts) (absent : intake.scope settings = σ → s (.idempotency σ) = none) :
    (admissionProtocol settings party σ unexpired).Safe schema t
      ((admissionProtocol settings party σ unexpired).Commits t)
      ((intake.proceed settings intake.recordId intake.work).bind fun id => .done (some id)) drafts s := by
  simp only [Submission.proceed,Tx.bind_eq,Tx.bind_assoc]
  refine Operations.accept_keyed_safe _ _ _ _ _ _ intake.key (fun _ => trivial) (fun _ s' _ => ?_) fun s' env => ?_
  · simp only [admissionProtocol,which]
    exact fun _ => trivial
  have writing : Writing settings σ intake ((drafts.put (.operation intake.operationId)
      (some (Operations.newRecord intake.operation))).put (.operationKey intake.userId intake.kind intake.key)
        (some intake.operationId)) s' := by
    refine Writing.put ⟨?_,put_self _ _ _,fun key held => ?_,fun own => ?_⟩ _ _ ⟨rfl,rfl,rfl⟩ (fun same => by cases same)
      fun same => by cases same
    · rw [put_of_ne _ _ _ _ (fun same => by cases same),taken.ledger]
    · rcases (put_isSome _ _ _ _).mp held with rfl | before
      · rfl
      · exact taken.only key before ▸ rfl
    · subst own
      exact (env.2.2 _ (by simp [taken.ledger])).trans (absent rfl)
  have recorded (drafts : Drafts TableRow) (s : Db) (writing : Writing settings σ intake drafts s) :
      (admissionProtocol settings party σ unexpired).Safe schema t
        ((admissionProtocol settings party σ unexpired).Commits t)
        ((intake.record intake.siteEdit).bind fun _ =>
          (complete (intake.scope settings) intake.recordId (some intake.operationId) 202 intake.now).bind fun _ =>
            (AuditEvent.record intake.auditEventId intake.event).bind fun _ => .done (some intake.operationId)) drafts s := by
    cases intake.siteEdit with
    | none => exact finishing_safe intake which drafts s writing
    | some row =>
      refine Protocol.Safe.insertNew (fun _ => trivial) fun s' env _ => ?_
      exact finishing_safe intake which _ s' ((writing.env env).put (.siteEdit intake.operationId) _ rfl
        (fun same => by cases same) fun same => by cases same)
  simp only [Intake.work]
  split
  · rename_i kind failed
    intro s'' _
    simp only [admissionProtocol,which]
    intro own
    cases kind with
    | idempotencyConflict => exact Or.inr failed
    | _ => trivial
  · rename_i prepared built
    simp only [Tx.bind_eq,Tx.bind_assoc]
    cases prepared with
    | none => exact recorded _ s' writing
    | some prepared =>
      simp only [Intake.command,Eventing.Outbox.enqueue,Tx.bind_eq,Tx.bind_assoc]
      refine Protocol.Safe.insertUnlessConflict trivial (fun s'' later _ => ?_) (fun s'' _ later _ => ?_)
      · exact recorded _ s'' ((writing.env later).put (.outbox prepared.commandId) _ ⟨prepared,built,rfl⟩
          (fun same => by cases same) fun same => by cases same)
      · exact recorded _ s'' (writing.env later)

theorem request_safe (intake : Intake) (which : party t = .request intake) (s : Db) :
    (admissionProtocol settings party σ unexpired).Safe schema t
      ((admissionProtocol settings party σ unexpired).Commits t) ((Party.request intake).program settings) Drafts.none s := by
  have answered (answer : Answer) (drafts : Drafts TableRow) (s : Db)
      (abandons : ∀ s', (admissionProtocol settings party σ unexpired).Env drafts s s' →
        (Party.request intake).Abandons settings σ answer s') :
      (admissionProtocol settings party σ unexpired).Safe schema t
        ((admissionProtocol settings party σ unexpired).Commits t) (.abandon answer) drafts s := by
    intro s' env
    simp only [admissionProtocol,which]
    exact abandons s' env
  simp only [Party.program,Intake.admitOperation,Submission.accept,Tx.bind_eq,Tx.bind_assoc]
  refine reserve_safe intake which (fun drafts s' => ?_) (fun drafts s' _ taken absent => ?_)
    (fun drafts s' row stored complete => ?_)
  · exact answered _ _ _ fun _ _ _ => trivial
  · exact proceed_safe intake which drafts s' taken absent
  · rcases found_of_complete row (intake.digest settings) complete with
      ⟨different,found⟩ | ⟨same,operationId,status,named,found⟩
    · rw [found]
      exact answered _ _ _ fun s'' env own => Or.inl ⟨row,env.2.1 row (own ▸ stored),different⟩
    · rw [found]
      exact answered _ _ _ fun s'' env own => ⟨row,env.2.1 row (own ▸ stored),same,named⟩

theorem collectExpired_safe (now : Timestamp) (whole visited : List Scope) (which : party t = .collector whole now)
    (sub : ∀ scope ∈ visited, scope ∈ whole) (drafts : Drafts TableRow) (s : Db)
    (removed : ∀ key, (drafts key).isSome → key ≠ .idempotency σ ∧
      ∃ scope, key = .idempotency scope ∧ drafts key = some (.written none)) :
    (admissionProtocol settings party σ unexpired).Safe schema t
      ((admissionProtocol settings party σ unexpired).Commits t)
      ((collectExpired now visited).bind fun _ => .done none) drafts s := by
  induction visited generalizing drafts s with
  | nil =>
    intro s' _
    simp only [admissionProtocol,which]
    exact ⟨rfl,removed⟩
  | cons scope visited ih =>
    have later_ := fun other member => sub other (List.mem_cons_of_mem _ member)
    simp only [collectExpired,Tx.bind_eq,Tx.bind_assoc]
    refine Protocol.Safe.deleteWhere (fun s' _ _ => ih later_ drafts s' removed) fun s' row env stored lapsed => ?_
    refine ih later_ _ s' fun key held => ?_
    rcases (put_isSome _ _ _ _).mp held with rfl | before
    · refine ⟨fun same => ?_,scope,rfl,put_self _ _ _⟩
      obtain rfl := Table.idempotency.inj same
      have unseen : drafts (.idempotency scope) = none :=
        Option.not_isSome_iff_eq_none.mp fun mine => (removed _ mine).1 rfl
      have late := env.1.lasting row (by simpa [overlay,unseen] using stored) t
        (which ▸ sub scope List.mem_cons_self)
      rw [which] at late
      simp only [Record.expired,decide_eq_true_eq] at lapsed
      exact absurd late (by simp only [Party.now]; omega)
    · obtain ⟨apart,other,rfl,gone⟩ := removed key before
      refine ⟨apart,other,rfl,?_⟩
      by_cases same : other = scope
      · subst same
        exact put_self _ _ _
      · rw [put_of_ne _ _ _ _ fun own => same (Table.idempotency.inj own)]
        exact gone

/-- Every party keeps to the protocol. -/
theorem parties_keep : (admissionProtocol settings party σ unexpired).Keeps schema fun t => (party t).program settings := by
  intro t s _
  change Protocol.Safe _ _ _ _ ((party t).program settings) _ _
  cases which : party t with
  | request intake => exact request_safe intake which s
  | collector visited now =>
    exact collectExpired_safe now visited visited which (fun _ member => member) Drafts.none s
      fun key held => by simp [Drafts.none] at held

end Safe

/-- A request of the scope. -/
def Party.isRequestOf (settings : Settings) (σ : Scope) : Party → Bool
  | request intake => intake.scope settings = σ
  | collector _ _ => false

/-- The request was answered with this operation, as its own or as the one of an earlier request. -/
def Succeeded (pool : Pool TableRow Answer (Option OperationId) τ) (t : τ) (operationId : OperationId) : Prop :=
  pool.phase t = .committed (some operationId) ∨ pool.phase t = .abandoned (.replayed operationId)

/-- What the requests of one scope come to while its reservation lives. -/
structure AdmittedOnce (store : Db) (pool : Pool TableRow Answer (Option OperationId) τ) : Prop where
  /-- The rows of the tables are those of the commits, one after the other. -/
  effects : pool.committed = Pool.replay store pool.journal
  /-- A request that commits writes its operation, its reservation and its audit record together,
  and at most one command; a collection writes nothing. -/
  whole : ∀ entry ∈ pool.journal, match party entry.transaction with
    | .request intake => entry.value = some intake.operationId ∧ intake.Wrote settings entry.drafts
    | .collector _ _ => ∀ key row, entry.drafts key ≠ some (.written (some row))
  once : (pool.journal.filter fun entry => (party entry.transaction).isRequestOf settings σ).length ≤ 1
  /-- A request that has not committed has left nothing behind. -/
  unsettled : ∀ t, (∀ value, pool.phase t ≠ .committed value) → ∀ entry ∈ pool.journal, entry.transaction ≠ t
  same : ∀ t u intake intake' first second, party t = .request intake → party u = .request intake' →
    intake.scope settings = σ → intake'.scope settings = σ → Succeeded pool t first → Succeeded pool u second →
    first = second
  /-- Another body gets no operation; asked now, the ledger answers it with a conflict. -/
  mismatch : ∀ t intake row, party t = .request intake → intake.scope settings = σ →
    pool.committed (.idempotency σ) = some row → row.requestFingerprint ≠ intake.digest settings →
    (∀ operationId, ¬Succeeded pool t operationId) ∧
    (schema (.idempotency σ) none (reservedRow intake.recordId (intake.digest settings) intake.now
      settings.idempotencyTtl) = true →
      exec schema (intake.admitOperation settings) pool.committed = .abandoned (.refused .idempotencyConflict))
  complete : ∀ scope row, pool.committed (.idempotency scope) = some row →
    row.Complete ∧ ∀ fingerprint, row.found fingerprint ≠ .inFlight
  /-- A conflict is one of bodies: nobody is refused for a request still in flight. -/
  conflicts : ∀ t intake, party t = .request intake → intake.scope settings = σ →
    pool.phase t = .abandoned (.refused .idempotencyConflict) →
    (∃ row, pool.committed (.idempotency σ) = some row ∧ row.requestFingerprint ≠ intake.digest settings) ∨
      intake.prepare intake.operation = .error .idempotencyConflict

/-- A live row of the scope with another digest refuses a request that runs alone. -/
theorem exec_admit_mismatch (intake : Intake) (rows : Db) (row : Record)
    (stored : rows (.idempotency (intake.scope settings)) = some row) (live : row.expired intake.now = false)
    (different : row.requestFingerprint ≠ intake.digest settings)
    (storable : schema (.idempotency (intake.scope settings)) none (reservedRow intake.recordId (intake.digest settings)
      intake.now settings.idempotencyTtl) = true) :
    exec schema (intake.admitOperation settings) rows = .abandoned (.refused .idempotencyConflict) := by
  have conflict : row.found (intake.digest settings) = .conflict := by simp [Record.found,different]
  simp only [Intake.admitOperation,Submission.accept,reserve,Tx.bind_eq,Tx.bind_assoc,Tx.deleteWhere,Tx.insertUnlessConflict,
    Tx.selectForUpdate,Tx.bind,exec,stored,Option.filter_some,live,Bool.false_eq_true,if_false,storable,if_true,conflict]
  rfl

variable {settings party σ} [DecidableEq τ]

/-- The commits so far: each one allowed by the protocol, and those of the scope in its row. -/
structure Admitted (settings : Settings) (party : τ → Party) (σ : Scope) (s : Db)
    (journal : List (Commit TableRow (Option OperationId) τ)) : Prop where
  allowed : ∀ entry ∈ journal, ∃ rows, (party entry.transaction).Commits settings σ entry.value entry.drafts rows
  rows : ∀ entry ∈ journal, ∀ intake, party entry.transaction = .request intake → intake.scope settings = σ →
    ∃ row, s (.idempotency σ) = some row ∧ row.operationId = entry.value ∧
      row.requestFingerprint = intake.digest settings
  once : (journal.filter fun entry => (party entry.transaction).isRequestOf settings σ).length ≤ 1

theorem isRequestOf_iff (which : Party) :
    which.isRequestOf settings σ = true ↔ ∃ intake, which = .request intake ∧ intake.scope settings = σ := by
  cases which <;> simp [Party.isRequestOf]

theorem commit_admitted (s : Db) (journal : List (Commit TableRow (Option OperationId) τ)) (t : τ)
    (value : Option OperationId) (drafts : Drafts TableRow) (admitted : Admitted settings party σ s journal)
    (commits : (party t).Commits settings σ value drafts s)
    (stays : ∀ row, s (.idempotency σ) = some row → overlay drafts s (.idempotency σ) = some row) :
    Admitted settings party σ (overlay drafts s) (journal ++ [⟨t,value,drafts⟩]) := by
  refine ⟨fun entry member => ?_,fun entry member intake which own => ?_,?_⟩
  · rcases List.mem_append.mp member with old | new
    · exact admitted.allowed entry old
    · obtain rfl := List.mem_singleton.mp new
      exact ⟨s,commits⟩
  · rcases List.mem_append.mp member with old | new
    · obtain ⟨row,stored,named⟩ := admitted.rows entry old intake which own
      exact ⟨row,stays row stored,named⟩
    · obtain rfl := List.mem_singleton.mp new
      simp only [which] at commits
      obtain ⟨rfl,wrote,_⟩ := commits
      subst own
      refine ⟨intake.ledgerRow settings,?_,rfl,rfl⟩
      simp [overlay,wrote.ledger]
  · rw [List.filter_append,List.length_append]
    by_cases own : (party t).isRequestOf settings σ = true
    · obtain ⟨intake,which,scope⟩ := (isRequestOf_iff _).mp own
      rw [which] at commits
      have absent := commits.2.2 scope
      -- an earlier commit of the scope would still have its row
      have none_ : (journal.filter fun entry => (party entry.transaction).isRequestOf settings σ) = [] := by
        refine List.filter_eq_nil_iff.mpr fun entry member requested => ?_
        obtain ⟨earlier,which',scope'⟩ := (isRequestOf_iff _).mp requested
        obtain ⟨row,stored,_⟩ := admitted.rows entry member earlier which' scope'
        rw [absent] at stored
        cases stored
      rw [none_]
      exact (Nat.zero_add _).trans_le (List.length_filter_le _ _)
    · simpa [own] using admitted.once

theorem admitted_once (store : Db) (complete : ∀ scope row, store (.idempotency scope) = some row → row.Complete)
    (unexpired : Unexpired settings party σ store) (pool : Pool TableRow Answer (Option OperationId) τ)
    (reached : Pool.Reachable schema (fun t => (party t).program settings) store pool) :
    AdmittedOnce settings party σ store pool := by
  have keeps : (admissionProtocol settings party σ unexpired.reserved).Keeps schema fun t => (party t).program settings :=
    parties_keep
  have valid : Standing settings party σ store := ⟨complete,unexpired.stored⟩
  have sound := Protocol.Keeps.sound keeps store valid pool reached
  have admitted : Admitted settings party σ pool.committed pool.journal := by
    refine Protocol.Keeps.journal keeps store valid (Admitted settings party σ) ⟨?_,?_,?_⟩ ?_ pool reached
    · exact List.forall_mem_nil _
    · exact List.forall_mem_nil _
    · exact Nat.zero_le 1
    · intro s journal t value drafts standing earlier commits
      exact commit_admitted s journal t value drafts earlier commits
        (standing_commit settings party σ t value drafts s unexpired.reserved standing commits).2
  -- whoever succeeded was given the operation of the committed row, for its own digest
  have answered (t : τ) (intake : Intake) (operationId : OperationId) (which : party t = .request intake)
      (own : intake.scope settings = σ) (succeeded : Succeeded pool t operationId) :
      ∃ row, pool.committed (.idempotency σ) = some row ∧ row.operationId = some operationId ∧
        row.requestFingerprint = intake.digest settings := by
    rcases succeeded with committed | replayed
    · obtain ⟨entry,member,rfl,value⟩ := Pool.journal_of_committed reached t _ committed
      exact value ▸ admitted.rows entry member intake which own
    · have fits := sound.fits t
      rw [replayed] at fits
      have abandons : (party t).Abandons settings σ (.replayed operationId) pool.committed := fits.2
      rw [which] at abandons
      obtain ⟨row,stored,same,named⟩ := abandons own
      exact ⟨row,stored,named,same⟩
  refine ⟨Pool.committed_replay reached,fun entry member => ?_,admitted.once,?_,?_,?_,?_,?_⟩
  · obtain ⟨rows,commits⟩ := admitted.allowed entry member
    cases which : party entry.transaction with
    | request intake =>
      rw [which] at commits
      exact ⟨commits.1,commits.2.1⟩
    | collector visited now =>
      rw [which] at commits
      intro key row written
      obtain ⟨_,scope,rfl,removed⟩ := commits.2 key (by simp [written])
      rw [removed] at written
      cases written
  · rintro t pending entry member rfl
    exact pending _ (Pool.committed_of_journal reached entry member)
  · intro t u intake intake' first second which which' own own' succeeded succeeded'
    obtain ⟨row,stored,named,_⟩ := answered t intake first which own succeeded
    obtain ⟨row',stored',named',_⟩ := answered u intake' second which' own' succeeded'
    obtain rfl := Option.some.inj (stored.symm.trans stored')
    exact Option.some.inj (named.symm.trans named')
  · intro t intake row which own stored different
    refine ⟨fun operationId succeeded => ?_,fun storable => ?_⟩
    · obtain ⟨row',stored',_,same⟩ := answered t intake operationId which own succeeded
      obtain rfl := Option.some.inj (stored.symm.trans stored')
      exact different same
    · have late := sound.invariant.lasting row stored t (which ▸ own)
      rw [which] at late
      subst own
      exact exec_admit_mismatch settings intake pool.committed row stored
        (by simpa [Record.expired,Party.now] using late) different storable
  · intro scope row stored
    have whole := sound.invariant.complete scope row stored
    refine ⟨whole,fun fingerprint flying => ?_⟩
    rcases found_of_complete row fingerprint whole with ⟨_,found⟩ | ⟨_,_,_,_,found⟩ <;>
    · rw [found] at flying
      cases flying
  · intro t intake which own conflict
    have fits := sound.fits t
    rw [conflict] at fits
    have abandons : (party t).Abandons settings σ (.refused .idempotencyConflict) pool.committed := fits.2
    rw [which] at abandons
    exact abandons own

section Race

/-- The digests of the key `key-1` and of an empty body. -/
def raceSettings : Settings where
  sha256 bytes :=
    if bytes = "key-1".toUTF8.toList then 0xbe2974546978e3739e6d6da85c4be9f334ce32df2b9fd4b6ff1b55c0d57e9d44
    else 0x44136fa355b3678a1146ad16f7e8649e94fb4fc21fe77e8310c060f61caaff8a
  idempotencyTtl := 1000000000

/-- Two attempts of one capture. -/
def attempt (retried : Bool) : Intake where
  userId := 1
  sessionId := some 1
  route := "/v1/captures"
  kind := "content.capture.submit"
  auditAction := "content.capture.submit"
  key := "key-1"
  fingerprint := "{}".toUTF8.toList
  correlation := "correlation:1"
  reporter := some "ratatoskr-extractor"
  now := if retried then 5000 else 0
  recordId := if retried then 1 else 0
  operationId := if retried then 11 else 10
  auditEventId := if retried then 21 else 20
  outboxId := if retried then 31 else 30
  siteEdit := none
  prepare _ := .ok (some ⟨"cmd.content.capture.requested.v1",if retried then 41 else 40,"{}"⟩)

/-- The retry comes before the first attempt has committed, and is given its operation. -/
theorem retry_admitted_once : ∃ pool : Pool TableRow Answer (Option OperationId) Bool,
    AdmittedOnce raceSettings (fun t => .request (attempt t)) ((attempt false).scope raceSettings) (fun _ => none) pool ∧
      pool.journal.length = 1 ∧ Succeeded pool true 10 := by
  have ran : ((StateMachine.run (Pool.step schema fun t => (Party.request (attempt t)).program raceSettings)
      (Pool.initial fun _ => none) ([.start false,.start true,.advance false,.advance true] ++
        List.replicate 8 (.advance false) ++ List.replicate 3 (.advance true))).map
      fun pool => pool.journal.length == 1 && match pool.phase true with
        | .abandoned (.replayed operationId) => operationId == 10
        | _ => false) = some true := by decide +kernel
  obtain ⟨pool,reached,ended⟩ := Option.map_eq_some_iff.mp ran
  obtain ⟨single,replayed⟩ := Bool.and_eq_true_iff.mp ended
  refine ⟨pool,admitted_once _ (fun _ _ none_ => by cases none_) ⟨fun _ none_ => (by cases none_),?_⟩ pool ⟨_,reached⟩,
    beq_iff_eq.mp single,Or.inr ?_⟩
  · intro t intake which _ u _
    obtain rfl := (Party.request.inj which).symm
    cases t <;> cases u <;> decide
  · split at replayed
    · rename_i operationId answered
      rw [answered,beq_iff_eq.mp replayed]
    · cases replayed

end Race

end Ratatoskr.PublicApi
