import Ratatoskr.Lib.Protocol
import Ratatoskr.Operations.Writers

/-! The writers of the operations, interleaved statement by statement. -/
namespace Ratatoskr.Operations

open Transaction

variable {τ : Type} (writer : τ → Writer)

/-- A writer leaves the operations consistent and moves them on only. -/
def writerProtocol : Protocol TableRow Unit Unit τ where
  Invariant := Valid
  Rely := Grows
  Commits t _ drafts rows := Moves (writer t).now rows (overlay drafts rows)
  Abandons _ _ _ := True
  Refuses t refusal := ∀ made, (writer t).call = some made → Overlong made refusal
  rely_refl := Grows.refl
  rely_trans _ _ _ := Grows.trans
  commit_invariant _ _ _ _ _ commits := commits.valid
  commit_rely _ _ _ _ _ commits := commits.grows
  abandon_stable _ _ _ _ _ _ := trivial

/-- A writer is safe when it keeps to the protocol in every interleaving. -/
abbrev Safely [DecidableEq τ] (t : τ) (body : Tx TableRow Unit Unit) (drafts : Drafts TableRow) (rows : Db) : Prop :=
  (writerProtocol writer).Safe schema t ((writerProtocol writer).Commits t) body drafts rows

theorem nothing_safe [DecidableEq τ] (t : τ) (value : Unit) (rows : Db) : Safely writer t (.done value) Drafts.none rows :=
  fun _ env => Moves.refl env.1 _

/-- The row of one operation. -/
abbrev Own (operationId : OperationId) : Table → Prop := (· = .operation operationId)

/-- A writer that locks its operation first is safe when it is so alone. -/
theorem locked_safe [DecidableEq τ] (t : τ) (operationId : OperationId) (matching : OperationRecord → Bool)
    (next : Option OperationRecord → Tx TableRow Unit Unit) (rows : Db)
    (within : Within (Own operationId) (.lock (ν := TableRow) (.operation operationId) matching next))
    (absent : ∀ later, Safely writer t (next none) Drafts.none later)
    (alone : ∀ later record, Valid later → later (.operation operationId) = some record →
      matching record = true →
      Kept (writer t).now (writer t).call later (exec schema (.lock (ν := TableRow) (.operation operationId) matching next) later)) :
    Safely writer t (.lock (ν := TableRow) (.operation operationId) matching next) Drafts.none rows := by
  refine Protocol.Safe.lock_first within (fun later _ _ => absent later) fun later record env found => ?_
  obtain ⟨stored,matched⟩ := Option.filter_eq_some_iff.mp found
  have kept := alone later record env.1 stored matched
  rw [overlay_none]
  revert kept
  cases exec schema (.lock (ν := TableRow) (.operation operationId) matching next) later with
  | done value final =>
    rintro moves drafts rfl _
    exact moves
  | abandoned => exact fun _ => trivial
  | refused refusal => exact id

section Within

variable {β : Type} (operationId : OperationId)

theorem within_updateRecord (change : OperationRecord → OperationRecord) :
    Within (Own operationId) (updateRecord operationId change : Tx TableRow β Unit) :=
  within_bind _ _ _ (within_updateWhere (Own operationId) _ rfl _ _) fun _ => trivial

theorem within_updateRecords (changes : List (OperationRecord → OperationRecord)) :
    Within (Own operationId) (updateRecords operationId changes : Tx TableRow β Unit) := by
  induction changes with
  | nil => trivial
  | cons change changes ih => exact within_bind _ _ _ (within_updateRecord operationId change) fun _ => ih

theorem within_recordStatus (incoming : OperationStatus) (stage : Option String) (percent : Option Nat)
    (message : Option String) (now : Timestamp) :
    Within (Own operationId)
      (recordStatus operationId incoming stage percent message now : Tx TableRow β _) := by
  have find : Within (Own operationId) (find operationId : Tx TableRow β _) := ⟨rfl,fun _ => trivial⟩
  refine within_bind _ _ _ (within_selectForUpdate (Own operationId) _ rfl _) fun locked => ?_
  cases locked with
  | none => trivial
  | some row =>
    refine within_bind _ _ _ find fun current => ?_
    cases current with
    | none => trivial
    | some current =>
      dsimp only
      cases apply current.status incoming with
      | duplicate | stale | conflict => trivial
      | advance status =>
        refine within_bind _ _ _ (within_updateRecord operationId _) fun _ => ?_
        refine within_bind _ _ _ (within_updateRecord operationId _) fun _ => ?_
        refine within_bind _ _ _ find fun updated => ?_
        cases updated <;> trivial

theorem within_recordError (error : ErrorEnvelope) (now : Timestamp) :
    Within (Own operationId) (recordError operationId error now : Tx TableRow β Unit) :=
  recordError_eq (β := β) operationId error now ▸ within_updateRecords operationId _

theorem within_project (report : OperationReported) (now : Timestamp) :
    Within (Own report.operationId) (project report now : Tx TableRow β _) := by
  refine within_bind _ _ _ (within_recordStatus report.operationId _ _ _ _ _) fun verdict => ?_
  cases verdict with
  | error => trivial
  | ok verdict =>
    refine within_bind _ _ _ (attach_eq report now ▸ within_updateRecords report.operationId _) fun _ => trivial

theorem within_failOperation (stage message : String) (error : Except OperationError ErrorEnvelope)
    (now : Timestamp) :
    Within (Own operationId) (failOperation operationId stage message error now) := by
  refine within_bind _ _ _ (within_recordStatus operationId _ _ _ _ _) fun verdict => ?_
  rcases verdict with refusal | ⟨transition,_⟩
  · trivial
  · cases transition with
    | duplicate | stale | conflict => trivial
    | advance =>
      cases error with
      | error => trivial
      | ok error => exact within_recordError operationId error now

theorem within_reconcileOne (cutoff : Int) (now : Timestamp) :
    Within (Own operationId) (reconcileOne operationId cutoff now) := by
  refine within_bind _ _ _ (within_selectForUpdate (Own operationId) _ rfl _) fun found => ?_
  cases found with
  | none => trivial
  | some row =>
    refine within_bind _ _ _ (within_recordStatus operationId _ _ _ _ _) fun verdict => ?_
    cases verdict with
    | error => trivial
    | ok => exact within_bind _ _ _ (within_recordError operationId _ _) fun _ => trivial

theorem within_requestCancellation (ownerUserId : UserId) (now : Timestamp) :
    Within (Own operationId) (requestCancellation operationId ownerUserId now) := by
  refine within_bind _ _ _ (within_selectForUpdate (Own operationId) _ rfl _) fun found => ?_
  cases found with
  | none => trivial
  | some record =>
    dsimp only
    split
    · trivial
    · split
      · trivial
      · exact within_bind _ _ _ (within_updateRecord operationId _) fun _ => trivial

/-- Of the operations, only one. -/
abbrev Alone (operationId : OperationId) : Table → Prop := fun key =>
  ∀ other, key = .operation other → other = operationId

theorem own_alone (key : Table) (own : Own operationId key) : Alone operationId key := by
  rintro other rfl
  exact Table.operation.inj own

theorem within_mint (ownerUserId : UserId) (kind correlationId : String) (idempotencyKey reporter : Option String)
    (acceptance : Option AiArchiveAcceptance) (now : Timestamp) :
    Within (Alone operationId)
      (mint operationId ownerUserId kind correlationId idempotencyKey reporter acceptance now) := by
  have accepted : Within (Alone operationId) (accept operationId ownerUserId kind correlationId idempotencyKey reporter
      now : Tx TableRow Unit _) := by
    simp only [accept]
    split
    · trivial
    · refine within_bind _ _ _ (within_insertNew (Alone operationId) _ (own_alone operationId _ rfl) _) fun _ => ?_
      cases idempotencyKey with
      | none => trivial
      | some key =>
        refine within_bind _ _ _ (within_insertNew (Alone operationId) _ ?_ _) fun _ => trivial
        nofun
  refine within_bind _ _ _ accepted fun result => ?_
  cases result with
  | error => trivial
  | ok =>
    cases acceptance with
    | none => trivial
    | some acceptance =>
      refine within_insertNew (Alone operationId) _ ?_ _
      nofun

/-- The row of one operation and its acceptance. -/
abbrev Bound (operationId : OperationId) : Table → Prop := fun key =>
  key = .operation operationId ∨ key = .archiveAcceptance operationId

theorem bound_alone (key : Table) (bound : Bound operationId key) : Alone operationId key := by
  rcases bound with own | rfl
  · exact own_alone operationId key own
  · exact fun _ same => by cases same

theorem within_handle (message : Eventing.Incoming Envelope) (now : Timestamp) (report : OperationReported)
    (read : ProgressReport.read message.payload = some report) :
    Within (Bound report.operationId) (handle message now : Tx TableRow β _) := by
  simp only [handle,read]
  refine within_bind _ _ _ ?_ fun bound => ?_
  · refine within_bind _ _ _ ⟨Or.inl rfl,fun _ => trivial⟩ fun found => ?_
    cases found with
    | none => trivial
    | some operation => exact ⟨Or.inr rfl,fun _ => trivial⟩
  · split
    · trivial
    · exact within_mono _ _ _ (fun _ own => Or.inl own) (within_project report now)

/-- A writer touches one operation at most. -/
theorem within_writer (writer : Writer) : ∃ operationId, Within (Alone operationId) writer.program := by
  cases writer with
  | mint operationId ownerUserId kind correlationId key reporter acceptance now =>
    exact ⟨operationId,within_mint operationId ownerUserId kind correlationId key reporter acceptance now⟩
  | report message now =>
    cases read : ProgressReport.read message.payload with
    | none =>
      refine ⟨0,?_⟩
      simp only [Writer.program,handle,read]
      trivial
    | some report =>
      exact ⟨report.operationId,within_mono _ _ _ (bound_alone report.operationId)
        (within_adapt _ _ _ _ (within_handle message now report read))⟩
  | reconcile operationId cutoff now =>
    exact ⟨operationId,within_mono _ _ _ (own_alone operationId)
      (within_adapt _ _ _ _ (within_reconcileOne operationId cutoff now))⟩
  | archiveDelivery operationId now =>
    exact ⟨operationId,within_mono _ _ _ (own_alone operationId)
      (within_adapt _ _ _ _ (within_failOperation operationId _ _ _ now))⟩
  | notesForward operationId forward code retryable now =>
    exact ⟨operationId,within_mono _ _ _ (own_alone operationId)
      (within_adapt _ _ _ _ (within_failOperation operationId _ _ _ now))⟩
  | cancel operationId ownerUserId now =>
    exact ⟨operationId,within_mono _ _ _ (own_alone operationId)
      (within_adapt _ _ _ _ (within_requestCancellation operationId ownerUserId now))⟩

end Within

section Alone

variable {rows : Db} (valid : Valid rows) (operationId : OperationId) (record : OperationRecord)
  (found : rows (.operation operationId) = some record)

include valid found

theorem kept_failOperation (stage message : String) (error : ErrorEnvelope) (now : Timestamp)
    (named : isStage stage = true) :
    Kept now (some ⟨operationId,.failed,some stage,none,now⟩) rows
      (exec schema (failOperation operationId stage message (.ok error) now) rows) := by
  rw [exec_failOperation rows operationId now record found]
  split
  · rename_i status advances
    refine kept_fail valid operationId record found (some stage) message error now () ?_ named
    cases ended : isTerminal record.operation.status
    · rfl
    · exact absurd advances (apply_terminal _ _ _ ended)
  · trivial
  · exact Moves.refl valid now

theorem kept_requestCancellation (ownerUserId : UserId) (now : Timestamp) :
    Kept now none rows (exec schema (requestCancellation operationId ownerUserId now) rows) := by
  simp only [requestCancellation,Tx.bind_eq,exec_bind,exec_selectForUpdate,found,Outcome.done_bind]
  split
  · rename_i stored locked
    obtain rfl : record = stored := by simpa using (Option.filter_eq_some_iff.mp locked).1
    split
    · exact Moves.refl valid now
    · split
      · exact Moves.refl valid now
      · simp only [exec_bind,exec_updateRecord rows operationId record found]
        split
        · rename_i admitted
          have annotates : Annotates record { record with operation :=
              { record.operation with cancellationRequestedAt := some (toOffset now) } } :=
            ⟨rfl,rfl,rfl,rfl,rfl,rfl,rfl,rfl,rfl,List.prefix_rfl,List.prefix_rfl⟩
          exact moves_update valid operationId record found now _
            ⟨annotates.consistent (valid _ _ found) (Bool.and_eq_true_iff.mp admitted).1,annotates.extends,Or.inl rfl⟩
        · intro made same
          cases same
  · trivial

end Alone

section Claim

/-- The transaction has inserted one operation, which nobody else can have. -/
structure Claims (now : Timestamp) (operationId : OperationId) (record : OperationRecord)
    (drafts : Drafts TableRow) (rows : Db) : Prop where
  consistent : Consistent record
  dated : record.operation.statusChangedAt = toOffset now
  absent : rows (.operation operationId) = none
  claimed : drafts (.operation operationId) = some (.written (some record))
  others : ∀ other, other ≠ operationId → drafts (.operation other) = none

variable {now : Timestamp} {operationId : OperationId} {record : OperationRecord} {drafts : Drafts TableRow}
  {rows later : Db} (claims : Claims now operationId record drafts rows)

theorem newRecord_claims (operation : Operation) (fresh : operation.status = .accepted) (unstaged : operation.stage = none)
    (dated : operation.statusChangedAt = toOffset now) (checks : (newRecord operation).checks = true)
    (absent : rows (.operation operationId) = none) :
    Claims now operationId (newRecord operation)
      ((Drafts.none : Drafts TableRow).put (.operation operationId) (some (newRecord operation))) rows := by
  refine ⟨⟨checks,List.Pairwise.nil,fresh,nofun,by simp [newRecord,unstaged]⟩,dated,absent,put_self _ _ _,fun other different => ?_⟩
  exact (put_of_ne _ _ _ _ fun equal => different (Table.operation.inj equal)).trans rfl

include claims

theorem Claims.moves (valid : Valid rows) : Moves now rows (overlay drafts rows) := by
  refine ⟨fun other stored found => ?_,fun other stored found => ?_,fun other new found => ?_⟩
  · by_cases same : other = operationId
    · subst same
      simp only [overlay,claims.claimed,Option.some.injEq] at found
      exact found ▸ claims.consistent
    · simp only [overlay,claims.others other same] at found
      exact valid other stored found
  · have different : other ≠ operationId := by
      rintro rfl
      rw [claims.absent] at found
      cases found
    exact ⟨stored,by simpa only [overlay,claims.others other different] using found,Extends.refl stored⟩
  · by_cases same : other = operationId
    · subst same
      simp only [overlay,claims.claimed,Option.some.injEq] at found
      exact Or.inr (found ▸ claims.dated)
    · simp only [overlay,claims.others other same] at found
      exact Or.inl ⟨new,found,rfl⟩

theorem Claims.stable (env : (writerProtocol writer).Env drafts rows later) :
    Claims now operationId record drafts later := by
  have held : (drafts (.operation operationId)).isSome := by rw [claims.claimed]; rfl
  exact ⟨claims.consistent,claims.dated,(env.2.2 _ held).trans claims.absent,claims.claimed,claims.others⟩

/-- Rows of another table are no operations. -/
theorem Claims.put (key : Table) (row : Option (TableRow key)) (apart : ∀ other, Table.operation other ≠ key) :
    Claims now operationId record (drafts.put key row) rows :=
  ⟨claims.consistent,claims.dated,claims.absent,(put_of_ne _ _ _ _ (apart _)).trans claims.claimed,
    fun other different => (put_of_ne _ _ _ _ (apart other)).trans (claims.others other different)⟩

end Claim

section Safe

variable (t : τ) (rows : Db)

/-- What a plain insert leaves, for a writer whose refusals say nothing about a status. -/
theorem insertNew_safe [DecidableEq τ] {post : Unit → Drafts TableRow → Db → Prop} (drafts : Drafts TableRow) (key : Table)
    (row : TableRow key) (quiet : (writer t).call = none)
    (inserted : ∀ later, (writerProtocol writer).Env drafts rows later → schema key none row = true →
      overlay drafts later key = none →
      ∀ final, (writerProtocol writer).Env (drafts.put key (some row)) later final →
        post () (drafts.put key (some row)) final) :
    (writerProtocol writer).Safe schema t post (Tx.insertNew key row) drafts rows := by
  have refuses (refusal : Refusal TableRow) : (writerProtocol writer).Refuses t refusal := by
    intro made same
    rw [quiet] at same
    cases same
  intro later env
  split
  · rename_i accepted
    split
    · rename_i absent
      exact fun final moved => inserted later env accepted absent final moved
    · exact fun _ _ => refuses _
  · exact refuses _

variable [DecidableEq τ]

/-- An accepted operation is claimed, whatever else is committed meanwhile. -/
theorem accept_safe (operationId : OperationId) (ownerUserId : UserId) (kind correlationId : String)
    (idempotencyKey reporter : Option String) (now : Timestamp) (valid : Valid rows)
    (quiet : (writer t).call = none) :
    (writerProtocol writer).Safe schema t (fun result drafts later =>
        ∀ operation, result = .ok operation → Claims now operationId (newRecord operation) drafts later)
      (accept operationId ownerUserId kind correlationId idempotencyKey reporter now) Drafts.none rows := by
  simp only [accept]
  split
  · intro later env operation same
    cases same
  · refine Protocol.Safe.bind valid (insertNew_safe writer t rows _ _ _ quiet ?_)
    intro later env admitted absent final moved
    have claims := (newRecord_claims _ rfl rfl rfl (Bool.and_eq_true_iff.mp admitted).1 absent).stable
      writer moved
    cases idempotencyKey with
    | none =>
      intro s env operation same
      obtain rfl := Except.ok.inj same
      exact claims.stable writer env
    | some key =>
      refine Protocol.Safe.bind moved.1 (insertNew_safe writer t final _ _ _ quiet ?_)
      intro s toS _ _ s' toS' s'' toS'' operation same
      obtain rfl := Except.ok.inj same
      exact (((claims.stable writer toS).put _ _ (by simp)).stable writer toS').stable writer toS''

theorem mint_safe (operationId : OperationId) (ownerUserId : UserId) (kind correlationId : String)
    (idempotencyKey reporter : Option String) (acceptance : Option AiArchiveAcceptance) (now : Timestamp)
    (valid : Valid rows)
    (own : writer t = .mint operationId ownerUserId kind correlationId idempotencyKey reporter acceptance now) :
    Safely writer t (writer t).program Drafts.none rows := by
  have quiet : (writer t).call = none := by rw [own]; rfl
  have dated : (writer t).now = now := by rw [own]; rfl
  have accepted := accept_safe writer t rows operationId ownerUserId kind correlationId idempotencyKey reporter now
    valid quiet
  rw [own]
  refine Protocol.Safe.bind valid (accepted.weaken fun result drafts later legal claims => ?_)
  cases result with
  | error => exact fun _ _ => trivial
  | ok operation =>
    have claims := claims operation rfl
    cases acceptance with
    | none =>
      intro final env
      change Moves (writer t).now _ _
      rw [dated]
      exact (claims.stable writer env).moves env.1
    | some acceptance =>
      refine insertNew_safe writer t later _ _ _ quiet fun s toS _ _ s' toS' => ?_
      change Moves (writer t).now _ _
      rw [dated]
      exact (((claims.stable writer toS).put _ _ (by simp)).stable writer toS').moves toS'.1

theorem report_safe (message : Eventing.Incoming Envelope) (now : Timestamp) (own : writer t = .report message now) :
    Safely writer t (writer t).program Drafts.none rows := by
  rw [own]
  simp only [Writer.program,handle]
  cases read : ProgressReport.read message.payload with
  | none => exact nothing_safe writer t () rows
  | some report =>
    intro s env
    -- The owner and the binding are read before the row is locked.
    cases overlay Drafts.none s (.operation report.operationId) with
    | none => exact nothing_safe writer t () s
    | some record =>
      intro later moved
      dsimp only [Tx.pure_eq,Tx.bind]
      split
      · exact nothing_safe writer t () later
      · refine locked_safe writer t report.operationId _ _ later
          (within_adapt _ _ _ _ (within_project report now)) (nothing_safe writer t ()) ?_
        intro s' record valid found _
        have alone := kept_project (β := Unit) valid report.operationId record found report now rfl
        rw [own,Writer.call,read,Option.map_some]
        exact (exec_adapt schema s' id (fun _ => ()) (project report now)) ▸ kept_adapt _ _ s' _ _ _ alone

theorem reconcile_safe (operationId : OperationId) (cutoff : Int) (now : Timestamp)
    (own : writer t = .reconcile operationId cutoff now) :
    Safely writer t (writer t).program Drafts.none rows := by
  rw [own]
  refine locked_safe writer t operationId _ _ rows
    (within_adapt _ _ _ _ (within_reconcileOne operationId cutoff now)) (fun _ _ _ => trivial) ?_
  intro later record valid found stale
  have kept : Kept now (some ⟨operationId,.failed,none,none,now⟩) later
      (exec schema (reconcileOne operationId cutoff now) later) := by
    rw [exec_reconcileOne later operationId now record found cutoff stale]
    exact kept_fail valid operationId record found none staleMessage staleError now true
      (live_of_stale cutoff record stale).1 rfl
  rw [own]
  exact (exec_adapt schema later (fun _ => ()) (fun _ => ()) (reconcileOne operationId cutoff now)) ▸
    kept_adapt _ _ later _ _ _ kept

theorem fail_safe (operationId : OperationId) (stage message : String) (error : ErrorEnvelope) (now : Timestamp)
    (dated : (writer t).now = now) (calls : (writer t).call = some ⟨operationId,.failed,some stage,none,now⟩)
    (named : isStage stage = true) (program : (writer t).program = (failOperation operationId stage message (.ok error) now).adapt (fun _ => ()) id) :
    Safely writer t (writer t).program Drafts.none rows := by
  rw [program]
  refine locked_safe writer t operationId _ _ rows
    (within_adapt _ _ _ _ (within_failOperation operationId stage message (.ok error) now)) (fun _ _ _ => trivial) ?_
  intro later record valid found _
  have alone := kept_failOperation valid operationId record found stage message error now named
  rw [calls,dated]
  exact (exec_adapt schema later (fun _ => ()) id (failOperation operationId stage message (.ok error) now)) ▸
    kept_adapt _ _ later _ _ _ alone

theorem cancel_safe (operationId : OperationId) (ownerUserId : UserId) (now : Timestamp)
    (own : writer t = .cancel operationId ownerUserId now) :
    Safely writer t (writer t).program Drafts.none rows := by
  rw [own]
  refine locked_safe writer t operationId _ _ rows
    (within_adapt _ _ _ _ (within_requestCancellation operationId ownerUserId now)) (fun _ _ _ => trivial) ?_
  intro later record valid found _
  have alone := kept_requestCancellation valid operationId record found ownerUserId now
  rw [own]
  exact (exec_adapt schema later (fun _ => ()) (fun _ => ()) (requestCancellation operationId ownerUserId now)) ▸
    kept_adapt _ _ later _ _ _ alone

/-- Every writer keeps to the protocol, whatever the others commit between its statements. -/
theorem writers_keep : (writerProtocol writer).Keeps schema fun t => (writer t).program := by
  intro t rows valid
  cases own : writer t with
  | mint operationId ownerUserId kind correlationId key reporter acceptance now =>
    exact mint_safe writer t rows operationId ownerUserId kind correlationId key reporter acceptance now valid own
  | report message now => exact report_safe writer t rows message now own
  | reconcile operationId cutoff now => exact reconcile_safe writer t rows operationId cutoff now own
  | archiveDelivery operationId now =>
    exact fail_safe writer t rows operationId "delivery" _ deliveryFailed now (by rw [own]; rfl)
      (by rw [own]; rfl) (by decide) (by rw [own]; rfl)
  | notesForward operationId forward code retryable now =>
    have safe : isSafeMessage forward.message = true := by cases forward <;> decide
    have named : isStage forward.stage = true := by cases forward <;> decide
    refine fail_safe writer t rows operationId forward.stage forward.message
      ⟨code,⟨forward.message,safe⟩,retryable⟩ now (by rw [own]; rfl) (by rw [own]; rfl) named ?_
    rw [own]
    simp only [Writer.program,failNotesForward,Checked.parse,safe,dif_pos]
  | cancel operationId ownerUserId now => exact cancel_safe writer t rows operationId ownerUserId now own

end Safe

theorem single_terminal (record : OperationRecord) (consistent : Consistent record) :
    (record.progress.filter fun entry => isTerminal entry.status).length ≤ 1 := by
  have ordered := List.pairwise_map.mp consistent.ranks
  rcases ends : record.progress.filter fun entry => isTerminal entry.status with _ | ⟨a,_ | ⟨b,rest⟩⟩
  · exact ends ▸ Nat.zero_le 1
  · exact ends ▸ le_rfl
  · exfalso
    have kept : (a :: b :: rest).Pairwise fun a b => rank a.status < rank b.status := ends ▸ ordered.filter _
    have member (entry) (own : entry ∈ a :: b :: rest) : rank entry.status = terminalRank := by
      rw [← ends] at own
      exact (is_terminal_iff _).mp (List.mem_filter.mp own).2
    have above := (List.pairwise_cons.mp kept).1 b List.mem_cons_self
    rw [member a (by simp),member b (by simp)] at above
    exact lt_irrefl _ above

theorem terminated_iff (record : OperationRecord) (checks : record.checks = true) :
    record.operation.terminatedAt.isSome = isTerminal record.operation.status := by
  simp only [OperationRecord.checks,Operation.checks,Bool.and_eq_true,beq_iff_eq,status_is_terminal_str] at checks
  exact checks.1.1.1.1.2.symm

/-- What the callers of `recordStatus` keep about the operations, however they are interleaved. -/
structure KeepsHistory [DecidableEq τ] (writer : τ → Writer) (pool : Pool TableRow Unit Unit τ) : Prop where
  /-- In particular the history is strictly increasing in rank and ends with the current status. -/
  consistent : Valid pool.committed
  single : ∀ operationId record, pool.committed (.operation operationId) = some record →
    (record.progress.filter fun entry => isTerminal entry.status).length ≤ 1
  terminated : ∀ operationId record, pool.committed (.operation operationId) = some record →
    record.operation.terminatedAt.isSome = isTerminal record.operation.status
  onward : ∀ actions later, StateMachine.run (Pool.step schema fun t => (writer t).program) pool actions = some later →
    Grows pool.committed later.committed
  /-- The update of an advance passes the guard and the CHECKs exactly when the stage fits. -/
  updates : ∀ t call record, (writer t).call = some call →
    pool.committed (.operation call.operationId) = some record → call.Advances record →
    (schema (.operation call.operationId) (some record) (call.update record) = true ↔ stageIsBounded call.stage = true)
  /-- No caller whose stage fits was ever refused its update. -/
  refused : ∀ t call refusal, (writer t).call = some call → pool.phase t = .refused refusal → Overlong call refusal

theorem Writer.percent_bounded (writer : Writer) (call : StatusCall) (calls : writer.call = some call) :
    percentIsAPercentage call.progressPercent = true := by
  cases writer with
  | report message now =>
    obtain ⟨report,_,rfl⟩ := Option.map_eq_some_iff.mp calls
    exact report_percent_bounded report now
  | reconcile | archiveDelivery | notesForward =>
    obtain rfl := Option.some.inj calls
    rfl
  | mint | cancel => cases calls

theorem record_status_keeps_history [DecidableEq τ] (writer : τ → Writer) (store : Db)
    (fresh : ∀ operationId, store (.operation operationId) = none) (pool : Pool TableRow Unit Unit τ)
    (reached : Pool.Reachable schema (fun t => (writer t).program) store pool) : KeepsHistory writer pool := by
  have valid : Valid store := by
    intro operationId record found
    rw [fresh operationId] at found
    cases found
  have sound := (writers_keep writer).sound store valid pool reached
  refine ⟨sound.invariant,fun id record found => single_terminal record (sound.invariant id record found),
    fun id record found => terminated_iff record (sound.invariant id record found).checks,
    fun actions later ran => (writers_keep writer).rely pool later sound actions ran,?_,?_⟩
  · rintro t call record calls found ⟨advances,later⟩
    exact admits_withStatus_iff record call.incoming call.stage call.progressPercent call.now
      (sound.invariant _ record found).checks ((apply_advance_iff _ _ _).mp advances).2 later
      ((writer t).percent_bounded call calls)
  · intro t call refusal calls ended
    have fits := sound.fits t
    rw [ended] at fits
    exact fits.2 call calls

section LongStage

/-- A stage of 61 characters, which the contract allows. -/
def longStage : OperationStage := ⟨String.ofList (List.replicate 61 'a'),by decide⟩

def stagedReport : OperationReported := ⟨0,.running,some longStage,none,[],none,[]⟩

def reportFrom (report : OperationReported) : Eventing.Incoming Envelope :=
  ⟨1,"evt.ops.operation.reported.v1","ratatoskr-extractor",
    some "user:00000000-0000-0000-0000-000000000001",some report⟩

def stagedWriters : Bool → Writer
  | false => .mint 0 1 "content.capture.submit" "request:1" (some "key") (some "ratatoskr-extractor") none 0
  | true => .report (reportFrom stagedReport) 1000

/-- A report the contract allows is refused by the CHECK on the column its stage goes to. -/
theorem long_stage_is_refused : ∃ pool record,
    Pool.Reachable schema (fun t => (stagedWriters t).program) (fun _ => none) pool ∧
    (stagedReport.call 1000).Advances record ∧
    pool.phase true = .refused ⟨.operation 0,some record,(stagedReport.call 1000).update record⟩ := by
  refine ⟨_,newRecord (newOperation 1 "content.capture.submit" "request:1" (some "key") (some "ratatoskr-extractor") 0),
    ⟨[.start false,.advance false,.advance false,.advance false,.start true,.advance true,
      .advance true,.advance true,.advance true,.advance true,.advance true],rfl⟩,⟨?_,?_⟩,?_⟩
  · decide
  · decide
  · rfl

theorem long_stage_keeps_history : ∃ pool, KeepsHistory stagedWriters pool ∧
    (pool.committed (.operation 0)).isSome := by
  refine ⟨_,record_status_keeps_history stagedWriters (fun _ => none) (fun _ => rfl) _
    ⟨[.start false,.advance false,.advance false,.advance false],rfl⟩,rfl⟩

end LongStage

end Ratatoskr.Operations
