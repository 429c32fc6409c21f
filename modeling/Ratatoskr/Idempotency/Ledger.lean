import Ratatoskr.Schema

/-! The idempotency ledger. A key is reserved in the transaction of the work it protects, and the
answer is recorded there before the commit. -/
namespace Ratatoskr.Idempotency

open Transaction

/-- What a reservation attempt found. -/
inductive Reservation where
  | fresh (recordId : Nat)
  | replay (operationId : Option OperationId) (responseStatus : Nat)
  | inFlight
  | conflict
deriving DecidableEq

/-- What a reservation means for the handler that took it. -/
inductive Outcome where
  | proceed (recordId : Nat)
  | replay (operationId : OperationId)
  | refuse
deriving DecidableEq

def Reservation.outcome : Reservation → Outcome
  | fresh recordId => .proceed recordId
  | replay (some operationId) _ => .replay operationId
  | replay none _ | inFlight | conflict => .refuse

/-- A statement that failed. -/
inductive PersistenceError where
  | query
deriving DecidableEq

/-- The row `reserve` offers. -/
def reservedRow (recordId : Nat) (fingerprint : Digest) (now ttl : Timestamp) : Record where
  recordId
  requestFingerprint := fingerprint
  operationId := none
  responseStatus := none
  reservedAt := toOffset now
  completedAt := none
  expiresAt := toOffset (now + ttl)

def Record.expired (now : Timestamp) (row : Record) : Bool := row.expiresAt ≤ toOffset now

/-- What a live row of the scope says about a request. -/
def Record.found (row : Record) (fingerprint : Digest) : Reservation :=
  if row.requestFingerprint ≠ fingerprint then .conflict
  else if row.completedAt.isNone then .inFlight
  else .replay row.operationId (row.responseStatus.getD 500)

/-- A row that is there lets nobody proceed. -/
theorem found_outcome (row : Record) (fingerprint : Digest) :
    (∃ operationId, (row.found fingerprint).outcome = .replay operationId) ∨ (row.found fingerprint).outcome = .refuse := by
  rw [Record.found]
  split
  · exact Or.inr rfl
  · split
    · exact Or.inr rfl
    · cases row.operationId with
      | none => exact Or.inr rfl
      | some operationId => exact Or.inl ⟨operationId,rfl⟩

section Statements

variable {β : Type}

/-- Reserves a key inside the caller's transaction. An expired reservation is no reservation: it is
deleted first, so that the insert collides with a live row only. -/
def reserve (scope : Scope) (fingerprint : Digest) (now ttl : Timestamp) (recordId : Nat) :
    Tx TableRow β (Except PersistenceError Reservation) := do
  let _ ← Tx.deleteWhere (ν := TableRow) (.idempotency scope) (Record.expired now)
  let inserted ← Tx.insertUnlessConflict (ν := TableRow) (.idempotency scope) (reservedRow recordId fingerprint now ttl)
  if inserted then pure (.ok (.fresh recordId))
  else
    match ← Tx.selectForUpdate (ν := TableRow) (.idempotency scope) (fun _ => true) with
    | none => pure (.error .query)
    | some row => pure (.ok (Record.found row fingerprint))

def Record.completed (operationId : Option OperationId) (responseStatus : Nat) (now : Timestamp) (row : Record) : Record :=
  { row with operationId,responseStatus := some responseStatus,completedAt := some (toOffset now) }

/-- Records the answer in the row of this id, which is the one of the scope. -/
def complete (scope : Scope) (recordId : Nat) (operationId : Option OperationId) (responseStatus : Nat) (now : Timestamp) :
    Tx TableRow β Unit := do
  let _ ← Tx.updateWhere (ν := TableRow) (.idempotency scope) (fun row : Record => row.recordId == recordId)
    (Record.completed operationId responseStatus now)

/-- Deletes the reservations whose window has closed, out of those the statement's scan visits. -/
def collectExpired (now : Timestamp) : List Scope → Tx TableRow β Unit
  | [] => pure ()
  | scope :: visited => do
    let _ ← Tx.deleteWhere (ν := TableRow) (.idempotency scope) (Record.expired now)
    collectExpired now visited

end Statements

/-- A live row of the scope answers; without one the key is reserved anew. -/
theorem exec_reserve {β : Type} (rows : Db) (scope : Scope) (fingerprint : Digest) (now ttl : Timestamp) (recordId : Nat) :
    exec schema (reserve scope fingerprint now ttl recordId : Tx TableRow β _) rows =
      if (reservedRow recordId fingerprint now ttl).checks scope then
        match (rows (.idempotency scope)).filter fun row : Record => !row.expired now with
        | some row => .done (.ok (Record.found row fingerprint)) rows
        | none => .done (.ok (.fresh recordId))
            (Function.update rows (.idempotency scope) (some (reservedRow recordId fingerprint now ttl)))
      else .refused ⟨.idempotency scope,none,reservedRow recordId fingerprint now ttl⟩ := by
  simp only [reserve,Tx.bind_eq,exec_bind,Tx.deleteWhere,Tx.insertUnlessConflict,exec]
  have checked : schema (.idempotency scope) none (reservedRow recordId fingerprint now ttl) =
    (reservedRow recordId fingerprint now ttl).checks scope := rfl
  cases stored : rows (.idempotency scope) with
  | none =>
    simp only [Option.filter_none,exec,Transaction.Outcome.done_bind,checked,stored]
    split <;> rfl
  | some row =>
    cases lapsed : row.expired now with
    | false =>
      simp only [Option.filter_some,lapsed,Bool.false_eq_true,if_false,exec,Transaction.Outcome.done_bind,checked,stored,
        Bool.not_false,if_true]
      split
      · simp only [Tx.pure_eq,Bool.false_eq_true,if_false,exec_bind,exec_selectForUpdate,stored,Option.filter_some,
          if_true,Transaction.Outcome.done_bind,exec]
      · rfl
    | true =>
      simp only [Option.filter_some,lapsed,if_true,exec,Transaction.Outcome.done_bind,checked,Function.update_self,
        Bool.not_true,Bool.false_eq_true,if_false,Function.update_idem]
      split <;> rfl

/-- The answer of a row has been recorded, with the operation it names. -/
def Record.Complete (row : Record) : Prop :=
  row.operationId.isSome ∧ row.responseStatus.isSome ∧ row.completedAt.isSome

/-- A complete row is a conflict or a replay of its operation. -/
theorem found_of_complete (row : Record) (fingerprint : Digest) (complete : row.Complete) :
    (row.requestFingerprint ≠ fingerprint ∧ row.found fingerprint = .conflict) ∨
    (row.requestFingerprint = fingerprint ∧
      ∃ operationId status, row.operationId = some operationId ∧ row.found fingerprint = .replay (some operationId) status) := by
  obtain ⟨named,_,answered⟩ := complete
  obtain ⟨operationId,named⟩ := Option.isSome_iff_exists.mp named
  by_cases same : row.requestFingerprint = fingerprint
  · refine Or.inr ⟨same,operationId,row.responseStatus.getD 500,named,?_⟩
    simp [Record.found,same,named,Option.isSome_iff_ne_none.mp answered]
  · exact Or.inl ⟨same,by simp [Record.found,same]⟩

end Ratatoskr.Idempotency
