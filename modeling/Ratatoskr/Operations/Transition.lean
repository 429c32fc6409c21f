import Ratatoskr.Contracts

/-! The operation transition table, in Rust and in the schema. -/
namespace Ratatoskr.Operations

open OperationStatus

inductive Transition where
  | advance (status : OperationStatus)
  | duplicate
  | stale
  | conflict
deriving DecidableEq

def terminalRank : Nat := 3

def rank : OperationStatus → Nat
  | accepted => 0
  | queued => 1
  | running => 2
  | succeeded | partiallySucceeded | failed | cancelled => terminalRank

def isTerminal (status : OperationStatus) : Bool := rank status == terminalRank

def discriminant : OperationStatus → Nat
  | accepted => 0
  | queued => 1
  | running => 2
  | succeeded => 3
  | partiallySucceeded => 4
  | failed => 5
  | cancelled => 6

def same (left right : OperationStatus) : Bool := discriminant left == discriminant right

/-- What an incoming status means for an operation that is now in `current`. -/
def apply (current incoming : OperationStatus) : Transition :=
  if same current incoming then .duplicate
  else
    match compare (rank incoming) (rank current) with
    | .gt => .advance incoming
    | .lt => .stale
    | .eq => .conflict

def statusStr : OperationStatus → String
  | accepted => "accepted"
  | queued => "queued"
  | running => "running"
  | succeeded => "succeeded"
  | partiallySucceeded => "partially_succeeded"
  | failed => "failed"
  | cancelled => "cancelled"

def statusFromStr (value : String) : Option OperationStatus :=
  if value = "accepted" then some accepted
  else if value = "queued" then some queued
  else if value = "running" then some running
  else if value = "succeeded" then some succeeded
  else if value = "partially_succeeded" then some partiallySucceeded
  else if value = "failed" then some failed
  else if value = "cancelled" then some cancelled
  else none

/-- `operations.status_rank`; null for a text that is no status. -/
def statusRank (status : String) : Option Nat :=
  if status = "accepted" then some 0
  else if status = "queued" then some 1
  else if status = "running" then some 2
  else if status = "succeeded" then some 3
  else if status = "partially_succeeded" then some 3
  else if status = "failed" then some 3
  else if status = "cancelled" then some 3
  else none

/-- `operations.status_is_terminal` -/
def statusIsTerminal (status : String) : Bool :=
  status ∈ ["succeeded","partially_succeeded","failed","cancelled"]

@[simp] theorem status_from_str_str (status : OperationStatus) : statusFromStr (statusStr status) = some status := by
  cases status <;> decide

theorem status_str_injective {a b : OperationStatus} (equal : statusStr a = statusStr b) : a = b := by
  have read := congrArg statusFromStr equal
  simpa using read

/-- The two rank orders agree on every status. -/
@[simp] theorem status_rank_str (status : OperationStatus) : statusRank (statusStr status) = some (rank status) := by
  cases status <;> decide

@[simp] theorem status_is_terminal_str (status : OperationStatus) :
    statusIsTerminal (statusStr status) = isTerminal status := by
  cases status <;> decide

theorem rank_le_terminal (status : OperationStatus) : rank status ≤ terminalRank := by
  cases status <;> decide

theorem is_terminal_iff (status : OperationStatus) : isTerminal status = true ↔ rank status = terminalRank := by
  simp [isTerminal]

/-- Only the terminal statuses share their rank. -/
theorem rank_injective {a b : OperationStatus} (live : isTerminal a = false) (equal : rank a = rank b) : a = b := by
  cases a <;> cases b <;> revert live equal <;> decide

theorem apply_advance_iff (current incoming status : OperationStatus) :
    apply current incoming = .advance status ↔ status = incoming ∧ rank current < rank incoming := by
  cases current <;> cases incoming <;> cases status <;> decide

theorem apply_duplicate_iff (current incoming : OperationStatus) :
    apply current incoming = .duplicate ↔ incoming = current := by
  cases current <;> cases incoming <;> decide

theorem apply_stale_iff (current incoming : OperationStatus) :
    apply current incoming = .stale ↔ rank incoming < rank current := by
  cases current <;> cases incoming <;> decide

theorem apply_conflict_iff (current incoming : OperationStatus) :
    apply current incoming = .conflict ↔
      incoming ≠ current ∧ isTerminal current = true ∧ isTerminal incoming = true := by
  cases current <;> cases incoming <;> decide

/-- Nothing advances out of a terminal status. -/
theorem apply_terminal (current incoming status : OperationStatus) (terminal : isTerminal current = true) :
    apply current incoming ≠ .advance status := by
  intro advances
  obtain ⟨_,above⟩ := (apply_advance_iff current incoming status).mp advances
  have top := (is_terminal_iff current).mp terminal
  have bound := rank_le_terminal incoming
  omega

end Ratatoskr.Operations
