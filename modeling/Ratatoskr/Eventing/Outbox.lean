import Mathlib.Algebra.Group.Nat.Defs
import Mathlib.Data.List.Sort
import Ratatoskr.Eventing.Tables
import Ratatoskr.Lib.Rows

/-! The statements on the transactional outbox. -/
namespace Ratatoskr.Eventing

def claimLeaseSeconds : Nat := 30

def maxBackoffSeconds : Nat := 300

def maxAttempts : Nat := 12

/-- An interval in the microseconds of a `timestamptz`. -/
def seconds (count : Nat) : Int := count * 1000000

/-- `least($4, power(2, least(attempts, 20)))` -/
def backoffSeconds (attempts : Nat) : Nat := min maxBackoffSeconds (2 ^ min attempts 20)

theorem backoff_bounds (attempts : Nat) : 1 ≤ backoffSeconds attempts ∧ backoffSeconds attempts ≤ maxBackoffSeconds := by
  have power : 1 ≤ 2 ^ min attempts 20 := Nat.one_le_two_pow
  simp only [backoffSeconds,maxBackoffSeconds]
  omega

/-- Why a publication did not happen. -/
inductive PublishError where
  | notAcknowledged | credential
deriving DecidableEq

def PublishError.text : PublishError → String
  | notAcknowledged => "the message was not acknowledged by the bus"
  | credential => "the bus credential could not be read"

/-- One line of at most 200 characters. -/
def safeError (error : String) : String :=
  let singleLine := error.toList.map fun c => if c = '\n' ∨ c = '\r' then ' ' else c
  let trimmed := trimWhiteSpace singleLine
  if trimmed.length ≤ 200 then String.ofList trimmed
  else String.ofList (trimmed.take 197 ++ "...".toList)

/-- The text of every publish error fits the column. -/
theorem safe_error_short (error : PublishError) : isShortSafe (safeError error.text) = true := by
  cases error <;> decide

structure ClaimedMessage where
  outboxId : Nat
  messageId : MessageId
  subject : String
  payload : String
  attempts : Nat
deriving DecidableEq

namespace Outbox

/-- The row `enqueue` offers. -/
def enqueuedRow (outboxId : Nat) (messageId : MessageId) (subject payload : String)
    (operationId : Option OperationId) (now : Timestamp) : OutboxRow where
  outboxId
  messageId
  subject
  payload
  operationId
  enqueuedAt := toOffset now
  nextAttemptAt := toOffset now
  attempts := 0
  claimedUntil := none
  claimedBy := none
  publishedAt := none
  lastError := none
  deadLetteredAt := none

def isDue (now : Int) (row : OutboxRow) : Bool :=
  row.publishedAt.isNone && row.deadLetteredAt.isNone && row.nextAttemptAt ≤ now && row.claimedUntil.all (· ≤ now)

/-- `order by next_attempt_at, enqueued_at` -/
def earlier (a b : OutboxRow) : Prop :=
  a.nextAttemptAt < b.nextAttemptAt ∨ a.nextAttemptAt = b.nextAttemptAt ∧ a.enqueuedAt ≤ b.enqueuedAt

instance : DecidableRel earlier := fun _ _ => inferInstanceAs (Decidable (_ ∨ _))

/-- The due rows that no other statement has locked, up to the limit. -/
def due (rows : List OutboxRow) (limit : Nat) (locked : List Nat) (now : Int) : List Nat :=
  (((rows.filter fun row => isDue now row && !locked.contains row.outboxId).insertionSort earlier).take limit).map
    OutboxRow.outboxId

def leaseUntil (now : Timestamp) : Int := toOffset (now + claimLeaseSeconds * 1000000000)

def claimedRow (claimedBy : String) (now : Timestamp) (row : OutboxRow) : OutboxRow :=
  { row with claimedUntil := some (leaseUntil now),claimedBy := some claimedBy }

def claimedMessage (row : OutboxRow) : ClaimedMessage :=
  ⟨row.outboxId,row.messageId,row.subject,row.payload,row.attempts⟩

/-- Claims due messages for this publisher; `none` where a CHECK refuses the statement. -/
def claim (rows : List OutboxRow) (claimedBy : String) (limit : Nat) (locked : List Nat) (now : Timestamp) :
    Option (List OutboxRow × List ClaimedMessage) :=
  let taken := due rows limit locked (toOffset now)
  (Rows.update OutboxRow.checks (fun row => taken.contains row.outboxId) (claimedRow claimedBy now) rows).map fun later =>
    (later,(rows.filter fun row => taken.contains row.outboxId).map claimedMessage)

def publishedRow (now : Timestamp) (row : OutboxRow) : OutboxRow :=
  { row with publishedAt := some (toOffset now),claimedUntil := none,claimedBy := none,lastError := none }

def markPublished (rows : List OutboxRow) (outboxId : Nat) (now : Timestamp) : Option (List OutboxRow) :=
  Rows.update OutboxRow.checks (fun row => row.outboxId == outboxId) (publishedRow now) rows

/-- The backoff is that of the attempts before this one. -/
def failedRow (error : String) (now : Timestamp) (row : OutboxRow) : OutboxRow :=
  { row with
    attempts := row.attempts + 1
    lastError := some (safeError error)
    claimedUntil := none
    claimedBy := none
    nextAttemptAt := toOffset now + seconds (backoffSeconds row.attempts)
    deadLetteredAt := if maxAttempts ≤ row.attempts + 1 then some (toOffset now) else none }

def markFailed (rows : List OutboxRow) (outboxId : Nat) (error : String) (now : Timestamp) : Option (List OutboxRow) :=
  Rows.update OutboxRow.checks (fun row => row.outboxId == outboxId) (failedRow error now) rows

/-- Deletes published rows older than `before`; which ones, when there are more than the limit, is
up to the database. -/
def collectPublished (rows : List OutboxRow) (before : Timestamp) (limit : Nat) (chosen : List Nat) : List OutboxRow :=
  let old := rows.filter fun row => row.publishedAt.any (· < toOffset before) && chosen.contains row.outboxId
  let taken := (old.take limit).map OutboxRow.outboxId
  rows.filter fun row => !taken.contains row.outboxId

theorem mem_due (rows : List OutboxRow) (limit : Nat) (locked : List Nat) (now : Int) (outboxId : Nat)
    (taken : outboxId ∈ due rows limit locked now) : ∃ row ∈ rows, row.outboxId = outboxId ∧ isDue now row = true := by
  obtain ⟨row,member,rfl⟩ := List.mem_map.mp taken
  have stored := (List.mem_insertionSort earlier).mp (List.mem_of_mem_take member)
  obtain ⟨stored,free⟩ := List.mem_filter.mp stored
  exact ⟨row,stored,rfl,(Bool.and_eq_true_iff.mp free).1⟩

/-- With room for every row and nothing locked, whatever is due is taken. -/
theorem due_complete (rows : List OutboxRow) (limit : Nat) (room : rows.length ≤ limit) (now : Int) (row : OutboxRow)
    (stored : row ∈ rows) (free : isDue now row = true) : row.outboxId ∈ due rows limit [] now := by
  refine List.mem_map_of_mem ?_
  rw [List.take_of_length_le]
  · exact (List.mem_insertionSort earlier).mpr (List.mem_filter.mpr ⟨stored,by simpa using free⟩)
  · rw [List.length_insertionSort]
    exact (List.length_filter_le _ _).trans room

theorem claim_eq_some (rows later : List OutboxRow) (claimedBy : String) (limit : Nat) (locked : List Nat)
    (now : Timestamp) (messages : List ClaimedMessage) :
    claim rows claimedBy limit locked now = some (later,messages) ↔
      Rows.update OutboxRow.checks (fun row => (due rows limit locked (toOffset now)).contains row.outboxId)
        (claimedRow claimedBy now) rows = some later ∧
      messages = (rows.filter fun row => (due rows limit locked (toOffset now)).contains row.outboxId).map claimedMessage := by
  simp only [claim]
  cases Rows.update OutboxRow.checks (fun row => (due rows limit locked (toOffset now)).contains row.outboxId)
      (claimedRow claimedBy now) rows with
  | none => simp
  | some updated => simp [eq_comm (b := messages)]

/-- A row is collected only after it was published. -/
theorem mem_collectPublished (rows : List OutboxRow) (before : Timestamp) (limit : Nat) (chosen : List Nat)
    (unique : (rows.map OutboxRow.outboxId).Nodup) (row : OutboxRow) (stored : row ∈ rows) :
    row ∈ collectPublished rows before limit chosen ∨ row.publishedAt.isSome = true := by
  rw [collectPublished,List.mem_filter]
  by_cases taken : row.outboxId ∈ (((rows.filter fun row =>
      row.publishedAt.any (· < toOffset before) && chosen.contains row.outboxId).take limit).map OutboxRow.outboxId)
  · obtain ⟨other,member,same⟩ := List.mem_map.mp taken
    obtain ⟨there,old⟩ := List.mem_filter.mp (List.mem_of_mem_take member)
    obtain rfl := Rows.eq_of_key rows OutboxRow.outboxId unique there stored same
    right
    cases published : other.publishedAt with
    | none => simp [published] at old
    | some => rfl
  · exact Or.inl ⟨stored,by simpa using taken⟩

end Outbox

end Ratatoskr.Eventing
