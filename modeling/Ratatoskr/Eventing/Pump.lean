import Mathlib.Logic.Function.Basic
import Ratatoskr.Eventing.Outbox
import Ratatoskr.Lib.Run

/-! Transactions that enqueue and processes that pump, statement by statement: the passes of
`run_once` share nothing but the outbox and the bus. -/
set_option linter.unusedSectionVars false

namespace Ratatoskr.Eventing

/-- What a publish returned. -/
inductive Answer where
  | acknowledged
  | failed (error : PublishError)
deriving DecidableEq

/-- A pass with the messages it still has to deal with, and the answer to the publish of the first
of them once there is one. -/
structure Pass where
  claimedBy : String
  now : Timestamp
  claimed : List ClaimedMessage
  answer : Option Answer
deriving DecidableEq

/-- A pass with nothing left to do is over. -/
def Pass.remaining (claimedBy : String) (now : Timestamp) : List ClaimedMessage → Option Pass
  | [] => none
  | message :: rest => some ⟨claimedBy,now,message :: rest,none⟩

/-- What becomes of a publish: a lost one has reached the bus, but its acknowledgement has not
come back. -/
inductive PublishOutcome where
  | acknowledged
  | lost (error : PublishError)
  | refused (error : PublishError)
deriving DecidableEq

def PublishOutcome.reached : PublishOutcome → Bool
  | refused _ => false
  | _ => true

def PublishOutcome.answer : PublishOutcome → Answer
  | acknowledged => .acknowledged
  | lost error | refused error => .failed error

/-- A message as it reached the bus. -/
structure Publication where
  outboxId : Nat
  messageId : MessageId
  instant : Timestamp
  acknowledged : Bool
deriving DecidableEq

/-- The committed rows, the rows of open transactions, the passes and what the bus has received;
`journal` remembers every row as it was committed. -/
structure Relay (κ τ : Type) where
  rows : List OutboxRow
  drafts : List (κ × OutboxRow)
  journal : List OutboxRow
  nextId : Nat
  passes : τ → Option Pass
  sent : List Publication

inductive RelayAction (κ τ : Type) where
  | enqueue (transaction : κ) (messageId : MessageId) (subject payload : String) (operationId : Option OperationId)
      (now : Timestamp)
  | commit (transaction : κ)
  | rollback (transaction : κ)
  | claim (process : τ) (claimedBy : String) (limit : Nat) (locked : List Nat) (now : Timestamp)
  | publish (process : τ) (instant : Timestamp) (outcome : PublishOutcome)
  | mark (process : τ)
  | crash (process : τ)
  | collect (before : Timestamp) (limit : Nat) (chosen : List Nat)

namespace Relay

variable {κ τ : Type} [DecidableEq κ] [DecidableEq τ]

def initial : Relay κ τ := ⟨[],[],[],0,fun _ => none,[]⟩

def setPass (s : Relay κ τ) (process : τ) (pass : Option Pass) : Relay κ τ :=
  { s with passes := Function.update s.passes process pass }

@[simp] theorem setPass_self (s : Relay κ τ) (process : τ) (pass : Option Pass) :
    (s.setPass process pass).passes process = pass := Function.update_self _ _ _

theorem setPass_other (s : Relay κ τ) (process other : τ) (pass : Option Pass) (different : other ≠ process) :
    (s.setPass process pass).passes other = s.passes other := Function.update_of_ne different _ _

/-- Ends the transaction without its rows. -/
def drop (s : Relay κ τ) (transaction : κ) : Relay κ τ :=
  { s with drafts := s.drafts.filter fun draft => draft.1 ≠ transaction }

/-- A row that a CHECK refuses ends its transaction; one whose message another open transaction
has enqueued has to wait for that one's end; a conflict with a committed row adds nothing. -/
def enqueue (s : Relay κ τ) (transaction : κ) (row : OutboxRow) : Option (Relay κ τ) :=
  let minted := { s with nextId := s.nextId + 1 }
  if !row.checks then some (minted.drop transaction)
  else if s.drafts.any fun draft => draft.1 ≠ transaction && draft.2.messageId == row.messageId then none
  else if (s.rows ++ s.drafts.map Prod.snd).any fun other => other.messageId == row.messageId then some minted
  else some { minted with drafts := s.drafts ++ [(transaction,row)] }

def commit (s : Relay κ τ) (transaction : κ) : Relay κ τ :=
  let written := (s.drafts.filter fun draft => draft.1 = transaction).map Prod.snd
  { s.drop transaction with rows := s.rows ++ written,journal := s.journal ++ written }

/-- What the bus has received after a publish. -/
def receive (s : Relay κ τ) (message : ClaimedMessage) (instant : Timestamp) (outcome : PublishOutcome) : Relay κ τ :=
  if outcome.reached then
    { s with sent := s.sent ++ [⟨message.outboxId,message.messageId,instant,outcome == .acknowledged⟩] }
  else s

/-- The statement that records how the publish of a message went. -/
def record (rows : List OutboxRow) (outboxId : Nat) (now : Timestamp) : Answer → Option (List OutboxRow)
  | .acknowledged => Outbox.markPublished rows outboxId now
  | .failed error => Outbox.markFailed rows outboxId error.text now

def step (s : Relay κ τ) : RelayAction κ τ → Option (Relay κ τ)
  | .enqueue transaction messageId subject payload operationId now =>
    s.enqueue transaction (Outbox.enqueuedRow s.nextId messageId subject payload operationId now)
  | .commit transaction => some (s.commit transaction)
  | .rollback transaction => some (s.drop transaction)
  | .claim process claimedBy limit locked now =>
    match s.passes process with
    | some _ => none
    | none =>
      match Outbox.claim s.rows claimedBy limit locked now with
      | none => some s
      | some (rows,claimed) => some ({ s with rows }.setPass process (Pass.remaining claimedBy now claimed))
  | .publish process instant outcome =>
    match s.passes process with
    | some ⟨claimedBy,now,message :: rest,none⟩ =>
      some ((s.receive message instant outcome).setPass process
        (some ⟨claimedBy,now,message :: rest,some outcome.answer⟩))
    | _ => none
  | .mark process =>
    match s.passes process with
    | some ⟨claimedBy,now,message :: rest,some answer⟩ =>
      match record s.rows message.outboxId now answer with
      -- an error ends the pass; what it still had claimed waits for the lease to lapse
      | none => some (s.setPass process none)
      | some rows => some ({ s with rows }.setPass process (Pass.remaining claimedBy now rest))
    | _ => none
  | .crash process => some (s.setPass process none)
  | .collect before limit chosen => some { s with rows := Outbox.collectPublished s.rows before limit chosen }

def Reachable (s : Relay κ τ) : Prop := ∃ actions, StateMachine.run step initial actions = some s

/-- What a step can do, with the guards it has passed. -/
inductive Stepped (s : Relay κ τ) : RelayAction κ τ → Relay κ τ → Prop where
  | refusedRow (transaction : κ) (messageId : MessageId) (subject payload : String) (operationId : Option OperationId)
      (now : Timestamp) : Stepped s (.enqueue transaction messageId subject payload operationId now)
        ({ s with nextId := s.nextId + 1 }.drop transaction)
  | conflict (transaction : κ) (messageId : MessageId) (subject payload : String) (operationId : Option OperationId)
      (now : Timestamp) (stored : ∃ other ∈ s.rows ++ s.drafts.map Prod.snd, other.messageId = messageId) :
      Stepped s (.enqueue transaction messageId subject payload operationId now) { s with nextId := s.nextId + 1 }
  | drafted (transaction : κ) (messageId : MessageId) (subject payload : String) (operationId : Option OperationId)
      (now : Timestamp) (row : OutboxRow)
      (offered : row = Outbox.enqueuedRow s.nextId messageId subject payload operationId now)
      (checks : row.checks = true)
      (free : ∀ other ∈ s.rows ++ s.drafts.map Prod.snd, other.messageId ≠ messageId) :
      Stepped s (.enqueue transaction messageId subject payload operationId now)
        { s with nextId := s.nextId + 1,drafts := s.drafts ++ [(transaction,row)] }
  | committed (transaction : κ) : Stepped s (.commit transaction) (s.commit transaction)
  | rolledBack (transaction : κ) : Stepped s (.rollback transaction) (s.drop transaction)
  | refusedClaim (process : τ) (claimedBy : String) (limit : Nat) (locked : List Nat) (now : Timestamp) :
      Stepped s (.claim process claimedBy limit locked now) s
  | claimed (process : τ) (claimedBy : String) (limit : Nat) (locked : List Nat) (now : Timestamp)
      (rows : List OutboxRow) (messages : List ClaimedMessage) (idle : s.passes process = none)
      (taken : Outbox.claim s.rows claimedBy limit locked now = some (rows,messages)) :
      Stepped s (.claim process claimedBy limit locked now)
        ({ s with rows }.setPass process (Pass.remaining claimedBy now messages))
  | published (process : τ) (instant : Timestamp) (outcome : PublishOutcome) (claimedBy : String) (now : Timestamp)
      (message : ClaimedMessage) (rest : List ClaimedMessage)
      (running : s.passes process = some ⟨claimedBy,now,message :: rest,none⟩) :
      Stepped s (.publish process instant outcome)
        ((s.receive message instant outcome).setPass process (some ⟨claimedBy,now,message :: rest,some outcome.answer⟩))
  | refusedMark (process : τ) (claimedBy : String) (now : Timestamp) (message : ClaimedMessage)
      (rest : List ClaimedMessage) (answer : Answer)
      (running : s.passes process = some ⟨claimedBy,now,message :: rest,some answer⟩)
      (refused : record s.rows message.outboxId now answer = none) : Stepped s (.mark process) (s.setPass process none)
  | marked (process : τ) (claimedBy : String) (now : Timestamp) (message : ClaimedMessage)
      (rest : List ClaimedMessage) (answer : Answer) (rows : List OutboxRow)
      (running : s.passes process = some ⟨claimedBy,now,message :: rest,some answer⟩)
      (recorded : record s.rows message.outboxId now answer = some rows) :
      Stepped s (.mark process) ({ s with rows }.setPass process (Pass.remaining claimedBy now rest))
  | crashed (process : τ) : Stepped s (.crash process) (s.setPass process none)
  | collected (before : Timestamp) (limit : Nat) (chosen : List Nat) : Stepped s (.collect before limit chosen)
      { s with rows := Outbox.collectPublished s.rows before limit chosen }

theorem step_cases (s next : Relay κ τ) (action : RelayAction κ τ) (stepped : step s action = some next) :
    Stepped s action next := by
  cases action with
  | enqueue transaction messageId subject payload operationId now =>
    simp only [step,enqueue] at stepped
    split at stepped
    · obtain rfl := Option.some.inj stepped
      exact .refusedRow transaction messageId subject payload operationId now
    · rename_i checked
      split at stepped
      · cases stepped
      · split at stepped
        · rename_i stored
          obtain rfl := Option.some.inj stepped
          obtain ⟨other,member,same⟩ := List.any_eq_true.mp stored
          exact .conflict transaction messageId subject payload operationId now ⟨other,member,beq_iff_eq.mp same⟩
        · rename_i free
          obtain rfl := Option.some.inj stepped
          refine .drafted transaction messageId subject payload operationId now _ rfl (by simpa using checked) ?_
          exact fun other member same => free (List.any_eq_true.mpr ⟨other,member,beq_iff_eq.mpr same⟩)
  | commit transaction =>
    obtain rfl := Option.some.inj stepped
    exact .committed transaction
  | rollback transaction =>
    obtain rfl := Option.some.inj stepped
    exact .rolledBack transaction
  | claim process claimedBy limit locked now =>
    simp only [step] at stepped
    split at stepped
    · cases stepped
    · rename_i idle
      split at stepped
      · obtain rfl := Option.some.inj stepped
        exact .refusedClaim process claimedBy limit locked now
      · rename_i rows messages taken
        obtain rfl := Option.some.inj stepped
        exact .claimed process claimedBy limit locked now rows messages idle taken
  | publish process instant outcome =>
    simp only [step] at stepped
    split at stepped
    · rename_i claimedBy now message rest running
      obtain rfl := Option.some.inj stepped
      exact .published process instant outcome claimedBy now message rest running
    · cases stepped
  | mark process =>
    simp only [step] at stepped
    split at stepped
    · rename_i claimedBy now message rest answer running
      split at stepped
      · rename_i refused
        obtain rfl := Option.some.inj stepped
        exact .refusedMark process claimedBy now message rest answer running refused
      · rename_i rows recorded
        obtain rfl := Option.some.inj stepped
        exact .marked process claimedBy now message rest answer rows running recorded
    · cases stepped
  | crash process =>
    obtain rfl := Option.some.inj stepped
    exact .crashed process
  | collect before limit chosen =>
    obtain rfl := Option.some.inj stepped
    exact .collected before limit chosen

end Relay

end Ratatoskr.Eventing
