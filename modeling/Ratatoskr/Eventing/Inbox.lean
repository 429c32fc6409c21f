import Ratatoskr.Eventing.Tables
import Ratatoskr.Json
import Ratatoskr.Lib.Protocol

/-! One delivery of a message: the inbox row and the handler's writes in one transaction. The
tables a handler writes are a parameter, so any handler of any consumer is covered. -/
namespace Ratatoskr.Eventing

open Transaction

variable {θ π ε τ : Type} {ρ : θ → Type}

/-- The inbox next to the tables of the handlers. -/
abbrev Key (θ : Type) := MessageId ⊕ θ

abbrev Row (ρ : θ → Type) : Key θ → Type := Beside (fun _ => InboxRow) ρ

/-- What the text columns take at all, whatever their CHECKs say. -/
def InboxRow.storable (row : InboxRow) : Bool := isText row.subject && isText row.producer

def constraints (tables : Constraints ρ) : Constraints (Row ρ)
  | .inl _,_,row => row.checks && row.storable
  | .inr key,stored,row => tables key stored row

structure Incoming (π : Type) where
  messageId : MessageId
  subject : String
  producer : String
  payload : π

inductive Reception where
  | first | duplicate
deriving DecidableEq

namespace Inbox

/-- The row `begin` offers. -/
def receivedRow (message : Incoming π) (now : Timestamp) : InboxRow :=
  ⟨message.subject,message.producer,toOffset now,none,none⟩

/-- Claims a message for handling, or finds that it has been seen. -/
def begin (message : Incoming π) (now : Timestamp) : Tx (Row ρ) β Reception := do
  let inserted ← Tx.insertUnlessConflict (ν := Row ρ) (.inl message.messageId) (receivedRow message now)
  pure (if inserted then .first else .duplicate)

def finish (messageId : MessageId) (outcome : Outcome) (now : Timestamp) : Tx (Row ρ) β Unit := do
  let _ ← Tx.updateWhere (ν := Row ρ) (.inl messageId) (fun _ => true) fun row : InboxRow =>
    { row with processedAt := some (toOffset now),outcome := some outcome }

end Inbox

/-- What a consumer does with a message, inside the transaction that holds its inbox row. -/
abbrev Handler (ρ : θ → Type) (π ε : Type) := Incoming π → Timestamp → Tx ρ ε Outcome

/-- Deduplicates a message, hands it to the handler and records what happened. Leaving with `none`
is the answer to a duplicate, leaving with an error the one to a failure. -/
def deliver (handler : Handler ρ π ε) (message : Incoming π) (now : Timestamp) :
    Tx (Row ρ) (Option ε) Outcome := do
  match ← Inbox.begin message now with
  | .duplicate => .abandon none
  | .first => do
    let outcome ← (handler message now).widen some
    Inbox.finish message.messageId outcome now
    pure outcome

end Ratatoskr.Eventing
