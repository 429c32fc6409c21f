import Ratatoskr.Contracts

/-! The inbox and outbox tables with their CHECK constraints. -/
namespace Ratatoskr.Eventing

/-- What handling a message produced. -/
inductive Outcome where
  | applied | duplicate | stale | rejected
deriving DecidableEq

/-- One row of `operations.inbox`; the message id is its key. -/
structure InboxRow where
  subject : String
  producer : String
  receivedAt : Int
  processedAt : Option Int
  outcome : Option Outcome
deriving DecidableEq

/-- One row of `operations.outbox` -/
structure OutboxRow where
  outboxId : Nat
  messageId : MessageId
  subject : String
  payload : String
  operationId : Option OperationId
  enqueuedAt : Int
  nextAttemptAt : Int
  attempts : Nat
  claimedUntil : Option Int
  claimedBy : Option String
  publishedAt : Option Int
  lastError : Option String
  deadLetteredAt : Option Int
deriving DecidableEq

def isDigitChar (low : Char) (c : Char) : Bool := low ≤ c && c ≤ '9'

/-- `v[1-9][0-9]{0,2}` -/
def isVersion : List Char → Bool
  | 'v' :: number => isToken (isDigitChar '1') (isDigitChar '0') 2 number
  | _ => false

/-- `^(cmd|evt)\.[a-z][a-z0-9_-]{0,31}(\.[a-z][a-z0-9_-]{0,31}){1,3}\.v[1-9][0-9]{0,2}$` -/
def isSubject (text : String) : Bool :=
  match text.toList.splitOn '.' with
  | [] => false
  | root :: rest =>
    let segments := rest.dropLast
    (root == "cmd".toList || root == "evt".toList) && 2 ≤ segments.length && segments.length ≤ 4 &&
      segments.all (isToken Char.isLower isNamespaceChar 31) && isVersion (rest.getLastD [])

def InboxRow.checks (row : InboxRow) : Bool :=
  isSubject row.subject && lengthBetween 1 64 row.producer &&
  (row.outcome.isSome == row.processedAt.isSome)

def OutboxRow.checks (row : OutboxRow) : Bool :=
  isSubject row.subject && (row.claimedUntil.isSome == row.claimedBy.isSome) &&
  row.claimedBy.all (lengthBetween 1 120) && row.lastError.all isShortSafe &&
  (row.publishedAt.isNone || row.deadLetteredAt.isNone) && row.publishedAt.all (row.enqueuedAt ≤ ·) &&
  row.payload.utf8ByteSize ≤ 786432

end Ratatoskr.Eventing
