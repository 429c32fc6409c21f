import Ratatoskr.Operations.Transition

/-! The tables of one operation, their CHECK constraints and the lifecycle guard. The progress,
result and diagnostic rows are only written by a transaction that holds the operation's row, so
they are kept in one record with it, in the order they were inserted. -/
namespace Ratatoskr.Operations

/-- One row of `operations.operations`; its status column holds one of the seven texts. -/
structure Operation where
  ownerUserId : UserId
  kind : String
  status : OperationStatus
  stage : Option String
  progressPercent : Option Nat
  correlationId : String
  idempotencyKey : Option String
  reporter : Option String
  retryable : Bool
  cancellationRequestedAt : Option Int
  acceptedAt : Int
  statusChangedAt : Int
  terminatedAt : Option Int
deriving DecidableEq

/-- One row of `operations.operation_progress` -/
structure ProgressEntry where
  observedAt : Int
  status : OperationStatus
  stage : Option String
  progressPercent : Option Nat
  message : Option String
deriving DecidableEq

/-- One row of `operations.operation_results` -/
structure OperationResult where
  resultKind : String
  target : String
  payload : OperationResultRef
  recordedAt : Int
deriving DecidableEq

/-- What `insert_diagnostic` stores: the severity is `error` for one envelope, `warning` for the other. -/
inductive Payload where
  | error (envelope : ErrorEnvelope)
  | warning (envelope : WarningEnvelope)
deriving DecidableEq

/-- One row of `operations.operation_errors` -/
structure Diagnostic where
  code : String
  message : String
  retryable : Bool
  payload : Payload
  recordedAt : Int
deriving DecidableEq

structure OperationRecord where
  operation : Operation
  progress : List ProgressEntry
  results : List OperationResult
  diagnostics : List Diagnostic
deriving DecidableEq

/-- One row of `operations.ai_archive_acceptances` -/
structure AiArchiveAcceptance where
  ownerUserId : UserId
  deviceId : Nat
  provider : String
  sha256 : String
  byteSize : Int
  acceptedAt : Int
deriving DecidableEq

section Checks

def stageIsBounded (stage : Option String) : Bool := stage.all (lengthBetween 1 60)

def percentIsAPercentage (percent : Option Nat) : Bool := percent.all (· ≤ 100)

/-- `^ratatoskr-[a-z0-9-]{1,56}$` -/
def isProducerName (reporter : String) : Bool :=
  let suffix := reporter.toList.drop 10
  reporter.toList.take 10 == "ratatoskr-".toList && 1 ≤ suffix.length && suffix.length ≤ 56 &&
    suffix.all fun c => c.isLower || c.isDigit || c == '-'

def Operation.checks (row : Operation) : Bool :=
  isDottedName row.kind && stageIsBounded row.stage && percentIsAPercentage row.progressPercent &&
  isNamespaced row.correlationId && row.idempotencyKey.all (lengthBetween 1 255) &&
  row.reporter.all isProducerName && row.acceptedAt ≤ row.statusChangedAt &&
  (statusIsTerminal (statusStr row.status) == row.terminatedAt.isSome) &&
  row.terminatedAt.all (row.acceptedAt ≤ ·)

def ProgressEntry.checks (row : ProgressEntry) : Bool :=
  stageIsBounded row.stage && percentIsAPercentage row.progressPercent && row.message.all isShortSafe

def OperationResult.checks (row : OperationResult) : Bool :=
  isDottedName row.resultKind && isNamespaced row.target

def Diagnostic.checks (row : Diagnostic) : Bool := isDottedName row.code && isShortSafe row.message

def isLowerHex (text : String) : Bool :=
  text.length == 64 && text.toList.all fun c => c.isDigit || ('a' ≤ c && c ≤ 'f')

def AiArchiveAcceptance.checks (row : AiArchiveAcceptance) : Bool :=
  (row.provider == "chatgpt" || row.provider == "claude") && isLowerHex row.sha256 && 0 < row.byteSize

/-- `operations.guard_status_transition`, false where it raises. -/
def guardStatusTransition (old new : Operation) : Bool :=
  if statusStr new.status = statusStr old.status then true
  else if statusIsTerminal (statusStr old.status) then false
  else
    match statusRank (statusStr new.status),statusRank (statusStr old.status) with
    | some after,some before =>
      if after ≤ before then false
      else if new.statusChangedAt < old.statusChangedAt then false
      else true
    | _,_ => true

def OperationRecord.checks (record : OperationRecord) : Bool :=
  record.operation.checks && record.progress.all ProgressEntry.checks &&
  record.results.all OperationResult.checks && record.diagnostics.all Diagnostic.checks

/-- What the database lets a statement make of the stored record. -/
def OperationRecord.admits (stored : Option OperationRecord) (offered : OperationRecord) : Bool :=
  offered.checks && stored.all fun old => guardStatusTransition old.operation offered.operation

end Checks

/-- The guard refuses exactly what the transition table does, apart from a clock set back. -/
theorem guard_status_transition_iff (old new : Operation) :
    guardStatusTransition old new = true ↔
      new.status = old.status ∨
        isTerminal old.status = false ∧ rank old.status < rank new.status ∧
          old.statusChangedAt ≤ new.statusChangedAt := by
  by_cases unchanged : new.status = old.status
  · simp [guardStatusTransition,unchanged]
  · have texts : statusStr new.status ≠ statusStr old.status := fun equal =>
      unchanged (status_str_injective equal)
    simp only [guardStatusTransition,texts,if_false,status_is_terminal_str,status_rank_str,unchanged,
      false_or]
    cases terminal : isTerminal old.status
    · by_cases lower : rank new.status ≤ rank old.status
      · simp [lower,Nat.not_lt.mpr lower]
      · simp [lower,Nat.not_le.mp lower]
    · simp

/-- On the diagonal of the two enforcement points: what `apply` advances, the guard lets pass. -/
theorem guard_status_transition_of_advance (old new : Operation) (status : OperationStatus)
    (advances : apply old.status new.status = .advance status)
    (later : old.statusChangedAt ≤ new.statusChangedAt) : guardStatusTransition old new = true := by
  obtain ⟨_,above⟩ := (apply_advance_iff _ _ _).mp advances
  refine (guard_status_transition_iff old new).mpr (Or.inr ⟨?_,above,later⟩)
  have bound := rank_le_terminal new.status
  cases terminal : isTerminal old.status
  · rfl
  · have top := (is_terminal_iff _).mp terminal
    omega

end Ratatoskr.Operations
