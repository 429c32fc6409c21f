import Ratatoskr.Identity.Routes
import Ratatoskr.Lib.Files
import Ratatoskr.Lib.Run
import Ratatoskr.Operations.Interleaving
import Ratatoskr.PublicApi.Intake

/-! The transfer sessions of archive operations and the chunks recorded of them, with the statements
on them. Every statement is a transaction of its own. -/
namespace Ratatoskr.Archives

open Operations Transaction

/-- The text of a resumption token; it names the staging directory of its session. -/
abbrev Token := String

/-- Whether `name` is a token this service minted: `rst_` and 24 to 64 characters of `[0-9a-v]`. -/
def isTokenName (name : String) : Bool :=
  let rest := name.toList.drop 4
  name.toList.take 4 == "rst_".toList && 24 ≤ rest.length && rest.length ≤ 64 &&
    rest.all fun c => c.isDigit || ('a' ≤ c && c ≤ 'v')

/-- How a declared archive is cut into chunks. -/
structure UploadPlan where
  chunkLen : Nat → Option Nat
  expectedChunkCount : Nat

/-- The digest in lowercase hex, and the plans of the transfer contract: a plan has the chunks it counts. -/
structure Library where
  sha256 : List UInt8 → String
  plan : (declaredSizeBytes chunkSizeBytes : Nat) → Option UploadPlan
  counted : ∀ declaredSizeBytes chunkSizeBytes uploadPlan, plan declaredSizeBytes chunkSizeBytes = some uploadPlan →
    ∀ index, (uploadPlan.chunkLen index).isSome ↔ index < uploadPlan.expectedChunkCount

inductive SessionState where
  | open_ | finalized | failed
deriving DecidableEq

/-- One row of `operations.ai_archive_transfers` -/
structure Transfer where
  resumptionToken : Token
  operationId : OperationId
  declaredSizeBytes : Nat
  mediaType : String
  digestSha256 : String
  chunkSizeBytes : Nat
  expectedChunks : Nat
  sessionState : SessionState
  expiresAt : Int
  openedAt : Int
deriving DecidableEq

def Transfer.checks (row : Transfer) : Bool :=
  isTokenName row.resumptionToken && 0 < row.declaredSizeBytes && isLowerHex row.digestSha256 &&
  65536 ≤ row.chunkSizeBytes && row.chunkSizeBytes ≤ 16777216 &&
  1 ≤ row.expectedChunks && row.expectedChunks ≤ 10000 && row.openedAt < row.expiresAt

/-- One row of `operations.ai_archive_transfer_chunks`, by its token and index -/
structure Chunk where
  sha256 : String
  byteSize : Nat
deriving DecidableEq

def Chunk.checks (index : Nat) (row : Chunk) : Bool := index ≤ 9999 && isLowerHex row.sha256 && 0 < row.byteSize

structure Tables where
  operations : Db
  transfers : List Transfer
  chunks : Token → Nat → Option Chunk

/-- The believed caller of a request, with the device its session is bound to. -/
structure Principal where
  userId : UserId
  deviceId : Option Identity.DeviceId
  kind : Identity.SessionKind
deriving DecidableEq

/-- `is_export_agent`, where `found` is whether the device is stored as an active export agent of the user. -/
def isExportAgent (principal : Principal) (found : Bool) : Bool :=
  principal.deviceId.isSome && principal.kind == .device && found

def isSupportedProvider (provider : String) : Bool := provider == "chatgpt" || provider == "claude"

/-- What `transfer_binding` reads of a session. -/
structure TransferBinding where
  token : Token
  declaredSizeBytes : Nat
  chunkSizeBytes : Nat
  expectedChunks : Nat
  digestSha256 : String
  mediaType : String
  finalized : Bool
deriving DecidableEq

namespace Tables

variable (tables : Tables)

def acceptance (operationId : OperationId) : Option AiArchiveAcceptance := tables.operations (.archiveAcceptance operationId)

/-- The session of a token. -/
def session (token : Token) : Option Transfer := tables.transfers.find? (·.resumptionToken == token)

/-- The session of an operation. -/
def sessionOf (operationId : OperationId) : Option Transfer := tables.transfers.find? (·.operationId == operationId)

/-- A row that the lookup of a token takes at the instant `now`: finalized, or open and not expired. -/
def isLive (now : Int) (row : Transfer) : Bool :=
  row.sessionState == .finalized || (row.sessionState == .open_ && now < row.expiresAt)

/-- The statement of `transfer_binding`; `now` is the clock of the database. -/
def transferBinding (now : Int) (principal : Principal) (provider : String) (operationId : OperationId) (token : Token) :
    Option TransferBinding := do
  let row ← tables.session token
  let acceptance ← tables.acceptance row.operationId
  if row.operationId == operationId && isLive now row && acceptance.ownerUserId == principal.userId &&
      principal.deviceId == some acceptance.deviceId && acceptance.provider == provider then
    some ⟨token,row.declaredSizeBytes,row.chunkSizeBytes,row.expectedChunks,row.digestSha256,row.mediaType,
      row.sessionState == .finalized⟩
  else none

/-- `insert into ai_archive_transfers`; token and operation are unique, and the operation is an accepted one. -/
def insertTransfer (row : Transfer) : Option Tables :=
  if row.checks && (tables.acceptance row.operationId).isSome &&
      !(tables.transfers.any fun other =>
        other.resumptionToken == row.resumptionToken || other.operationId == row.operationId) then
    some { tables with transfers := tables.transfers ++ [row] }
  else none

/-- `delete from ai_archive_transfers where ..`; the chunks of a session go with it. -/
def deleteTransfers (gone : Transfer → Bool) : Tables :=
  { tables with
    transfers := tables.transfers.filter fun row => !gone row
    chunks := fun token =>
      if tables.transfers.any fun row => gone row && row.resumptionToken == token then fun _ => none
      else tables.chunks token }

/-- `update .. set session_state = .. where resumption_token = .. and session_state = 'open'` -/
def endTransfer (token : Token) (state : SessionState) : Tables :=
  { tables with
    transfers := tables.transfers.map fun row =>
      if row.resumptionToken == token && row.sessionState == .open_ then { row with sessionState := state } else row }

/-- `insert into ai_archive_transfer_chunks` -/
def insertChunk (token : Token) (index : Nat) (chunk : Chunk) : Option Tables :=
  if chunk.checks index && (tables.session token).isSome && (tables.chunks token index).isNone then
    some { tables with
      chunks := Function.update tables.chunks token (Function.update (tables.chunks token) index (some chunk)) }
  else none

/-- The chunks of a session in the order of their indices, none of which is above 9999. -/
def chunkRows (token : Token) : List (Nat × Chunk) :=
  (List.range 10000).filterMap fun index => (tables.chunks token index).map fun chunk => (index,chunk)

/-- `fail_ai_archive_delivery`; its transaction rolls back where it fails. -/
def failDelivery (operationId : OperationId) (now : Timestamp) : Tables :=
  match exec schema (failAiArchiveDelivery operationId now) tables.operations with
  | .done _ later => { tables with operations := later }
  | _ => tables

/-- A status report of the importer, as far as the operation's own row goes. -/
def recordStatus (operationId : OperationId) (status : OperationStatus) (stage : Option String)
    (percent : Option Nat) (message : Option String) (now : Timestamp) : Tables :=
  match exec schema (Operations.recordStatus (β := OperationError) operationId status stage percent message now) tables.operations with
  | .done _ later => { tables with operations := later }
  | _ => tables

section Statements

variable {tables} {later : Tables}

theorem session_eq_some {token : Token} {row : Transfer} (found : tables.session token = some row) :
    row ∈ tables.transfers ∧ row.resumptionToken = token :=
  ⟨List.mem_of_find?_eq_some found,by simpa using List.find?_some found⟩

theorem sessionOf_eq_some {operationId : OperationId} {row : Transfer} (found : tables.sessionOf operationId = some row) :
    row ∈ tables.transfers ∧ row.operationId = operationId :=
  ⟨List.mem_of_find?_eq_some found,by simpa using List.find?_some found⟩

theorem session_isSome {row : Transfer} (stored : row ∈ tables.transfers) : (tables.session row.resumptionToken).isSome :=
  List.find?_isSome.mpr ⟨row,stored,beq_self_eq_true _⟩

/-- What an insert that was not refused did. -/
structure Inserted (tables : Tables) (row : Transfer) (later : Tables) : Prop where
  operations : later.operations = tables.operations
  chunks : later.chunks = tables.chunks
  transfers : later.transfers = tables.transfers ++ [row]
  checks : row.checks = true
  apart : ∀ other ∈ tables.transfers,
    other.resumptionToken ≠ row.resumptionToken ∧ other.operationId ≠ row.operationId

theorem insertTransfer_eq_some {row : Transfer} (made : tables.insertTransfer row = some later) : Inserted tables row later := by
  rw [insertTransfer] at made
  split at made
  · rename_i free
    obtain rfl := Option.some.inj made
    simp only [Bool.and_eq_true,Bool.not_eq_true',List.any_eq_false,Bool.or_eq_true,beq_iff_eq,not_or] at free
    exact ⟨rfl,rfl,rfl,free.1.1,free.2⟩
  · cases made

/-- A row after the delete is one that was not to go. -/
theorem mem_deleteTransfers {gone : Transfer → Bool} {row : Transfer} :
    row ∈ (tables.deleteTransfers gone).transfers ↔ row ∈ tables.transfers ∧ gone row = false := by
  simp [deleteTransfers]

/-- The row as the conditional update leaves it. -/
def ended (token : Token) (state : SessionState) (row : Transfer) : Transfer :=
  if row.resumptionToken == token && row.sessionState == .open_ then { row with sessionState := state } else row

theorem mem_endTransfer {token : Token} {state : SessionState} {row : Transfer} :
    row ∈ (tables.endTransfer token state).transfers ↔ ∃ old ∈ tables.transfers, row = ended token state old := by
  simp only [endTransfer,List.mem_map]
  exact exists_congr fun old => and_congr_right fun _ => eq_comm

theorem ended_cases (token : Token) (state : SessionState) (row : Transfer) :
    ended token state row = row ∨
      row.resumptionToken = token ∧ row.sessionState = .open_ ∧ ended token state row = { row with sessionState := state } := by
  rw [ended]
  split
  · rename_i matched
    simp only [Bool.and_eq_true,beq_iff_eq] at matched
    exact Or.inr ⟨matched.1,matched.2,rfl⟩
  · exact Or.inl rfl

@[simp] theorem ended_token (token : Token) (state : SessionState) (row : Transfer) :
    (ended token state row).resumptionToken = row.resumptionToken := by
  rw [ended]
  split <;> rfl

@[simp] theorem ended_operation (token : Token) (state : SessionState) (row : Transfer) :
    (ended token state row).operationId = row.operationId := by
  rw [ended]
  split <;> rfl

/-- What the insert of a chunk that was not refused did. -/
structure Recorded (tables : Tables) (token : Token) (index : Nat) (chunk : Chunk) (later : Tables) : Prop where
  operations : later.operations = tables.operations
  transfers : later.transfers = tables.transfers
  chunks : later.chunks = Function.update tables.chunks token (Function.update (tables.chunks token) index (some chunk))
  absent : tables.chunks token index = none
  bounded : index ≤ 9999
  session : (tables.session token).isSome

theorem insertChunk_eq_some {token : Token} {index : Nat} {chunk : Chunk}
    (made : tables.insertChunk token index chunk = some later) : Recorded tables token index chunk later := by
  rw [insertChunk] at made
  split at made
  · rename_i free
    obtain rfl := Option.some.inj made
    simp only [Bool.and_eq_true,Option.isNone_iff_eq_none,Chunk.checks,decide_eq_true_eq] at free
    exact ⟨rfl,rfl,rfl,free.2,free.1.1.1.1,free.1.2⟩
  · cases made

theorem mem_chunkRows {token : Token} {index : Nat} {chunk : Chunk} :
    (index,chunk) ∈ tables.chunkRows token ↔ index ≤ 9999 ∧ tables.chunks token index = some chunk := by
  simp only [chunkRows,List.mem_filterMap,List.mem_range,Option.map_eq_some_iff,Prod.mk.injEq]
  constructor
  · rintro ⟨_,below,_,stored,rfl,rfl⟩
    exact ⟨Nat.le_of_lt_succ below,stored⟩
  · rintro ⟨bounded,stored⟩
    exact ⟨index,Nat.lt_succ_of_le bounded,chunk,stored,rfl,rfl⟩

/-- The operations after a statement that may end one of them. -/
structure OperationMoved (operations later : Db) : Prop where
  others : ∀ key, (∀ operationId, key ≠ .operation operationId) → later key = operations key
  still : ∀ operationId record, operations (.operation operationId) = some record →
    isTerminal (OperationRecord.operation record).status = true → later (.operation operationId) = some record
  checked : (∀ operationId record, operations (.operation operationId) = some record → OperationRecord.checks record = true) →
    ∀ operationId record, later (.operation operationId) = some record → OperationRecord.checks record = true

theorem OperationMoved.refl (operations : Db) : OperationMoved operations operations :=
  ⟨fun _ _ => rfl,fun _ _ stored _ => stored,id⟩

theorem OperationMoved.update {operations : Db} {operationId : OperationId} {record final : OperationRecord}
    {changes : List (OperationRecord → OperationRecord)} (stored : operations (.operation operationId) = some record)
    (live : isTerminal record.operation.status = false) (applied : applyChanges record changes = .ok final) :
    OperationMoved operations (Function.update operations (.operation operationId) (some final)) where
  others key other := Function.update_of_ne (other operationId) _ _
  still other old found terminal := by
    by_cases same : other = operationId
    · subst same
      obtain rfl := Option.some.inj (stored.symm.trans found)
      rw [live] at terminal
      cases terminal
    · rw [Function.update_of_ne fun equal => same (Table.operation.inj equal)]
      exact found
  checked checks other found there := by
    by_cases same : other = operationId
    · subst same
      rw [Function.update_self] at there
      exact Option.some.inj there ▸ applyChanges_checks record final changes (checks _ _ stored) applied
    · rw [Function.update_of_ne fun equal => same (Table.operation.inj equal)] at there
      exact checks other found there

/-- A report leaves the operations, or moves one of them on that had not ended. -/
theorem recordStatus_cases (tables : Tables) (operationId : OperationId) (status : OperationStatus) (stage : Option String)
    (percent : Option Nat) (message : Option String) (now : Timestamp) :
    tables.recordStatus operationId status stage percent message now = tables ∨
      ∃ record final, ∃ advanced : OperationStatus, tables.operations (.operation operationId) = some record ∧
        isTerminal (OperationRecord.operation record).status = false ∧
        applyChanges record (advanceChanges advanced stage percent message now) = .ok final ∧
        tables.recordStatus operationId status stage percent message now =
          { tables with operations := Function.update tables.operations (.operation operationId) (some final) } := by
  rw [recordStatus]
  cases stored : tables.operations (.operation operationId) with
  | none =>
    rw [exec_recordStatus_absent _ _ stored]
    exact Or.inl rfl
  | some record =>
    rw [exec_recordStatus _ _ record stored]
    cases moved : apply (OperationRecord.operation record).status status with
    | duplicate | stale | conflict => exact Or.inl rfl
    | advance advanced =>
      have live : isTerminal (OperationRecord.operation record).status = false :=
        Bool.eq_false_iff.mpr fun terminal => apply_terminal _ _ _ terminal moved
      dsimp only
      cases applied : applyChanges record (advanceChanges advanced stage percent message now) with
      | ok final => exact Or.inr ⟨record,final,advanced,rfl,live,applied,rfl⟩
      | error refused => exact Or.inl rfl

/-- The end of a delivery leaves the operations, or fails one of them that had not ended. -/
theorem failDelivery_cases (tables : Tables) (operationId : OperationId) (now : Timestamp) :
    tables.failDelivery operationId now = tables ∨
      ∃ record final, tables.operations (.operation operationId) = some record ∧
        isTerminal (OperationRecord.operation record).status = false ∧
        applyChanges record (failChanges (some "delivery") deliveryFailed.message.val deliveryFailed now) = .ok final ∧
        tables.failDelivery operationId now =
          { tables with operations := Function.update tables.operations (.operation operationId) (some final) } := by
  rw [failDelivery,failAiArchiveDelivery]
  cases stored : tables.operations (.operation operationId) with
  | none =>
    rw [exec_fail_absent _ _ _ stored]
    exact Or.inl rfl
  | some record =>
    rw [exec_failOperation _ _ _ record stored]
    cases moved : apply (OperationRecord.operation record).status .failed with
    | duplicate | stale | conflict => exact Or.inl rfl
    | advance advanced =>
      have live : isTerminal (OperationRecord.operation record).status = false :=
        Bool.eq_false_iff.mpr fun terminal => apply_terminal _ _ _ terminal moved
      dsimp only
      cases applied : applyChanges record
          (failChanges (some "delivery") deliveryFailed.message.val deliveryFailed now) with
      | ok final => exact Or.inr ⟨record,final,rfl,live,applied,rfl⟩
      | error refused => exact Or.inl rfl

theorem recordStatus_moved (operationId : OperationId) (status : OperationStatus) (stage : Option String)
    (percent : Option Nat) (message : Option String) (now : Timestamp) :
    OperationMoved tables.operations (tables.recordStatus operationId status stage percent message now).operations := by
  rcases recordStatus_cases tables operationId status stage percent message now with
    same | ⟨record,final,advanced,stored,live,applied,same⟩
  · exact same.symm ▸ .refl _
  · exact same.symm ▸ .update stored live applied

theorem failDelivery_moved (operationId : OperationId) (now : Timestamp) :
    OperationMoved tables.operations (tables.failDelivery operationId now).operations := by
  rcases failDelivery_cases tables operationId now with same | ⟨record,final,stored,live,applied,same⟩
  · exact same.symm ▸ .refl _
  · exact same.symm ▸ .update stored live applied

end Statements

end Tables

/-- The names of the files in a staging directory. The name of a temporary file has an id that its
request drew; the request's number stands for it. -/
inductive FileName where
  | chunk (index : Nat)
  | temporary (index request : Nat)
  | assembling
  | verified
deriving DecidableEq

abbrev Staging := Files.Tree Token FileName UInt8

abbrev StagedFile := Files.File Token FileName

end Ratatoskr.Archives
