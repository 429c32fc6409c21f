import Mathlib.Algebra.Group.Nat.Defs
import Mathlib.Data.Prod.Lex
import Ratatoskr.Lib.Keyset
import Ratatoskr.Lib.Text
import Ratatoskr.PublicApi.Intake

/-! The listings that answer a page at a time, newest first: a user's operations, the operations of the
deployment, the audit trail. -/
namespace Ratatoskr

/-- The epoch of the database in microseconds, counted from the one of `jiff`. -/
def databaseEpoch : Int := 946684800000000

def asMicrosecond (value : Timestamp) : Int := (value + 1000 * databaseEpoch).tdiv 1000

/-- A `jiff::Timestamp` can be built of these microseconds. -/
def InRange (micros : Int) : Prop := -377705023201000000 ≤ micros ∧ micros ≤ 253402207200999999

instance (micros : Int) : Decidable (InRange micros) := inferInstanceAs (Decidable (_ ∧ _))

def fromMicrosecond (micros : Int) : Option Timestamp :=
  if InRange micros then some (1000 * (micros - databaseEpoch)) else none

/-- A text of an `i64`. -/
def parseI64 (raw : String) : Option Int :=
  (Text.ofDecimal raw.toList).filter fun value => -9223372036854775808 ≤ value ∧ value ≤ 9223372036854775807

def uuidBound : Nat := 340282366920938463463374607431768211456

/-- The text of a UUID and the ways to write one. -/
structure UuidText where
  text : Nat → String
  parse : String → Option Nat
  parse_text : ∀ id, id < uuidBound → parse (text id) = some id

def UuidText.canonical (uuid : UuidText) (raw : String) : Option Nat :=
  (uuid.parse raw).filter fun id => uuid.text id == raw

theorem UuidText.canonical_text (uuid : UuidText) {id : Nat} (bound : id < uuidBound) :
    uuid.canonical (uuid.text id) = some id := by
  simp [UuidText.canonical,uuid.parse_text id bound]

section Canonical

/-- The last `k` hexadecimal digits of a number. -/
def hexDigits : Nat → Nat → List Char
  | 0,_ => []
  | k + 1,n => hexDigits k (n / 16) ++ [Nat.digitChar (n % 16)]

theorem hexDigits_length (k n : Nat) : (hexDigits k n).length = k := by
  induction k generalizing n with
  | zero => rfl
  | succ k ih => simp [hexDigits,ih]

theorem hexDigits_append (k l n : Nat) : hexDigits (k + l) n = hexDigits k (n / 16 ^ l) ++ hexDigits l n := by
  induction l generalizing n with
  | zero => simp [hexDigits]
  | succ l ih =>
    rw [Nat.add_succ,hexDigits,hexDigits,ih,Nat.div_div_eq_div_mul,Nat.pow_succ',List.append_assoc]

theorem hexValue_digitChar : ∀ digit, digit < 16 → hexValue (Nat.digitChar digit) = some digit := by decide

theorem alphanum_of_mem_hexDigits {k n : Nat} {c : Char} (member : c ∈ hexDigits k n) : c.isAlphanum = true := by
  have digit : ∀ digit, digit < 16 → (Nat.digitChar digit).isAlphanum = true := by decide
  induction k generalizing n with
  | zero => simp [hexDigits] at member
  | succ k ih =>
    rcases List.mem_append.mp member with earlier | last
    · exact ih earlier
    · rw [List.mem_singleton.mp last]
      exact digit _ (Nat.mod_lt _ (by omega))

theorem dash_not_mem_hexDigits (k n : Nat) : '-' ∉ hexDigits k n :=
  fun member => absurd (alphanum_of_mem_hexDigits member) (by decide)

theorem hexNumber_hexDigits (k n : Nat) : hexNumber (hexDigits k n) = some (n % 16 ^ k) := by
  induction k generalizing n with
  | zero => simp [hexDigits,hexNumber,Nat.mod_one]
  | succ k ih =>
    have last := hexValue_digitChar (n % 16) (Nat.mod_lt _ (by omega))
    rw [hexDigits,hexNumber,List.foldl_append,← hexNumber,ih]
    simp only [List.foldl_cons,List.foldl_nil,last,Option.bind_eq_bind,Option.bind_some,Option.pure_def,
      Option.some.injEq]
    rw [Nat.pow_succ',Nat.mod_mul]
    omega

/-- The five groups of a UUID. -/
def uuidGroups (id : Nat) : List (List Char) :=
  [hexDigits 8 (id / 16 ^ 12 / 16 ^ 4 / 16 ^ 4 / 16 ^ 4),hexDigits 4 (id / 16 ^ 12 / 16 ^ 4 / 16 ^ 4),
    hexDigits 4 (id / 16 ^ 12 / 16 ^ 4),hexDigits 4 (id / 16 ^ 12),hexDigits 12 id]

/-- The hyphenated lower-case form alone. -/
def hyphenatedUuid : UuidText where
  text id := String.ofList (['-'].intercalate (uuidGroups id))
  parse raw :=
    let groups := raw.toList.splitOn '-'
    if groups.map List.length = [8,4,4,4,12] then hexNumber groups.flatten else none
  parse_text id bound := by
    have groups : (['-'].intercalate (uuidGroups id)).splitOn '-' = uuidGroups id :=
      List.splitOn_intercalate '-' (by simp [uuidGroups,dash_not_mem_hexDigits]) (by simp [uuidGroups])
    have lengths : (uuidGroups id).map List.length = [8,4,4,4,12] := by simp [uuidGroups,hexDigits_length]
    have digits : (uuidGroups id).flatten = hexDigits 32 id := by
      rw [show 32 = 8 + 4 + 4 + 4 + 12 from rfl,hexDigits_append,hexDigits_append,hexDigits_append,hexDigits_append]
      simp [uuidGroups]
    rw [String.toList_ofList,groups,if_pos lengths,digits,hexNumber_hexDigits]
    exact congrArg some (Nat.mod_eq_of_lt bound)

theorem hyphenated_length (id : Nat) : (hyphenatedUuid.text id).toList.length = 36 := by
  simp [hyphenatedUuid,uuidGroups,List.intercalate,hexDigits_length]

theorem hyphenated_chars {id : Nat} {c : Char} (member : c ∈ (hyphenatedUuid.text id).toList) :
    c.isAlphanum = true ∨ c = '-' := by
  rw [hyphenatedUuid,String.toList_ofList] at member
  rcases Text.mem_intercalate member with dash | ⟨group,isGroup,inside⟩
  · exact Or.inr dash
  · simp only [uuidGroups,List.mem_cons,List.not_mem_nil,or_false] at isGroup
    rcases isGroup with rfl | rfl | rfl | rfl | rfl
    all_goals exact Or.inl (alphanum_of_mem_hexDigits inside)

end Canonical

section Queries

variable {ρ : Type} (place : ρ → Int × Nat) (wanted : ρ → Bool)

/-- The row comparison `(instant, id) < (instant, id)` -/
def rowLess (a b : Int × Nat) : Bool := a.1 < b.1 || a.1 == b.1 && a.2 < b.2

/-- Where a row stands, as the program reads it and a cursor carries it. -/
abbrev Anchor := Timestamp × Nat

def Anchor.bound (anchor : Anchor) : Int × Nat := (toOffset anchor.1,anchor.2)

def readPlace (row : ρ) : Anchor := (fromOffset (place row).1,(place row).2)

/-- `select .. where .. order by instant desc, id desc limit ..` -/
def selectBefore (before : Option Anchor) (limit : Nat) (stored : List ρ) : List ρ :=
  ((stored.filter fun row => wanted row && before.all fun anchor => rowLess (place row) anchor.bound).mergeSort
    fun a b => !rowLess (place a) (place b)).take limit

/-- A page of rows, and whether more are left. -/
structure Page (ρ : Type) where
  rows : List ρ
  hasMore : Bool

/-- One row more than the limit is fetched. -/
def Page.fetch (before : Option Anchor) (limit : Int) (stored : List ρ) : Page ρ :=
  let limit := limit.toNat
  let rows := selectBefore place wanted before (min (limit + 1) 9223372036854775807) stored
  ⟨rows.take limit,decide (limit < rows.length)⟩

/-- A cursor is written for the last row of a page, when more are left. -/
def Page.nextCursor (page : Page ρ) (encode : ρ → Option String) : Option String :=
  (if page.hasMore then page.rows.getLast? else none).bind encode

/-- All the rows that are wanted, newest first. -/
def listed (stored : List ρ) : List ρ :=
  (stored.filter wanted).mergeSort fun a b => !rowLess (place a) (place b)

end Queries

namespace Operations

/-- One row of `operations.operations`, with the rows that belong to it. -/
abbrev StoredOperation := OperationId × OperationRecord

def StoredOperation.place (row : StoredOperation) : Int × Nat := (row.2.operation.acceptedAt,row.1)

structure ListScope where
  ownerUserId : UserId
  status : Option OperationStatus
  kind : Option String
  before : Option Anchor
  limit : Int

def ListScope.wants (scope : ListScope) (row : StoredOperation) : Bool :=
  row.2.operation.ownerUserId == scope.ownerUserId && scope.status.all (row.2.operation.status == ·) &&
    scope.kind.all (row.2.operation.kind == ·)

def listOperations (stored : List StoredOperation) (scope : ListScope) : Page StoredOperation :=
  .fetch StoredOperation.place scope.wants scope.before scope.limit stored

structure AdminListScope where
  ownerUserId : Option UserId
  status : Option OperationStatus
  kind : Option String
  before : Option Anchor
  limit : Int

def AdminListScope.wants (scope : AdminListScope) (row : StoredOperation) : Bool :=
  scope.ownerUserId.all (row.2.operation.ownerUserId == ·) && scope.status.all (row.2.operation.status == ·) &&
    scope.kind.all (row.2.operation.kind == ·)

def listAdminOperations (stored : List StoredOperation) (scope : AdminListScope) : Page StoredOperation :=
  .fetch StoredOperation.place scope.wants scope.before scope.limit stored

/-- The code of the latest error; of two at one instant, of the one inserted later. -/
def OperationRecord.failureCode (record : OperationRecord) : Option String :=
  let errors := record.diagnostics.filter fun row => match row.payload with | .error _ => true | .warning _ => false
  (errors.foldl (fun latest row => match latest with
    | none => some row
    | some best => if best.recordedAt ≤ row.recordedAt then some row else some best) none).map (·.code)

end Operations

/-- One row of `identity.audit_events` with its id. -/
abbrev StoredEvent := Nat × AuditEvent

def StoredEvent.place (row : StoredEvent) : Int × Nat := (row.2.occurredAt,row.1)

structure AuditListScope where
  before : Option Anchor
  limit : Int

def listAdminEvents (stored : List StoredEvent) (scope : AuditListScope) : Page StoredEvent :=
  .fetch StoredEvent.place (fun _ => true) scope.before scope.limit stored

namespace PublicApi

open Operations

/-- One page as it is answered. -/
structure Listed (ι : Type) where
  items : List ι
  nextCursor : Option String

/-- The query string of a listing, as text. -/
structure ListParams where
  state : Option String
  kind : Option String
  ownerUserId : Option String
  limit : Option String
  cursor : Option String

/-- What the contracts decide of an inspection, beyond their grammars of names. -/
structure InspectionContract where
  status : String → Option OperationStatus
  cursor : String → Bool
  auditAction : String → Bool
  auditTargetKind : String → Bool
  pageLength : Nat → Bool

structure OperationSummary where
  operationId : OperationId
  kind : String
  status : OperationStatus
  stage : Option String
  progressPercent : Option Nat
  retryable : Bool
  correlationId : String
  acceptedAt : Timestamp
  statusChangedAt : Timestamp
  terminatedAt : Option Timestamp

def OperationSummary.of (row : StoredOperation) : OperationSummary where
  operationId := row.1
  kind := row.2.operation.kind
  status := row.2.operation.status
  stage := row.2.operation.stage
  progressPercent := row.2.operation.progressPercent
  retryable := row.2.operation.retryable
  correlationId := row.2.operation.correlationId
  acceptedAt := fromOffset row.2.operation.acceptedAt
  statusChangedAt := fromOffset row.2.operation.statusChangedAt
  terminatedAt := row.2.operation.terminatedAt.map fromOffset

structure OperationInspectionSummary where
  operationId : OperationId
  ownerUserId : UserId
  kind : OperationKind
  status : OperationStatus
  acceptedAt : Timestamp
  statusChangedAt : Timestamp
  failureCode : Option ErrorCode

/-- `summary` of an inspected operation, if the contracts take what is stored. -/
def OperationInspectionSummary.of (row : StoredOperation) : Option OperationInspectionSummary := do
  let kind ← Checked.parse isContractName row.2.operation.kind
  let failureCode ← row.2.failureCode.mapM (Checked.parse isContractName)
  return {
    operationId := row.1, ownerUserId := row.2.operation.ownerUserId, kind, status := row.2.operation.status
    acceptedAt := fromOffset row.2.operation.acceptedAt
    statusChangedAt := fromOffset row.2.operation.statusChangedAt, failureCode }

structure AuditEventSummary where
  auditEventId : Nat
  occurredAt : Timestamp
  actorUserId : Option UserId
  actorSessionId : Option Nat
  action : String
  targetKind : String
  targetId : Option Nat
  outcome : AuditOutcome
  correlationId : EntityRef

/-- `summary` of an audit event. -/
def AuditEventSummary.of (contract : InspectionContract) (row : StoredEvent) : Option AuditEventSummary :=
  if contract.auditAction row.2.action && contract.auditTargetKind row.2.targetKind then do
    let correlationId ← Checked.parse isNamespaced row.2.correlationId
    return {
      auditEventId := row.1, occurredAt := fromOffset row.2.occurredAt, actorUserId := row.2.actorUserId
      actorSessionId := row.2.actorSessionId, action := row.2.action, targetKind := row.2.targetKind
      targetId := row.2.targetId, outcome := row.2.outcome, correlationId }
  else none

section Parameters

/-- A member of the query string that may be absent. -/
def parameter {α : Type} (parse : String → Option α) : Option String → Except FailureKind (Option α)
  | none => .ok none
  | some raw =>
    match parse raw with
    | some value => .ok (some value)
    | none => .error .invalidRequest

def defaultPageSize : Int := 20

def maxPageSize : Int := 100

def pageSize : Option String → Except FailureKind Int
  | none => .ok defaultPageSize
  | some raw =>
    match parseI64 raw with
    | some value => if 1 ≤ value ∧ value ≤ maxPageSize then .ok value else .error .invalidRequest
    | none => .error .invalidRequest

/-- No cursor and an empty one start at the newest row. -/
def anchorOf (decode : String → Option Anchor) : Option String → Except FailureKind (Option Anchor)
  | none => .ok none
  | some raw =>
    if raw = "" then .ok none
    else
      match decode raw with
      | some anchor => .ok (some anchor)
      | none => .error .invalidRequest

end Parameters

section Cursors

variable (uuid : UuidText) (contract : InspectionContract)

/-- The text of an anchor: its microseconds, a separator, its id. -/
def anchorText (sep : Char) (anchor : Anchor) : String :=
  String.ofList (Text.decimal (asMicrosecond anchor.1) ++ sep :: (uuid.text anchor.2).toList)

/-- `encode_cursor` of a user's listing. -/
def encodeCursor (anchor : Anchor) : String := anchorText uuid '.' anchor

def decodeCursor (raw : String) : Option Anchor := do
  let (micros,identifier) ← Text.splitOnce '.' raw.toList
  let operationId ← uuid.parse (String.ofList identifier)
  let acceptedAt ← fromMicrosecond (← parseI64 (String.ofList micros))
  return (acceptedAt,operationId)

/-- `encode_cursor` of an inspection. -/
def encodeInspectionCursor (anchor : Anchor) : Option String :=
  if contract.cursor (anchorText uuid '_' anchor) then some (anchorText uuid '_' anchor) else none

def decodeInspectionCursor (raw : String) : Option Anchor :=
  if contract.cursor raw then do
    let (micros,identifier) ← Text.splitOnce '_' raw.toList
    let acceptedAt ← fromMicrosecond (← parseI64 (String.ofList micros))
    let operationId ← uuid.canonical (String.ofList identifier)
    return (acceptedAt,operationId)
  else none

end Cursors

section Handlers

variable (uuid : UuidText) (contract : InspectionContract)

/-- `require_owner`, by what the lookup of the grant answered. -/
def requireOwner : Option Bool → Except FailureKind Unit
  | some true => .ok ()
  | some false => .error .forbidden
  | none => .error .requestTimeout

/-- The page of an inspection; a row or a page that the contracts refuse is not answered. -/
def inspected {ρ ι : Type} (page : Page ρ) (summary : ρ → Option ι) (nextCursor : Option String) :
    Except FailureKind (Listed ι) :=
  match page.rows.mapM summary with
  | some items => if contract.pageLength items.length then .ok ⟨items,nextCursor⟩ else .error .requestTimeout
  | none => .error .requestTimeout

/-- `GET /v1/operations` -/
def listOwn (params : ListParams) (userId : UserId) (stored : List StoredOperation) :
    Except FailureKind (Listed OperationSummary) := do
  let status ← parameter contract.status params.state
  let kind ← parameter (fun raw => if isDottedName raw then some raw else none) params.kind
  let limit ← pageSize params.limit
  let before ← anchorOf (decodeCursor uuid) params.cursor
  let page := listOperations stored ⟨userId,status,kind,before,limit⟩
  return ⟨page.rows.map .of,page.nextCursor fun last => some (encodeCursor uuid (readPlace StoredOperation.place last))⟩

/-- `GET /v1/admin/operations` -/
def inspectOperations (params : ListParams) (owner : Option Bool) (stored : List StoredOperation) :
    Except FailureKind (Listed OperationInspectionSummary) := do
  requireOwner owner
  let status ← parameter contract.status params.state
  let kind ← parameter (fun raw => if isContractName raw then some raw else none) params.kind
  let ownerUserId ← parameter uuid.canonical params.ownerUserId
  let limit ← pageSize params.limit
  let before ← anchorOf (decodeInspectionCursor uuid contract) params.cursor
  let page := listAdminOperations stored ⟨ownerUserId,status,kind,before,limit⟩
  inspected contract page OperationInspectionSummary.of
    (page.nextCursor fun last => encodeInspectionCursor uuid contract (readPlace StoredOperation.place last))

/-- `GET /v1/admin/audit-events` -/
def inspectAuditEvents (params : ListParams) (owner : Option Bool) (stored : List StoredEvent) :
    Except FailureKind (Listed AuditEventSummary) := do
  requireOwner owner
  let limit ← pageSize params.limit
  let before ← anchorOf (decodeInspectionCursor uuid contract) params.cursor
  let page := listAdminEvents stored ⟨before,limit⟩
  inspected contract page (AuditEventSummary.of contract)
    (page.nextCursor fun last => encodeInspectionCursor uuid contract (readPlace StoredEvent.place last))

end Handlers

end PublicApi

end Ratatoskr
