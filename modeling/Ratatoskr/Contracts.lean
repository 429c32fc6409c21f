import Mathlib.Data.Int.Order.Basic

/-! Values that cross a process boundary. The contracts crate validates them, so each is a text
together with the grammar it was parsed by. -/
namespace Ratatoskr

abbrev UserId := Nat
abbrev OperationId := Nat
abbrev MessageId := Nat

/-- An instant in nanoseconds, counted from the epoch of the database. -/
abbrev Timestamp := Int

/-- A `timestamptz` keeps microseconds and drops the rest. -/
def toOffset (value : Timestamp) : Int := value.tdiv 1000

/-- The instant a `timestamptz` stands for. -/
def fromOffset (value : Int) : Timestamp := value * 1000

theorem to_offset_fromOffset (value : Int) : toOffset (fromOffset value) = value :=
  Int.mul_tdiv_cancel _ (by decide)

theorem to_offset_mono {a b : Timestamp} (before : a ≤ b) : toOffset a ≤ toOffset b :=
  Int.tdiv_le_tdiv (by omega) before

theorem to_offset_add_le (value micros : Int) (forward : 0 ≤ micros) :
    toOffset (value + 1000 * micros) ≤ toOffset value + micros := by
  change (value + 1000 * micros).tdiv 1000 ≤ value.tdiv 1000 + micros
  simp only [Int.tdiv_eq_ediv,show Int.sign 1000 = 1 from rfl]
  split <;> split <;> omega

theorem to_offset_close (value : Int) :
    value < 1000 * toOffset value + 1000 ∧ 1000 * toOffset value < value + 1000 := by
  change value < 1000 * value.tdiv 1000 + 1000 ∧ 1000 * value.tdiv 1000 < value + 1000
  simp only [Int.tdiv_eq_ediv,show Int.sign 1000 = 1 from rfl]
  split <;> omega

section Grammar

/-- `first` followed by at most `most` characters of `rest`. -/
def isToken (first rest : Char → Bool) (most : Nat) : List Char → Bool
  | [] => false
  | c :: cs => first c && cs.length ≤ most && cs.all rest

def isNameChar (c : Char) : Bool := c.isLower || c.isDigit || c == '_'

def isNamespaceChar (c : Char) : Bool := isNameChar c || c == '-'

/-- `^[a-z][a-z0-9_]{0,31}(\.[a-z][a-z0-9_]{0,31}){1,3}$` -/
def isDottedName (text : String) : Bool :=
  let segments := text.toList.splitOn '.'
  2 ≤ segments.length && segments.length ≤ 4 && segments.all (isToken Char.isLower isNameChar 31)

def isReferenceChar (c : Char) : Bool := c.isAlphanum || "._~:@+-".toList.contains c

/-- `^[a-z][a-z0-9_-]{0,31}:[A-Za-z0-9][A-Za-z0-9._~:@+-]{0,255}$` -/
def isNamespaced (text : String) : Bool :=
  let (kind,rest) := text.toList.span (· ≠ ':')
  isToken Char.isLower isNamespaceChar 31 kind && isToken Char.isAlphanum isReferenceChar 255 rest.tail

/-- `^[a-z][a-z0-9_]{0,63}$` -/
def isStage (text : String) : Bool := isToken Char.isLower isNameChar 63 text.toList

def lengthBetween (low high : Nat) (text : String) : Bool := low ≤ text.length && text.length ≤ high

/-- `^[^\x00-\x1f\x7f]{1,1024}$` -/
def isSafeMessage (text : String) : Bool :=
  lengthBetween 1 1024 text && text.toList.all fun c => 0x20 ≤ c.toNat && c.toNat ≠ 0x7f

/-- `length between 1 and 200 and .. !~ '[\n\r]'` -/
def isShortSafe (message : String) : Bool :=
  lengthBetween 1 200 message && message.toList.all fun c => c ≠ '\n' && c ≠ '\r'

/-- The `White_Space` property -/
def isWhiteSpace (c : Char) : Bool :=
  let n := c.toNat
  (9 ≤ n && n ≤ 13) || n == 0x20 || n == 0x85 || n == 0xa0 || n == 0x1680 || (0x2000 ≤ n && n ≤ 0x200a) ||
    n == 0x2028 || n == 0x2029 || n == 0x202f || n == 0x205f || n == 0x3000

/-- `trim` -/
def trimWhiteSpace (text : List Char) : List Char := ((text.dropWhile isWhiteSpace).reverse.dropWhile isWhiteSpace).reverse

end Grammar

/-- A text that satisfies a grammar of the contracts. -/
abbrev Checked (grammar : String → Bool) := {text : String // grammar text = true}

def Checked.parse (grammar : String → Bool) (raw : String) : Option (Checked grammar) :=
  if valid : grammar raw = true then some ⟨raw,valid⟩ else none

@[simp] theorem Checked.parse_val (grammar : String → Bool) (value : Checked grammar) :
    Checked.parse grammar value.val = some value := by
  simp [Checked.parse,value.property]

/-- A dotted name of at most 128 characters. -/
def isContractName (text : String) : Bool := isDottedName text && text.length ≤ 128

abbrev OperationKind := Checked isContractName
abbrev OperationResultKind := Checked isContractName
abbrev ErrorCode := Checked isContractName
abbrev EntityRef := Checked isNamespaced
abbrev OperationStage := Checked isStage
abbrev SafeMessage := Checked isSafeMessage

def hexValue (c : Char) : Option Nat :=
  if c.isDigit then some (c.toNat - '0'.toNat)
  else if 'a' ≤ c && c ≤ 'f' then some (c.toNat - 'a'.toNat + 10)
  else none

def hexNumber (digits : List Char) : Option Nat :=
  digits.foldl (fun value c => do return (← value) * 16 + (← hexValue c)) (some 0)

/-- The user of a `user:<uuid>` in its canonical spelling, `none` for any other text. -/
def TenantRef.parse (raw : String) : Option UserId :=
  let groups := (raw.toList.drop 5).splitOn '-'
  if raw.toList.take 5 = "user:".toList ∧ groups.map List.length = [8,4,4,4,12] then hexNumber groups.flatten
  else none

structure ProgressPercent where
  value : Nat
  bounded : value ≤ 100
deriving DecidableEq

structure ErrorEnvelope where
  code : ErrorCode
  message : SafeMessage
  retryable : Bool
deriving DecidableEq

structure WarningEnvelope where
  code : ErrorCode
  message : SafeMessage
deriving DecidableEq

structure OperationResultRef where
  resultKind : OperationResultKind
  target : EntityRef
deriving DecidableEq

inductive OperationStatus where
  | accepted | queued | running | succeeded | partiallySucceeded | failed | cancelled
deriving DecidableEq

end Ratatoskr
