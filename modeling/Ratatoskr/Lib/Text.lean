import Mathlib.Algebra.Group.Nat.Defs
import Mathlib.Data.Int.Order.Basic
import Mathlib.Data.List.Basic

/-! The parts a separator cuts a list into, and numbers in decimal. -/
namespace Text

variable {α : Type}

theorem mem_intercalate {sep c : α} {parts : List (List α)} (member : c ∈ [sep].intercalate parts) :
    c = sep ∨ ∃ part ∈ parts, c ∈ part := by
  induction parts with
  | nil => simp [List.intercalate] at member
  | cons first rest ih =>
    cases rest with
    | nil =>
      simp only [List.intercalate,List.intersperse_singleton,List.flatten_cons,List.flatten_nil,List.append_nil] at member
      exact Or.inr ⟨first,List.mem_cons_self,member⟩
    | cons second rest =>
      simp only [List.intercalate,List.intersperse_cons_cons,List.flatten_cons,List.mem_append,List.mem_singleton]
        at member ih
      rcases member with own | same | later
      · exact Or.inr ⟨first,List.mem_cons_self,own⟩
      · exact Or.inl same
      · rcases ih later with same | ⟨part,listed,inside⟩
        · exact Or.inl same
        · exact Or.inr ⟨part,List.mem_cons_of_mem _ listed,inside⟩

theorem intercalate_of_mem {sep c : α} {parts : List (List α)} {part : List α} (listed : part ∈ parts)
    (inside : c ∈ part) : c ∈ [sep].intercalate parts := by
  induction parts with
  | nil => cases listed
  | cons first rest ih =>
    cases rest with
    | nil =>
      obtain rfl := List.mem_singleton.mp listed
      simpa [List.intercalate] using inside
    | cons second rest =>
      simp only [List.intercalate,List.intersperse_cons_cons,List.flatten_cons,List.mem_append] at ih ⊢
      rcases List.mem_cons.mp listed with rfl | later
      · exact Or.inl inside
      · exact Or.inr (Or.inr (ih later))

/-- The characters of a text are those of its parts, and the separators. -/
theorem mem_splitOn [BEq α] [LawfulBEq α] {sep c : α} {text : List α} (different : c ≠ sep) :
    c ∈ text ↔ ∃ part ∈ text.splitOn sep, c ∈ part := by
  have joined : [sep].intercalate (text.splitOn sep) = text := List.intercalate_splitOn sep
  constructor
  · intro member
    rw [← joined] at member
    exact (mem_intercalate member).resolve_left different
  · rintro ⟨part,listed,inside⟩
    rw [← joined]
    exact intercalate_of_mem listed inside

/-- Between any two parts that are not empty stands a separator. -/
theorem two_mul_parts_le (sep : α → Bool) (text : List α) :
    2 * ((text.splitOnP sep).filter fun part => !part.isEmpty).length ≤ text.length + 1 := by
  -- the first part may still grow, so what follows it is counted by itself
  suffices counted : 2 * ((text.splitOnP sep).tail.filter fun part => !part.isEmpty).length +
      (if (text.splitOnP sep).headD [] = [] then 0 else 1) ≤ text.length by
    cases parts : text.splitOnP sep with
    | nil => exact absurd parts (List.splitOnP_ne_nil _ _)
    | cons first rest =>
      rw [parts] at counted
      simp only [List.tail_cons,List.headD_cons] at counted
      rw [List.filter_cons]
      cases first with
      | nil =>
        simp only [List.isEmpty_nil,Bool.not_true,Bool.false_eq_true,if_false]
        simp only [if_true] at counted
        omega
      | cons c first =>
        simp only [List.isEmpty_cons,Bool.not_false,if_true,List.length_cons]
        simp only [reduceCtorEq,if_false] at counted
        omega
  induction text with
  | nil => simp
  | cons c text ih =>
    rw [List.splitOnP_cons_eq_if_modifyHead]
    cases parts : text.splitOnP sep with
    | nil => exact absurd parts (List.splitOnP_ne_nil _ _)
    | cons first rest =>
      rw [parts] at ih
      simp only [List.tail_cons,List.headD_cons] at ih
      by_cases separates : sep c = true
      · simp only [separates,if_true,List.tail_cons,List.headD_cons,List.length_cons,List.filter_cons]
        cases first with
        | nil =>
          simp only [List.isEmpty_nil,Bool.not_true,Bool.false_eq_true,if_false,if_true] at ih ⊢
          omega
        | cons d first =>
          simp only [List.isEmpty_cons,Bool.not_false,if_true,List.length_cons,reduceCtorEq,if_false] at ih ⊢
          omega
      · simp only [separates,if_false,Bool.false_eq_true,List.modifyHead_cons,List.tail_cons,List.headD_cons,reduceCtorEq,
          List.length_cons]
        omega

/-- What stands before the first separator, and what stands after it. -/
def splitOnce [BEq α] (sep : α) : List α → Option (List α × List α)
  | [] => none
  | c :: rest => if c == sep then some ([],rest) else (splitOnce sep rest).map fun parts => (c :: parts.1,parts.2)

theorem splitOnce_append [BEq α] [LawfulBEq α] {sep : α} {first : List α} (second : List α) (absent : sep ∉ first) :
    splitOnce sep (first ++ sep :: second) = some (first,second) := by
  induction first with
  | nil => simp [splitOnce]
  | cons c first ih =>
    simp only [List.mem_cons,not_or] at absent
    simp [splitOnce,ih absent.2,Ne.symm absent.1]

theorem append_of_splitOnce [BEq α] [LawfulBEq α] {sep : α} {text : List α} {parts : List α × List α}
    (split_ : splitOnce sep text = some parts) : parts.1 ++ sep :: parts.2 = text := by
  induction text generalizing parts with
  | nil => cases split_
  | cons c text ih =>
    rw [splitOnce] at split_
    split at split_
    · rename_i same
      obtain rfl := Option.some.inj split_
      rw [List.nil_append,eq_of_beq same]
    · obtain ⟨rest,later,rfl⟩ := Option.map_eq_some_iff.mp split_
      rw [List.cons_append,ih later]

def decimal (value : Int) : List Char :=
  if value < 0 then '-' :: Nat.toDigits 10 value.natAbs else Nat.toDigits 10 value.natAbs

/-- The sign that a number may start with, and what follows it. -/
def signed : List Char → Bool × List Char
  | '-' :: rest => (true,rest)
  | '+' :: rest => (false,rest)
  | text => (false,text)

/-- One digit has to follow the sign. -/
def ofDecimal (text : List Char) : Option Int :=
  let (negative,digits) := signed text
  if digits.isEmpty || !digits.all Char.isDigit then none
  else some (if negative then -(Nat.ofDigitChars 10 digits 0 : Int) else Nat.ofDigitChars 10 digits 0)

theorem digit_of_mem_toDigits {n : Nat} {c : Char} (member : c ∈ Nat.toDigits 10 n) : c.isDigit = true :=
  Nat.isDigit_of_mem_toDigits (by omega) (by omega) member

theorem decimal_length {value : Int} {k : Nat} (positive : 0 < k) (bound : value.natAbs < 10 ^ k) :
    (decimal value).length ≤ k + 1 := by
  have digits := (Nat.length_toDigits_le_iff (b := 10) (by omega) positive).mpr bound
  rw [decimal]
  split
  · rw [List.length_cons]
    omega
  · omega

theorem mem_decimal {value : Int} {c : Char} (member : c ∈ decimal value) : c = '-' ∨ c.isDigit = true := by
  rw [decimal] at member
  split at member
  · exact (List.mem_cons.mp member).imp_right digit_of_mem_toDigits
  · exact Or.inr (digit_of_mem_toDigits member)

/-- A digit is not taken for a sign. -/
theorem signed_digits {digits : List Char} (all : digits.all Char.isDigit = true) : signed digits = (false,digits) := by
  rw [signed.eq_def]
  split
  · simp at all
  · simp at all
  · rfl

theorem ofDecimal_decimal (value : Int) : ofDecimal (decimal value) = some value := by
  have digits : (Nat.toDigits 10 value.natAbs).all Char.isDigit = true :=
    List.all_eq_true.mpr fun _ => digit_of_mem_toDigits
  have some_ : (Nat.toDigits 10 value.natAbs).isEmpty = false :=
    List.isEmpty_eq_false_iff.mpr Nat.toDigits_ne_nil
  have split : signed (decimal value) = (decide (value < 0),Nat.toDigits 10 value.natAbs) := by
    by_cases negative : value < 0
    · simp [decimal,negative,signed]
    · simp only [decimal,negative,if_false,signed_digits digits,decide_false]
  simp only [ofDecimal,split,digits,some_,Nat.ofDigitChars_ten_toDigits,Bool.not_true,Bool.or_self,Bool.false_eq_true,
    if_false,decide_eq_true_eq,Option.some.injEq]
  omega

theorem toList_loop (bytes : ByteArray) (i : Nat) (read : List UInt8) :
    ByteArray.toList.loop bytes i read = read.reverse ++ bytes.data.toList.drop i := by
  fun_induction ByteArray.toList.loop bytes i read with
  | case1 i read inside ih =>
    have room : i < bytes.data.toList.length := by simpa using inside
    have shown : bytes.get! i = bytes.data.toList[i] := by
      change bytes.data[i]! = _
      rw [getElem!_pos bytes.data i inside,Array.getElem_toList]
    rw [ih,List.drop_eq_getElem_cons room,shown,List.reverse_cons,List.append_assoc,List.singleton_append]
  | case2 i read outside =>
    have short : bytes.data.toList.length ≤ i := by simpa using outside
    rw [List.drop_eq_nil_of_le short,List.append_nil]

/-- A text is known by its bytes. -/
theorem bytes_injective : Function.Injective fun text : String => text.toUTF8.toList := by
  intro a b same
  simp only [ByteArray.toList,toList_loop] at same
  have bytes : a.toUTF8 = b.toUTF8 := ByteArray.ext (Array.toList_inj.mp (by simpa using same))
  exact String.toByteArray_inj.mp bytes

theorem utf8ByteSize_cons (c : Char) (chars : List Char) :
    (String.ofList (c :: chars)).utf8ByteSize = c.utf8Size + (String.ofList chars).utf8ByteSize := by
  have split : String.ofList (c :: chars) = String.singleton c ++ String.ofList chars := by
    rw [String.singleton_eq_ofList,← String.ofList_append,List.singleton_append]
  rw [split,String.utf8ByteSize_append,String.utf8ByteSize_singleton]

/-- Each character of an ASCII text is one byte. -/
theorem utf8ByteSize_ascii (text : String) (ascii : ∀ c ∈ text.toList, c.toNat < 128) :
    text.utf8ByteSize = text.toList.length := by
  suffices ∀ chars : List Char, (∀ c ∈ chars, c.toNat < 128) → (String.ofList chars).utf8ByteSize = chars.length by
    rw [← this text.toList ascii,String.ofList_toList]
  intro chars
  induction chars with
  | nil => exact fun _ => rfl
  | cons c chars ih =>
    intro ascii
    have first : c.utf8Size = 1 := by
      have small := ascii c List.mem_cons_self
      exact Char.utf8Size_eq_one_iff.mpr (UInt32.le_iff_toNat_le.mpr (Nat.le_of_lt_succ small))
    rw [utf8ByteSize_cons,first,ih fun other inside => ascii other (List.mem_cons_of_mem _ inside),List.length_cons,
      Nat.add_comm]

/-- A character is a byte at least. -/
theorem length_le_utf8ByteSize (text : String) : text.length ≤ text.utf8ByteSize := by
  suffices ∀ chars : List Char, chars.length ≤ (String.ofList chars).utf8ByteSize by
    have bytes := this text.toList
    rwa [String.ofList_toList,String.length_toList] at bytes
  intro chars
  induction chars with
  | nil => exact Nat.zero_le _
  | cons c chars ih =>
    have one := Char.utf8Size_pos c
    rw [utf8ByteSize_cons,List.length_cons]
    omega

/-- A text whose first part is empty begins with the separator. -/
theorem cons_of_splitOn [BEq α] [LawfulBEq α] {sep : α} {text : List α} {tail : List (List α)}
    (parts : text.splitOn sep = [] :: tail) (more : tail ≠ []) : ∃ rest, text = sep :: rest ∧ rest.splitOn sep = tail := by
  cases text with
  | nil =>
    rw [List.splitOn_nil] at parts
    exact absurd (List.cons.inj parts).2.symm more
  | cons c rest =>
    rw [List.splitOn_cons_eq_if_modifyHead] at parts
    split at parts
    · rename_i same
      exact ⟨rest,by rw [eq_of_beq same],(List.cons.inj parts).2⟩
    · cases split_ : rest.splitOn sep with
      | nil => exact absurd split_ (List.splitOn_ne_nil _ _)
      | cons first others =>
        rw [split_] at parts
        cases (List.cons.inj parts).1

/-- A text ends in its last part, after a separator when there is more than one. -/
theorem suffix_of_splitOn [BEq α] [LawfulBEq α] {sep : α} {text last : List α} {front : List (List α)}
    (parts : text.splitOn sep = front ++ [last]) (more : front ≠ []) : sep :: last <:+ text := by
  have joined : [sep].intercalate (text.splitOn sep) = text := List.intercalate_splitOn sep
  rw [← joined,parts]
  clear joined parts
  induction front with
  | nil => exact absurd rfl more
  | cons first front ih =>
    cases front with
    | nil => exact ⟨first,by simp [List.intercalate]⟩
    | cons second front =>
      obtain ⟨before,same⟩ := ih (List.cons_ne_nil _ _)
      refine ⟨first ++ sep :: before,?_⟩
      rw [List.append_assoc,List.cons_append,same]
      simp [List.intercalate]

end Text
