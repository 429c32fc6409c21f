import Mathlib.Data.List.Basic

/-! Percent-encoding of octets. -/
namespace Percent

def digit (n : Nat) : Char := if n < 10 then Char.ofNat (48 + n) else Char.ofNat (55 + n)

/-- The value of a hexadecimal digit -/
def digitValue (c : Char) : Option Nat :=
  if 48 ≤ c.toNat ∧ c.toNat ≤ 57 then some (c.toNat - 48)
  else if 65 ≤ c.toNat ∧ c.toNat ≤ 70 then some (c.toNat - 55)
  else if 97 ≤ c.toNat ∧ c.toNat ≤ 102 then some (c.toNat - 87)
  else none

/-- The octets that stand for themselves -/
def unreserved (b : UInt8) : Bool :=
  (65 ≤ b && b ≤ 90) || (97 ≤ b && b ≤ 122) || (48 ≤ b && b ≤ 57) || b == 45 || b == 46 || b == 95 || b == 126

def encodeByte (b : UInt8) : List Char :=
  if unreserved b then [Char.ofNat b.toNat] else ['%',digit (b.toNat / 16),digit (b.toNat % 16)]

def encode (bytes : List UInt8) : List Char := bytes.flatMap encodeByte

/-- The octets of a text that may be percent-encoded -/
def decode : List Char → Option (List UInt8)
  | [] => some []
  | c :: rest =>
    if c = '%' then
      match rest with
      | high :: low :: rest =>
        match digitValue high,digitValue low,decode rest with
        | some high,some low,some bytes => some (UInt8.ofNat (16 * high + low) :: bytes)
        | _,_,_ => none
      | _ => none
    else if c.toNat < 128 then (decode rest).map (UInt8.ofNat c.toNat :: ·)
    else none

/-- What an encoded text consists of; none of it separates anything in a query. -/
def Plain (c : Char) : Prop := c = '%' ∨ ∃ b : UInt8, unreserved b = true ∧ c = Char.ofNat b.toNat

theorem digitValue_digit : ∀ n < 16, digitValue (digit n) = some n := by decide

theorem plain_digit : ∀ n < 16, unreserved (UInt8.ofNat (digit n).toNat) = true ∧
    digit n = Char.ofNat (UInt8.ofNat (digit n).toNat).toNat := by decide

theorem code_of_unreserved : ∀ n < 256, unreserved (UInt8.ofNat n) = true →
    Char.ofNat n ≠ '%' ∧ (Char.ofNat n).toNat = n ∧ n < 128 := by decide +kernel

theorem decode_byte (b : UInt8) (rest : List Char) : decode (encodeByte b ++ rest) = (decode rest).map (b :: ·) := by
  have below := b.toNat_lt
  unfold encodeByte
  split
  · rename_i free
    obtain ⟨other,code,ascii⟩ := code_of_unreserved b.toNat below (by rwa [UInt8.ofNat_toNat])
    conv_lhs => unfold decode
    rw [List.singleton_append]
    dsimp only
    rw [if_neg other,code,if_pos ascii,UInt8.ofNat_toNat]
  · have high : b.toNat / 16 < 16 := by omega
    have low : b.toNat % 16 < 16 := by omega
    rw [List.cons_append,List.cons_append,List.singleton_append,decode,if_pos rfl]
    rw [digitValue_digit _ high,digitValue_digit _ low]
    cases decode rest with
    | none => rfl
    | some bytes => exact congrArg (fun octet => some (octet :: bytes)) (by rw [Nat.div_add_mod,UInt8.ofNat_toNat])

/-- An encoded text reads back as the octets it was made of. -/
theorem decode_encode (bytes : List UInt8) : decode (encode bytes) = some bytes := by
  induction bytes with
  | nil => rfl
  | cons b bytes ih =>
    rw [encode,List.flatMap_cons,decode_byte,← encode,ih]
    rfl

theorem plain_encode (bytes : List UInt8) : ∀ c ∈ encode bytes, Plain c := by
  intro c there
  obtain ⟨b,_,part⟩ := List.mem_flatMap.mp there
  have below := b.toNat_lt
  unfold encodeByte at part
  split at part
  · rename_i free
    exact Or.inr ⟨b,free,List.mem_singleton.mp part⟩
  · rcases List.mem_cons.mp part with rfl | part
    · exact Or.inl rfl
    · rcases List.mem_cons.mp part with rfl | part
      · exact Or.inr ⟨_,plain_digit _ (by omega)⟩
      · obtain rfl := List.mem_singleton.mp part
        exact Or.inr ⟨_,plain_digit _ (by omega)⟩

theorem not_separator_of_unreserved : ∀ n < 256, unreserved (UInt8.ofNat n) = true →
    Char.ofNat n ∉ ['&','=','+','#','?','/',' '] := by decide +kernel

/-- No separator of a query is in an encoded text. -/
theorem separators_not_plain : ∀ c ∈ ['&','=','+','#','?','/',' '], ¬Plain c := by
  rintro c there (percent | ⟨b,free,rfl⟩)
  · rw [percent] at there
    exact absurd there (by decide)
  · have below := b.toNat_lt
    exact not_separator_of_unreserved b.toNat below (by rwa [UInt8.ofNat_toNat]) there

end Percent
