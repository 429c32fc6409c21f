import Mathlib.Computability.Language
import Ratatoskr.Lib.Text

/-! Anchored regular expressions as languages: classes of characters, fixed words and bounded repetition. -/
namespace Grammar

variable {α : Type} {p q : α → Bool} {word : List α} {sep : α}

/-- `[p]` -/
def one (p : α → Bool) : Language α := {word | ∃ c, p c = true ∧ word = [c]}

/-- The word itself -/
def exactly (text : List α) : Language α := {text}

/-- `(l){low,high}` -/
def times (low high : Nat) (l : Language α) : Language α := {word | ∃ n, low ≤ n ∧ n ≤ high ∧ word ∈ l ^ n}

theorem mem_one {word : List α} : word ∈ one p ↔ ∃ c, p c = true ∧ word = [c] := Iff.rfl

theorem mem_exactly {text : List α} : word ∈ exactly text ↔ word = text := Iff.rfl

theorem mem_times {low high : Nat} {l : Language α} :
    word ∈ times low high l ↔ ∃ parts : List (List α), low ≤ parts.length ∧ parts.length ≤ high ∧
      (∀ part ∈ parts, part ∈ l) ∧ word = parts.flatten := by
  constructor
  · rintro ⟨n,least,most,repeated⟩
    obtain ⟨parts,flat,rfl,all⟩ := Language.mem_pow.mp repeated
    exact ⟨parts,least,most,all,flat⟩
  · rintro ⟨parts,least,most,all,flat⟩
    exact ⟨parts.length,least,most,Language.mem_pow.mpr ⟨parts,flat,rfl,all⟩⟩

theorem mem_pow_one {n : Nat} : word ∈ one p ^ n ↔ word.length = n ∧ word.all p = true := by
  induction n generalizing word with
  | zero => simp only [pow_zero,Language.mem_one,List.length_eq_zero_iff]; exact ⟨fun same => by simp [same],And.left⟩
  | succ n ih =>
    rw [pow_succ',Language.mem_mul]
    constructor
    · rintro ⟨_,⟨c,own,rfl⟩,rest,repeated,rfl⟩
      obtain ⟨length,all⟩ := ih.mp repeated
      simp [own,length,all]
    · rintro ⟨length,all⟩
      cases word with
      | nil => cases length
      | cons c rest =>
        simp only [List.length_cons,Nat.add_right_cancel_iff,List.all_cons,Bool.and_eq_true] at length all
        exact ⟨[c],⟨c,all.1,rfl⟩,rest,ih.mpr ⟨length,all.2⟩,rfl⟩

theorem mem_times_one {low high : Nat} :
    word ∈ times low high (one p) ↔ low ≤ word.length ∧ word.length ≤ high ∧ word.all p = true := by
  constructor
  · rintro ⟨n,least,most,repeated⟩
    obtain ⟨rfl,all⟩ := mem_pow_one.mp repeated
    exact ⟨least,most,all⟩
  · rintro ⟨least,most,all⟩
    exact ⟨word.length,least,most,mem_pow_one.mpr ⟨rfl,all⟩⟩

/-- `[p][q]{0,most}` -/
def token (p q : α → Bool) (most : Nat) : Language α := one p * times 0 most (one q)

theorem mem_token {most : Nat} :
    word ∈ token p q most ↔ ∃ c rest, word = c :: rest ∧ p c = true ∧ rest.length ≤ most ∧ rest.all q = true := by
  rw [token,Language.mem_mul]
  constructor
  · rintro ⟨_,⟨c,own,rfl⟩,rest,repeated,rfl⟩
    obtain ⟨_,most,all⟩ := mem_times_one.mp repeated
    exact ⟨c,rest,rfl,own,most,all⟩
  · rintro ⟨c,rest,rfl,own,most,all⟩
    exact ⟨[c],⟨c,own,rfl⟩,rest,mem_times_one.mpr ⟨Nat.zero_le _,most,all⟩,rfl⟩

/-- Parts with the separator before each of them -/
def led (sep : α) (parts : List (List α)) : List α := parts.flatMap fun part => sep :: part

/-- `(sep l){low,high}` -/
theorem mem_times_led {low high : Nat} {l : Language α} :
    word ∈ times low high (exactly [sep] * l) ↔ ∃ parts : List (List α), low ≤ parts.length ∧ parts.length ≤ high ∧
      (∀ part ∈ parts, part ∈ l) ∧ word = led sep parts := by
  have each {part : List α} : part ∈ exactly [sep] * l ↔ ∃ inner ∈ l, part = sep :: inner := by
    rw [Language.mem_mul]
    constructor
    · rintro ⟨_,rfl,inner,inside,rfl⟩
      exact ⟨inner,inside,rfl⟩
    · rintro ⟨inner,inside,rfl⟩
      exact ⟨[sep],rfl,inner,inside,rfl⟩
  rw [mem_times]
  constructor
  · rintro ⟨parts,least,most,all,rfl⟩
    refine ⟨parts.map List.tail,by simpa using least,by simpa using most,?_,?_⟩
    · intro inner member
      obtain ⟨part,listed,rfl⟩ := List.mem_map.mp member
      obtain ⟨inner,inside,rfl⟩ := each.mp (all part listed)
      exact inside
    · rw [led,List.flatMap_map,List.flatMap_def]
      refine congrArg List.flatten ((List.map_id parts).symm.trans (List.map_congr_left fun part listed => ?_))
      obtain ⟨inner,_,rfl⟩ := each.mp (all part listed)
      rfl
  · rintro ⟨parts,least,most,all,rfl⟩
    refine ⟨parts.map (sep :: ·),by simpa using least,by simpa using most,?_,List.flatMap_def ..⟩
    intro part member
    obtain ⟨inner,listed,rfl⟩ := List.mem_map.mp member
    exact each.mpr ⟨inner,all inner listed,rfl⟩

theorem intercalate_cons (first : List α) (parts : List (List α)) :
    [sep].intercalate (first :: parts) = first ++ led sep parts := by
  induction parts generalizing first with
  | nil => simp [List.intercalate,led]
  | cons part parts ih =>
    rw [List.intercalate,List.intersperse_cons_cons,List.flatten_cons,List.flatten_cons,← List.intercalate,ih]
    simp [led]

/-- Splitting undoes joining where no part has the separator. -/
theorem splitOn_led [DecidableEq α] (first : List α) (parts : List (List α)) (free : ∀ part ∈ first :: parts, sep ∉ part) :
    (first ++ led sep parts).splitOn sep = first :: parts := by
  rw [← intercalate_cons]
  exact List.splitOn_intercalate sep free (List.cons_ne_nil _ _)

theorem mem_led {c : α} {parts : List (List α)} : c ∈ led sep parts ↔ (∃ part ∈ parts, c = sep ∨ c ∈ part) := by
  simp [led,List.mem_flatMap]

theorem led_length_le {most : Nat} {parts : List (List α)} (short : ∀ part ∈ parts, part.length ≤ most) :
    (led sep parts).length ≤ parts.length * (most + 1) := by
  induction parts with
  | nil => exact Nat.zero_le _
  | cons part parts ih =>
    have first := short part List.mem_cons_self
    have rest := ih fun other listed => short other (List.mem_cons_of_mem _ listed)
    simp only [led,List.flatMap_cons,List.cons_append,List.length_cons,List.length_append] at rest ⊢
    rw [Nat.add_mul]
    omega

end Grammar
