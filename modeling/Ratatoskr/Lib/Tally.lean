import Mathlib.Data.Set.Card
import Mathlib.Logic.Function.Basic

/-! How many entries of a partial map meet a test, and how replacing one entry changes that. -/
namespace Tally

variable {κ α : Type*}

/-- The keys whose entries meet the test -/
def keys (entries : κ → Option α) (test : α → Bool) : Set κ := {key | (entries key).any test = true}

noncomputable def tally (entries : κ → Option α) (test : α → Bool) : ℕ∞ := (keys entries test).encard

@[simp] theorem tally_empty (test : α → Bool) : tally (fun _ : κ => none) test = 0 := by
  simp [tally,keys]

theorem tally_pos {entries : κ → Option α} {test : α → Bool} {key : κ} (met : (entries key).any test = true) :
    0 < tally entries test :=
  Set.encard_pos.mpr ⟨key,met⟩

theorem not_mem_keys {entries : κ → Option α} {test : α → Bool} {key : κ} (missed : (entries key).any test = false) : key ∉ keys entries test :=
  fun member => Bool.false_ne_true (missed.symm.trans member)

section Update

variable [DecidableEq κ] {entries : κ → Option α} {test : α → Bool} {key : κ} {entry : Option α}

theorem keys_update_of_meets (meets : entry.any test = true) :
    keys (Function.update entries key entry) test = insert key (keys entries test) := by
  ext other
  rw [keys,Set.mem_ofPred_eq,Function.update_apply,Set.mem_insert_iff]
  split
  · rename_i same
    exact ⟨fun _ => Or.inl same,fun _ => meets⟩
  · rename_i different
    exact ⟨Or.inr,fun member => member.resolve_left different⟩

theorem keys_update_of_misses (misses : entry.any test = false) :
    keys (Function.update entries key entry) test = keys entries test \ {key} := by
  ext other
  rw [keys,Set.mem_ofPred_eq,Function.update_apply,Set.mem_sdiff,Set.mem_singleton_iff]
  split
  · rename_i same
    exact ⟨fun meets => absurd meets (by simp [misses]),fun member => absurd same member.2⟩
  · rename_i different
    exact ⟨fun meets => ⟨meets,different⟩,And.left⟩

/-- An entry that comes to meet the test counts one more, -/
theorem tally_update_add (missed : (entries key).any test = false) (meets : entry.any test = true) :
    tally (Function.update entries key entry) test = tally entries test + 1 := by
  rw [tally,keys_update_of_meets meets]
  exact Set.encard_insert_of_notMem (not_mem_keys missed)

/-- one that ceases to counts one less, -/
theorem tally_update_sub (met : (entries key).any test = true) (misses : entry.any test = false) :
    tally (Function.update entries key entry) test + 1 = tally entries test := by
  rw [tally,keys_update_of_misses misses]
  exact Set.encard_sdiff_singleton_add_one met

/-- and any other leaves the number. -/
theorem tally_update_same (same : entry.any test = (entries key).any test) :
    tally (Function.update entries key entry) test = tally entries test := by
  cases meets : entry.any test with
  | true =>
    have member : key ∈ keys entries test := same.symm.trans meets
    rw [tally,keys_update_of_meets meets,Set.insert_eq_of_mem member,tally]
  | false =>
    rw [tally,keys_update_of_misses meets,Set.sdiff_singleton_eq_self (not_mem_keys (same.symm.trans meets)),tally]

end Update

end Tally
