import Mathlib.Data.List.Nodup

/-! A table as the list of its rows, for statements that select rows by any condition. -/
namespace Rows

variable {ρ κ : Type}

/-- `update .. where`, refused when a changed row fails the CHECK constraints. -/
def update (checks matching : ρ → Bool) (change : ρ → ρ) (rows : List ρ) : Option (List ρ) :=
  if rows.all fun row => !matching row || checks (change row) then
    some (rows.map fun row => if matching row then change row else row)
  else none

section Update

variable (checks matching : ρ → Bool) (change : ρ → ρ) (rows later : List ρ)

theorem update_eq_some :
    update checks matching change rows = some later ↔
      (∀ row ∈ rows, matching row = true → checks (change row) = true) ∧
        later = rows.map fun row => if matching row then change row else row := by
  have all : (rows.all fun row => !matching row || checks (change row)) = true ↔
      ∀ row ∈ rows, matching row = true → checks (change row) = true := by
    simp only [List.all_eq_true,Bool.or_eq_true,Bool.not_eq_true']
    refine forall₂_congr fun row _ => ?_
    cases matching row <;> simp
  rw [update]
  split
  · rename_i checked
    simp only [Option.some.injEq]
    exact ⟨fun same => ⟨all.mp checked,same.symm⟩,fun both => both.2.symm⟩
  · rename_i unchecked
    refine iff_of_false (fun none_ => ?_) fun both => unchecked (all.mpr both.1)
    cases none_

variable (updated : update checks matching change rows = some later)

include updated

/-- Every row that is there after the update is an old one, changed where it matched. -/
theorem mem_update (row : ρ) :
    row ∈ later ↔ ∃ old ∈ rows, row = if matching old then change old else old := by
  obtain ⟨_,rfl⟩ := (update_eq_some _ _ _ _ _).mp updated
  rw [List.mem_map]
  exact exists_congr fun old => and_congr_right fun _ => eq_comm

theorem mem_update_of_unmatched (row : ρ) (stored : row ∈ rows) (apart : matching row = false) : row ∈ later :=
  (mem_update checks matching change rows later updated row).mpr ⟨row,stored,by simp [apart]⟩

theorem mem_update_of_matched (row : ρ) (stored : row ∈ rows) (matched : matching row = true) : change row ∈ later :=
  (mem_update checks matching change rows later updated _).mpr ⟨row,stored,by simp [matched]⟩

/-- An update that leaves a column alone leaves the list of its values. -/
theorem map_update (key : ρ → κ) (kept : ∀ row, key (change row) = key row) : later.map key = rows.map key := by
  obtain ⟨_,rfl⟩ := (update_eq_some _ _ _ _ _).mp updated
  rw [List.map_map]
  refine List.map_congr_left fun row _ => ?_
  simp only [Function.comp_apply]
  split
  · exact kept row
  · rfl

end Update

/-- Two rows of a unique key are the same row. -/
theorem eq_of_key (rows : List ρ) (key : ρ → κ) (unique : (rows.map key).Nodup) {row other : ρ} (first : row ∈ rows)
    (second : other ∈ rows) (same : key row = key other) : row = other :=
  List.inj_on_of_nodup_map unique first second same

theorem find_of_key [DecidableEq κ] (rows : List ρ) (key : ρ → κ) (unique : (rows.map key).Nodup) (row : ρ)
    (stored : row ∈ rows) : (rows.find? fun other => key other == key row) = some row := by
  have some_ : (rows.find? fun other => key other == key row).isSome = true :=
    List.find?_isSome.mpr ⟨row,stored,beq_self_eq_true (key row)⟩
  obtain ⟨other,found⟩ := Option.isSome_iff_exists.mp some_
  have same := List.find?_some found
  obtain rfl := eq_of_key rows key unique (List.mem_of_find?_eq_some found) stored (beq_iff_eq.mp same)
  exact found

end Rows
