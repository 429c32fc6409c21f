import Mathlib.Data.List.Basic

/-! Maps with several values for a key, as the list of their entries. -/
namespace Multimap

variable {κ ν : Type} [DecidableEq κ]

/-- The values of a key, in order -/
def getAll (entries : List (κ × ν)) (key : κ) : List ν := (entries.filter (·.1 == key)).map (·.2)

/-- The entries whose keys are not dropped -/
def without (dropped : κ → Bool) (entries : List (κ × ν)) : List (κ × ν) := entries.filter fun entry => !dropped entry.1

/-- The value takes the place of all values of its key. -/
def insert (entries : List (κ × ν)) (key : κ) (value : ν) : List (κ × ν) := without (· == key) entries ++ [(key,value)]

/-- Inserts the values that there are, in turn. -/
def insertAll (entries : List (κ × ν)) (new : List (κ × Option ν)) : List (κ × ν) :=
  new.foldl (fun entries entry => entry.2.elim entries (insert entries entry.1)) entries

variable {entries : List (κ × ν)} {key other : κ} {value : ν}

theorem mem_getAll : value ∈ getAll entries key ↔ (key,value) ∈ entries := by
  simp [getAll]

theorem getAll_without (dropped : κ → Bool) :
    getAll (without dropped entries) key = if dropped key then [] else getAll entries key := by
  rw [getAll,without,List.filter_filter]
  split
  · rename_i gone
    have none_ : entries.filter (fun entry => entry.1 == key && !dropped entry.1) = [] := by
      rw [List.filter_eq_nil_iff]
      intro entry _ both
      simp only [Bool.and_eq_true,beq_iff_eq,Bool.not_eq_true'] at both
      simp [both.1,gone] at both
    rw [none_,List.map_nil]
  · rename_i kept
    have same : entries.filter (fun entry => entry.1 == key && !dropped entry.1) = entries.filter (·.1 == key) := by
      refine List.filter_congr fun entry _ => ?_
      by_cases own : entry.1 = key
      · simp [own,kept]
      · simp [own]
    rw [same,getAll]

theorem getAll_append (first second : List (κ × ν)) :
    getAll (first ++ second) key = getAll first key ++ getAll second key := by
  simp [getAll]

theorem getAll_insert_self : getAll (insert entries key value) key = [value] := by
  rw [insert,getAll_append,getAll_without]
  simp [getAll]

theorem getAll_insert_of_ne (different : other ≠ key) : getAll (insert entries key value) other = getAll entries other := by
  rw [insert,getAll_append,getAll_without]
  simp [getAll,different,Ne.symm different]

variable {new : List (κ × Option ν)}

theorem getAll_insertAll_of_not_mem (absent : key ∉ new.map (·.1)) :
    getAll (insertAll entries new) key = getAll entries key := by
  induction new generalizing entries with
  | nil => rfl
  | cons entry rest ih =>
    simp only [List.map_cons,List.mem_cons,not_or] at absent
    refine (ih absent.2).trans ?_
    obtain ⟨own,_ | given⟩ := entry
    · rfl
    · exact getAll_insert_of_ne absent.1

theorem getAll_insertAll_of_mem (distinct : (new.map (·.1)).Nodup) (given : (key,some value) ∈ new) :
    getAll (insertAll entries new) key = [value] := by
  induction new generalizing entries with
  | nil => cases given
  | cons entry rest ih =>
    rw [List.map_cons,List.nodup_cons] at distinct
    rcases List.mem_cons.mp given with rfl | later
    · exact (getAll_insertAll_of_not_mem distinct.1).trans getAll_insert_self
    · exact ih distinct.2 later

end Multimap
