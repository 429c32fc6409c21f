import Mathlib.Order.Lattice
import Mathlib.Data.List.Nodup

/-! A finite map kept in the order of its keys. -/
universe u v

/-- The entries of a map, each key once and in ascending order. -/
structure OrderedMap (κ : Type u) (β : Type v) [LT κ] where
  entries : List (κ × β)
  ordered : (entries.map Prod.fst).Pairwise (· < ·)

namespace OrderedMap

variable {κ : Type u} {β : Type v}

def empty [LT κ] : OrderedMap κ β := ⟨[],.nil⟩

section Lookup

variable [LinearOrder κ] (map : OrderedMap κ β)

def get (key : κ) : Option β := (map.entries.find? fun entry => entry.1 == key).map Prod.snd

def containsKey (key : κ) : Bool := map.entries.any fun entry => entry.1 == key

theorem keys_nodup : (map.entries.map Prod.fst).Nodup := map.ordered.imp fun less => ne_of_lt less

variable {map}

theorem eq_of_key {first second : κ × β} (one : first ∈ map.entries) (two : second ∈ map.entries)
    (same : first.1 = second.1) : first = second :=
  List.inj_on_of_nodup_map map.keys_nodup one two same

theorem get_eq_some {key : κ} {value : β} : map.get key = some value ↔ (key,value) ∈ map.entries := by
  constructor
  · intro found
    obtain ⟨⟨other,stored⟩,first,rfl⟩ := Option.map_eq_some_iff.mp found
    have named : other = key := by simpa using List.find?_some first
    exact named ▸ List.mem_of_find?_eq_some first
  · intro stored
    cases found : map.entries.find? fun entry => entry.1 == key with
    | none =>
      have other := List.find?_eq_none.mp found _ stored
      exact absurd (beq_self_eq_true key) other
    | some entry =>
      have named : entry.1 = key := by simpa using List.find?_some found
      rw [get,found,eq_of_key (List.mem_of_find?_eq_some found) stored named]
      rfl

theorem containsKey_iff {key : κ} : map.containsKey key = true ↔ ∃ value, (key,value) ∈ map.entries := by
  rw [containsKey,List.any_eq_true]
  constructor
  · rintro ⟨⟨other,value⟩,stored,same⟩
    exact ⟨value,beq_iff_eq.mp same ▸ stored⟩
  · rintro ⟨value,stored⟩
    exact ⟨_,stored,beq_self_eq_true key⟩

end Lookup

end OrderedMap
