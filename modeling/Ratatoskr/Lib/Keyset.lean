import Mathlib.Order.Defs.LinearOrder
import Mathlib.Order.Lattice
import Mathlib.Data.List.Nodup

/-! Reading an ordered list piece by piece, where each piece resumes after the key of the last row that was
read. -/
namespace Keyset

variable {α κ : Type} [LinearOrder κ] (key : α → κ)

/-- The keys of the list increase. -/
def Ascending (rows : List α) : Prop := rows.Pairwise fun a b => key a < key b

/-- The rows after a cursor; without one, all of them. -/
def after (cursor : Option κ) (rows : List α) : List α := rows.filter fun row => cursor.all (· < key row)

@[simp] theorem after_none (rows : List α) : after key none rows = rows := by simp [after]

@[simp] theorem after_nil (cursor : Option κ) : after key cursor [] = [] := rfl

theorem mem_after {cursor : Option κ} {rows : List α} {row : α} :
    row ∈ after key cursor rows ↔ row ∈ rows ∧ cursor.all (· < key row) = true := List.mem_filter

theorem after_append (cursor : Option κ) (first second : List α) :
    after key cursor (first ++ second) = after key cursor first ++ after key cursor second := List.filter_append ..

theorem after_sublist (cursor : Option κ) {rows more : List α} (sub : rows.Sublist more) :
    (after key cursor rows).Sublist (after key cursor more) := sub.filter _

variable {key}

theorem Ascending.after {rows : List α} (ascending : Ascending key rows) (cursor : Option κ) :
    Ascending key (after key cursor rows) := List.Pairwise.filter _ ascending

theorem after_eq_self {cursor : Option κ} {rows : List α} (all : ∀ row ∈ rows, cursor.all (· < key row) = true) :
    Keyset.after key cursor rows = rows := List.filter_eq_self.mpr all

theorem after_eq_nil {cursor : κ} {rows : List α} (none_ : ∀ row ∈ rows, key row ≤ cursor) :
    Keyset.after key (some cursor) rows = [] :=
  List.filter_eq_nil_iff.mpr fun row member => by simpa using none_ row member

/-- The rows after a cursor, and of those the rows after a later one. -/
theorem after_after {cursor : Option κ} {later : κ} {rows : List α} (onward : cursor.all (· < later) = true) :
    after key (some later) (after key cursor rows) = after key (some later) rows := by
  rw [after,after,List.filter_filter]
  refine List.filter_congr fun row _ => ?_
  cases cursor with
  | none => simp
  | some cursor =>
    simp only [Option.all_some,decide_eq_true_eq] at onward ⊢
    by_cases there : later < key row
    · simp [there,onward.trans there]
    · simp [there]

/-- Where an ascending list is split after one of its rows, that row's key is the cursor of the rest. -/
theorem Ascending.after_last {first second : List α} (ascending : Ascending key (first ++ second)) {last : α}
    (ends : first.getLast? = some last) : Keyset.after key (some (key last)) (first ++ second) = second := by
  obtain ⟨before,rfl⟩ := List.getLast?_eq_some_iff.mp ends
  obtain ⟨sorted,_,across⟩ := List.pairwise_append.mp ascending
  have below : ∀ row ∈ before ++ [last], key row ≤ key last := by
    intro row member
    rcases List.mem_append.mp member with early | own
    · exact ((List.pairwise_append.mp sorted).2.2 row early last (List.mem_singleton_self _)).le
    · rw [List.mem_singleton.mp own]
  rw [after_append,after_eq_nil below,List.nil_append]
  exact after_eq_self fun row member => by simpa using across last (by simp) row member

/-- A page and what is left after it are what was left before it. -/
theorem Ascending.resume {rows : List α} (ascending : Ascending key rows) (cursor : Option κ) (limit : Nat) {last : α}
    (ends : ((Keyset.after key cursor rows).take limit).getLast? = some last) :
    (Keyset.after key cursor rows).take limit ++ Keyset.after key (some (key last)) rows = Keyset.after key cursor rows := by
  have member : last ∈ Keyset.after key cursor rows := List.mem_of_mem_take (List.mem_of_getLast? ends)
  have split := List.take_append_drop limit (Keyset.after key cursor rows)
  have rest := Ascending.after_last (split.symm ▸ ascending.after cursor) ends
  rw [split,after_after ((mem_after key).mp member).2] at rest
  rw [rest,split]

/-- Two lists in the same order with the same rows. -/
theorem Ascending.ext {rows others : List α} (ascending : Ascending key rows) (sorted : Ascending key others)
    (same : ∀ row, row ∈ rows ↔ row ∈ others) : rows = others := by
  have irreflexive {list : List α} (order : Ascending key list) : list.Nodup :=
    order.imp fun less equal => (equal ▸ less).ne rfl
  refine List.Perm.eq_of_pairwise ?_ ascending sorted
    ((List.perm_ext_iff_of_nodup (irreflexive ascending) (irreflexive sorted)).mpr same)
  exact fun a b _ _ less more => absurd (less.trans more) (lt_irrefl _)

section Walks

variable (key) (limit : Nat)

/-- The cursor after a page, if rows are left. -/
def next (cursor : Option κ) (rows : List α) : Option κ :=
  if limit < (Keyset.after key cursor rows).length then ((Keyset.after key cursor rows).take limit).getLast?.map key else none

/-- Pages that are read one after the other, each from the rows there are then. -/
inductive Walk : Option κ → List (List α) → List α → Prop where
  | last {cursor : Option κ} {rows : List α} (done : next key limit cursor rows = none) :
      Walk cursor [rows] ((Keyset.after key cursor rows).take limit)
  | more {cursor : Option κ} {later : κ} {rows : List α} {stores : List (List α)} {read : List α}
      (onward : next key limit cursor rows = some later) (rest : Walk (some later) stores read) :
      Walk cursor (rows :: stores) ((Keyset.after key cursor rows).take limit ++ read)

variable {key limit}

theorem next_eq_some {cursor : Option κ} {later : κ} {rows : List α} (onward : next key limit cursor rows = some later) :
    ∃ last, ((Keyset.after key cursor rows).take limit).getLast? = some last ∧ key last = later := by
  unfold next at onward
  split at onward
  · simpa using onward
  · cases onward

theorem take_of_next_none (positive : 1 ≤ limit) {cursor : Option κ} {rows : List α}
    (done : next key limit cursor rows = none) :
    (Keyset.after key cursor rows).take limit = Keyset.after key cursor rows := by
  unfold next at done
  split at done
  · rename_i longer
    simp only [Option.map_eq_none_iff,List.getLast?_eq_none_iff,List.take_eq_nil_iff] at done
    rcases done with zero | empty
    · omega
    · simp [empty] at longer
  · exact List.take_of_length_le (by omega)

/-- The cursor moves on. -/
theorem next_onward {cursor : Option κ} {later : κ} {rows : List α} (onward : next key limit cursor rows = some later) :
    cursor.all (· < later) = true := by
  obtain ⟨last,ends,rfl⟩ := next_eq_some onward
  exact ((mem_after key).mp (List.mem_of_mem_take (List.mem_of_getLast? ends))).2

theorem Walk.beyond {cursor : Option κ} {stores : List (List α)} {read : List α} (walk : Walk key limit cursor stores read) :
    ∀ row ∈ read, cursor.all (· < key row) = true := by
  induction walk with
  | last => exact fun row member => ((mem_after key).mp (List.mem_of_mem_take member)).2
  | more onward _ ih =>
    intro row member
    rcases List.mem_append.mp member with here | there
    · exact ((mem_after key).mp (List.mem_of_mem_take here)).2
    · have past := ih row there
      have moved := next_onward onward
      cases h : ‹Option κ› with
      | none => rfl
      | some _ =>
        simp only [h,Option.all_some,decide_eq_true_eq] at past moved ⊢
        exact moved.trans past

theorem Walk.stored {cursor : Option κ} {stores : List (List α)} {read : List α} (walk : Walk key limit cursor stores read) :
    ∀ row ∈ read, ∃ rows ∈ stores, row ∈ rows := by
  induction walk with
  | last => exact fun row member => ⟨_,List.mem_cons_self,((mem_after key).mp (List.mem_of_mem_take member)).1⟩
  | more _ _ ih =>
    intro row member
    rcases List.mem_append.mp member with here | there
    · exact ⟨_,List.mem_cons_self,((mem_after key).mp (List.mem_of_mem_take here)).1⟩
    · obtain ⟨rows,listed,inside⟩ := ih row there
      exact ⟨rows,List.mem_cons_of_mem _ listed,inside⟩

/-- Of reads that only grow, the last one has every row. -/
theorem exists_whole {stores : List (List α)} (grows : stores.IsChain (· ⊆ ·)) (some_ : stores ≠ []) :
    ∃ whole ∈ stores, ∀ rows ∈ stores, rows ⊆ whole := by
  induction stores with
  | nil => exact absurd rfl some_
  | cons first stores ih =>
    cases stores with
    | nil => exact ⟨first,List.mem_cons_self,fun rows member => by simp [List.mem_singleton.mp member]⟩
    | cons second stores =>
      obtain ⟨grown,chain⟩ := List.isChain_cons_cons.mp grows
      obtain ⟨whole,member,all⟩ := ih chain (List.cons_ne_nil _ _)
      refine ⟨whole,List.mem_cons_of_mem _ member,fun rows listed => ?_⟩
      rcases List.mem_cons.mp listed with rfl | later
      · exact List.Subset.trans grown (all second List.mem_cons_self)
      · exact all rows later

/-- No row is read twice, and the order holds across pages. -/
theorem Walk.ascending {cursor : Option κ} {stores : List (List α)} {read : List α}
    (walk : Walk key limit cursor stores read) (sorted : ∀ rows ∈ stores, Ascending key rows) : Ascending key read := by
  induction walk with
  | last => exact ((sorted _ List.mem_cons_self).after _).sublist (List.take_sublist _ _)
  | @more cursor later rows stores read onward rest ih =>
    have page : Ascending key ((Keyset.after key cursor rows).take limit) :=
      ((sorted _ List.mem_cons_self).after _).sublist (List.take_sublist _ _)
    refine List.pairwise_append.mpr ⟨page,ih fun rows member => sorted rows (List.mem_cons_of_mem _ member),?_⟩
    intro row here other there
    obtain ⟨last,ends,rfl⟩ := next_eq_some onward
    have past := rest.beyond other there
    simp only [Option.all_some,decide_eq_true_eq] at past
    obtain ⟨before,split⟩ := List.getLast?_eq_some_iff.mp ends
    rw [split] at here page
    rcases List.mem_append.mp here with early | own
    · exact ((List.pairwise_append.mp page).2.2 row early last (List.mem_singleton_self _)).trans past
    · rwa [List.mem_singleton.mp own]

/-- While rows are only added, those of the first read that lie after the cursor are all read. -/
theorem Walk.mem (positive : 1 ≤ limit) {cursor : Option κ} {stores : List (List α)} {read : List α}
    (walk : Walk key limit cursor stores read) (sorted : ∀ rows ∈ stores, Ascending key rows)
    (grows : stores.IsChain (· ⊆ ·)) (rows : List α) (first : stores.head? = some rows) (row : α)
    (member : row ∈ Keyset.after key cursor rows) : row ∈ read := by
  induction walk generalizing rows with
  | last done =>
    cases first
    rwa [take_of_next_none positive done]
  | @more cursor later rows' stores read onward rest ih =>
    cases first
    obtain ⟨last,ends,rfl⟩ := next_eq_some onward
    have whole := (sorted _ List.mem_cons_self).resume cursor limit ends
    rw [← whole] at member
    rcases List.mem_append.mp member with here | there
    · exact List.mem_append_left _ here
    · refine List.mem_append_right _ ?_
      cases stores with
      | nil => cases rest
      | cons second stores =>
        obtain ⟨grown,chain⟩ := List.isChain_cons_cons.mp grows
        obtain ⟨stored,past⟩ := (mem_after key).mp there
        exact ih (fun rows member => sorted rows (List.mem_cons_of_mem _ member)) chain second rfl
          ((mem_after key).mpr ⟨grown stored,past⟩)

/-- Of the rows that were there at the first read, a walk yields those after its cursor, each once and in
order. -/
theorem Walk.keeps (positive : 1 ≤ limit) [DecidableEq α] {cursor : Option κ} {rows : List α} {stores : List (List α)}
    {read : List α} (walk : Walk key limit cursor (rows :: stores) read)
    (sorted : ∀ rows' ∈ rows :: stores, Ascending key rows') (grows : (rows :: stores).IsChain (· ⊆ ·)) :
    read.filter (· ∈ rows) = Keyset.after key cursor rows := by
  refine Ascending.ext ((walk.ascending sorted).sublist List.filter_sublist) ((sorted _ List.mem_cons_self).after _)
    fun row => ?_
  rw [List.mem_filter,decide_eq_true_eq]
  constructor
  · rintro ⟨member,stored⟩
    exact (mem_after key).mpr ⟨stored,walk.beyond row member⟩
  · intro member
    exact ⟨walk.mem positive sorted grows rows rfl row member,((mem_after key).mp member).1⟩

/-- Where nothing is written in between, a walk yields the rows after its cursor. -/
theorem Walk.still (positive : 1 ≤ limit) {cursor : Option κ} {rows : List α} {stores : List (List α)} {read : List α}
    (walk : Walk key limit cursor stores read) (same : ∀ rows' ∈ stores, rows' = rows) (sorted : Ascending key rows) :
    read = Keyset.after key cursor rows := by
  induction walk with
  | last done =>
    obtain rfl := same _ List.mem_cons_self
    exact take_of_next_none positive done
  | more onward _ ih =>
    obtain rfl := same _ List.mem_cons_self
    obtain ⟨last,ends,rfl⟩ := next_eq_some onward
    rw [ih fun rows' member => same rows' (List.mem_cons_of_mem _ member)]
    exact sorted.resume _ limit ends

/-- Such a walk ends. -/
theorem walk_ends (limit : Nat) {rows : List α} (sorted : Ascending key rows) (cursor : Option κ) :
    ∃ n read, Walk key limit cursor (List.replicate (n + 1) rows) read := by
  induction size : (Keyset.after key cursor rows).length using Nat.strongRecOn generalizing cursor with
  | ind size ih =>
    cases onward : next key limit cursor rows with
    | none => exact ⟨0,_,.last onward⟩
    | some later =>
      obtain ⟨last,ends,rfl⟩ := next_eq_some onward
      have whole := congrArg List.length (sorted.resume cursor limit ends)
      have nonempty : 0 < ((Keyset.after key cursor rows).take limit).length :=
        List.length_pos_of_mem (List.mem_of_getLast? ends)
      rw [List.length_append] at whole
      obtain ⟨n,read,walk⟩ := ih _ (by omega) (some (key last)) rfl
      exact ⟨n + 1,_,.more onward walk⟩

end Walks

end Keyset
