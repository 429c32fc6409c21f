import Mathlib.Data.List.Chain
import Ratatoskr.PublicApi.Listings

/-! Following a listing from page to page. All of a listing compares rows by one order, so the pages are
pieces of one list. -/
namespace Ratatoskr

section Order

variable {ρ : Type} {place : ρ → Int × Nat} {wanted : ρ → Bool}

/-- The order of a listing: a row comes before those that are less. -/
def newest (position : Int × Nat) : (Int ×ₗ Nat)ᵒᵈ := OrderDual.toDual (toLex position)

theorem rowLess_iff (a b : Int × Nat) : rowLess a b = true ↔ newest b < newest a := by
  simp [rowLess,newest,OrderDual.toDual_lt_toDual,Prod.Lex.toLex_lt_toLex]

theorem newest_injective : Function.Injective newest := fun _ _ same =>
  toLex.injective (OrderDual.toDual.injective same)

/-- The stored rows have one id each, and instants that the program can hold. -/
structure Stored (place : ρ → Int × Nat) (stored : List ρ) : Prop where
  distinct : (stored.map fun row => (place row).2).Nodup
  inRange : ∀ row ∈ stored, InRange ((place row).1 + databaseEpoch)
  uuids : ∀ row ∈ stored, (place row).2 < uuidBound

theorem mem_listed {stored : List ρ} {row : ρ} : row ∈ listed place wanted stored ↔ row ∈ stored ∧ wanted row = true := by
  simp [listed,List.mem_mergeSort]

theorem sorted_ascending {rows : List ρ} (distinct : (rows.map fun row => (place row).2).Nodup) :
    Keyset.Ascending (newest ∘ place) (rows.mergeSort fun a b => !rowLess (place a) (place b)) := by
  have le_iff (a b : ρ) : (!rowLess (place a) (place b)) = true ↔ newest (place a) ≤ newest (place b) := by
    rw [Bool.not_eq_true',← not_lt,← rowLess_iff,Bool.not_eq_true]
  have sorted := @List.pairwise_mergeSort ρ (fun a b => !rowLess (place a) (place b))
    (fun a b c first second => (le_iff a c).mpr (((le_iff a b).mp first).trans ((le_iff b c).mp second)))
    (fun a b => by
      rw [Bool.or_eq_true,le_iff,le_iff]
      exact le_total _ _) rows
  have apart : (rows.mergeSort fun a b => !rowLess (place a) (place b)).Pairwise fun a b => (place a).2 ≠ (place b).2 := by
    have nodup := ((List.mergeSort_perm rows fun a b => !rowLess (place a) (place b)).map
      fun row => (place row).2).nodup_iff.mpr distinct
    exact List.pairwise_map.mp nodup
  refine (sorted.and apart).imp fun {a b} both => lt_of_le_of_ne ((le_iff a b).mp both.1) fun same => both.2 ?_
  rw [newest_injective same]

theorem listed_ascending (wanted : ρ → Bool) {stored : List ρ} (rows : Stored place stored) :
    Keyset.Ascending (newest ∘ place) (listed place wanted stored) :=
  sorted_ascending ((List.filter_sublist.map _).nodup rows.distinct)

/-- What the query selects is the part of the list after the anchor. -/
theorem selectBefore_eq {stored : List ρ} (rows : Stored place stored) (before : Option Anchor) (limit : Nat) :
    selectBefore place wanted before limit stored =
      (Keyset.after (newest ∘ place) (before.map fun anchor => newest anchor.bound) (listed place wanted stored)).take
        limit := by
  refine congrArg (List.take limit) (Keyset.Ascending.ext
    (sorted_ascending ((List.filter_sublist.map _).nodup rows.distinct)) ((listed_ascending wanted rows).after _) fun row => ?_)
  rw [Keyset.mem_after,mem_listed,List.mem_mergeSort,List.mem_filter,Bool.and_eq_true]
  cases before with
  | none => simp
  | some anchor => simp [rowLess_iff,and_assoc]

variable {limit : Int}

theorem fetch_rows {stored : List ρ} (rows : Stored place stored) (bounds : 1 ≤ limit ∧ limit ≤ 100)
    (before : Option Anchor) :
    (Page.fetch place wanted before limit stored).rows =
      (Keyset.after (newest ∘ place) (before.map fun anchor => newest anchor.bound) (listed place wanted stored)).take
        limit.toNat := by
  simp only [Page.fetch,selectBefore_eq rows,List.take_take]
  congr 1
  omega

theorem fetch_hasMore {stored : List ρ} (rows : Stored place stored) (bounds : 1 ≤ limit ∧ limit ≤ 100)
    (before : Option Anchor) :
    (Page.fetch place wanted before limit stored).hasMore = true ↔ limit.toNat <
      (Keyset.after (newest ∘ place) (before.map fun anchor => newest anchor.bound) (listed place wanted stored)).length := by
  simp only [Page.fetch,selectBefore_eq rows,List.length_take,decide_eq_true_eq]
  omega

end Order

namespace PublicApi

open Operations

section Following

variable {ρ ι : Type} (answer : Option String → List ρ → Except FailureKind (Listed ι))

/-- A client that follows `next_cursor` until it is null, with what is stored at each request and the
items it is answered. -/
inductive Follows : Option String → List (List ρ) → List ι → Prop where
  | last {cursor : Option String} {stored : List ρ} {items : List ι} (page : answer cursor stored = .ok ⟨items,none⟩) :
      Follows cursor [stored] items
  | more {cursor : Option String} {text : String} {stored : List ρ} {stores : List (List ρ)} {items read : List ι}
      (page : answer cursor stored = .ok ⟨items,some text⟩) (rest : Follows (some text) stores read) :
      Follows cursor (stored :: stores) (items ++ read)

variable (place : ρ → Int × Nat) (wanted : ρ → Bool) (item : ρ → Option ι) (limit : Int)
  (decode : String → Option Anchor) (encode : Anchor → Option String)

/-- A handler answers with one page of the rows it wants. -/
structure Pages : Prop where
  bounds : 1 ≤ limit ∧ limit ≤ 100
  page : ∀ cursor stored out, answer cursor stored = .ok out → ∃ before, anchorOf decode cursor = .ok before ∧
    (Page.fetch place wanted before limit stored).rows.mapM item = some out.items ∧
    out.nextCursor = (Page.fetch place wanted before limit stored).nextCursor fun row => encode (readPlace place row)
  answers : ∀ cursor before stored, anchorOf decode cursor = .ok before → (∀ row ∈ stored, (item row).isSome) →
    ∃ out, answer cursor stored = .ok out

/-- The cursor of every row that a query can return is read back. -/
def RoundTrips : Prop :=
  ∀ micros id, InRange (micros + databaseEpoch) → id < uuidBound →
    ∃ text, encode (fromOffset micros,id) = some text ∧ text ≠ "" ∧ decode text = some (fromOffset micros,id)

/-- What following a listing promises; `idOf` is the id that an item shows. -/
structure PagesThrough (idOf : ι → Nat) : Prop where
  /-- Nothing is written in between: the walk ends, -/
  ends : ∀ stored, Ratatoskr.Stored place stored → (∀ row ∈ stored, (item row).isSome) →
    ∃ n read, Follows answer none (List.replicate (n + 1) stored) read
  /-- and it yields the listing. -/
  still : ∀ stored stores read, Ratatoskr.Stored place stored → Follows answer none stores read → (∀ rows ∈ stores, rows = stored) →
    (listed place wanted stored).mapM item = some read
  /-- `has_more` -/
  more : ∀ cursor before stored out, Ratatoskr.Stored place stored → anchorOf decode cursor = .ok before →
    answer cursor stored = .ok out →
    (out.nextCursor.isSome ↔ ∃ row ∈ stored, wanted row = true ∧
      (before.all fun anchor => rowLess (place row) anchor.bound) = true ∧ (place row).2 ∉ out.items.map idOf)
  /-- Rows are added in between: those of the first request are neither skipped nor repeated, -/
  keeps : ∀ cursor before stored stores read, anchorOf decode cursor = .ok before →
    Follows answer cursor (stored :: stores) read → (∀ rows ∈ stored :: stores, Ratatoskr.Stored place rows) →
    (stored :: stores).IsChain (· ⊆ ·) →
    ((listed place wanted stored).filter fun row => before.all fun anchor => rowLess (place row) anchor.bound).mapM item =
      some (read.filter fun shown => idOf shown ∈ stored.map fun row => (place row).2)
  /-- and no row is. -/
  once : ∀ cursor stores read, Follows answer cursor stores read → (∀ rows ∈ stores, Ratatoskr.Stored place rows) →
    stores.IsChain (· ⊆ ·) → (read.map idOf).Nodup

end Following

section Converted

variable {ρ ι : Type} {item : ρ → Option ι}

theorem mapM_cons_some {row : ρ} {rows : List ρ} {shown : List ι} :
    (row :: rows).mapM item = some shown ↔
      ∃ first rest, item row = some first ∧ rows.mapM item = some rest ∧ shown = first :: rest := by
  rw [List.mapM_cons]
  constructor
  · intro converted
    obtain ⟨first,one,converted⟩ := Option.bind_eq_some_iff.mp converted
    obtain ⟨rest,others,equal⟩ := Option.bind_eq_some_iff.mp converted
    exact ⟨first,rest,one,others,(Option.some.inj equal).symm⟩
  · rintro ⟨first,rest,one,others,rfl⟩
    simp [one,others]

theorem mapM_isSome {rows : List ρ} (all : ∀ row ∈ rows, (item row).isSome) : ∃ shown, rows.mapM item = some shown := by
  induction rows with
  | nil => exact ⟨[],rfl⟩
  | cons row rows ih =>
    obtain ⟨first,one⟩ := Option.isSome_iff_exists.mp (all row List.mem_cons_self)
    obtain ⟨rest,others⟩ := ih fun row member => all row (List.mem_cons_of_mem _ member)
    exact ⟨_,mapM_cons_some.mpr ⟨first,rest,one,others,rfl⟩⟩

theorem mapM_length {rows : List ρ} {shown : List ι} (converted : rows.mapM item = some shown) :
    shown.length = rows.length := by
  induction rows generalizing shown with
  | nil => simp_all
  | cons row rows ih =>
    obtain ⟨first,rest,-,others,rfl⟩ := mapM_cons_some.mp converted
    simp [ih others]

variable {idOf : ι → Nat} {id : ρ → Nat} (named : ∀ row shown, item row = some shown → idOf shown = id row)
include named

theorem mapM_ids {rows : List ρ} {shown : List ι} (converted : rows.mapM item = some shown) :
    shown.map idOf = rows.map id := by
  induction rows generalizing shown with
  | nil => simp_all
  | cons row rows ih =>
    obtain ⟨first,rest,one,others,rfl⟩ := mapM_cons_some.mp converted
    simp [ih others,named row first one]

theorem mapM_filter (p : Nat → Bool) {rows : List ρ} {shown : List ι} (converted : rows.mapM item = some shown) :
    (rows.filter fun row => p (id row)).mapM item = some (shown.filter fun first => p (idOf first)) := by
  induction rows generalizing shown with
  | nil => simp_all
  | cons row rows ih =>
    obtain ⟨first,rest,one,others,rfl⟩ := mapM_cons_some.mp converted
    rw [List.filter_cons,List.filter_cons,named row first one]
    split
    · exact mapM_cons_some.mpr ⟨first,_,one,ih others,rfl⟩
    · exact ih others

end Converted

section Walking

variable {ρ ι : Type} {answer : Option String → List ρ → Except FailureKind (Listed ι)} {place : ρ → Int × Nat}
  {wanted : ρ → Bool} {item : ρ → Option ι} {limit : Int} {decode : String → Option Anchor}
  {encode : Anchor → Option String}

theorem readPlace_bound (row : ρ) : (readPlace place row).bound = place row := by
  simp [readPlace,Anchor.bound,to_offset_fromOffset]

/-- A page ends the walk, or its cursor is the place of one of its rows. -/
theorem nextCursor_cases (wanted : ρ → Bool) {stored : List ρ} (rows : Ratatoskr.Stored place stored) (bounds : 1 ≤ limit ∧ limit ≤ 100)
    (trips : RoundTrips decode encode) (before : Option Anchor) :
    ((Page.fetch place wanted before limit stored).nextCursor (fun row => encode (readPlace place row)) = none ∧
        (Page.fetch place wanted before limit stored).hasMore = false ∧ Keyset.next (newest ∘ place) limit.toNat (before.map fun anchor => newest anchor.bound)
          (listed place wanted stored) = none) ∨
      ∃ row text, (Page.fetch place wanted before limit stored).nextCursor (fun row => encode (readPlace place row)) =
          some text ∧ (Page.fetch place wanted before limit stored).hasMore = true ∧
        anchorOf decode (some text) = .ok (some (readPlace place row)) ∧
        Keyset.next (newest ∘ place) limit.toNat (before.map fun anchor => newest anchor.bound)
          (listed place wanted stored) = some (newest (place row)) := by
  unfold Page.nextCursor Keyset.next
  rw [fetch_rows rows bounds]
  by_cases longer : (Page.fetch place wanted before limit stored).hasMore = true
  · rw [if_pos longer,if_pos ((fetch_hasMore rows bounds before).mp longer)]
    have length := (fetch_hasMore rows bounds before).mp longer
    cases ends : ((Keyset.after (newest ∘ place) (before.map fun anchor => newest anchor.bound)
        (listed place wanted stored)).take limit.toNat).getLast? with
    | none =>
      have empty := List.getLast?_eq_none_iff.mp ends
      have size := congrArg List.length empty
      rw [List.length_take,List.length_nil] at size
      omega
    | some row =>
      have member := (mem_listed.mp ((Keyset.mem_after _).mp (List.mem_of_mem_take (List.mem_of_getLast? ends))).1).1
      obtain ⟨text,written,nonempty,read⟩ := trips (place row).1 (place row).2 (rows.inRange row member)
        (rows.uuids row member)
      exact Or.inr ⟨row,text,written,longer,by simp [anchorOf,nonempty,read,readPlace],rfl⟩
  · rw [if_neg longer,if_neg (mt (fetch_hasMore rows bounds before).mpr longer)]
    exact Or.inl ⟨rfl,by simpa using longer,rfl⟩

/-- Following the cursors of a listing is a walk over its rows. -/
theorem Follows.walk (pages : Pages answer place wanted item limit decode encode) (trips : RoundTrips decode encode)
    {cursor : Option String} {stores : List (List ρ)} {read : List ι} (follows : Follows answer cursor stores read)
    (all : ∀ rows ∈ stores, Ratatoskr.Stored place rows) :
    ∃ before rows, anchorOf decode cursor = .ok before ∧ rows.mapM item = some read ∧
      Keyset.Walk (newest ∘ place) limit.toNat (before.map fun anchor => newest anchor.bound)
        (stores.map (listed place wanted)) rows := by
  induction follows with
  | @last cursor stored items page =>
    obtain ⟨before,read,shown,ended⟩ := pages.page _ _ _ page
    have rows := all _ List.mem_cons_self
    rcases nextCursor_cases wanted rows pages.bounds trips before with ⟨-,-,done⟩ | ⟨row,text,onward,-⟩
    · exact ⟨before,_,read,shown,fetch_rows rows pages.bounds before ▸ .last done⟩
    · exact absurd (ended.trans onward) (by simp)
  | @more cursor text stored stores items read page rest ih =>
    obtain ⟨before,here,shown,goes⟩ := pages.page _ _ _ page
    have rows := all _ List.mem_cons_self
    obtain ⟨after,more,there,converted,walk⟩ := ih fun rows member => all rows (List.mem_cons_of_mem _ member)
    rcases nextCursor_cases wanted rows pages.bounds trips before with ⟨ended,-,-⟩ | ⟨row,text',onward,-,back,next⟩
    · exact absurd (goes.trans ended) (by simp)
    · obtain rfl := Option.some.inj (goes.trans onward)
      obtain rfl := Except.ok.inj (back.symm.trans there)
      rw [Option.map_some,readPlace_bound] at walk
      refine ⟨before,_,here,?_,.more next walk⟩
      rw [← fetch_rows rows pages.bounds before,List.mapM_append,shown,converted]
      rfl

/-- Where nothing is written, a walk over the rows is answered page by page. -/
theorem follows_of_walk (pages : Pages answer place wanted item limit decode encode) (trips : RoundTrips decode encode)
    {stored : List ρ} (rows : Ratatoskr.Stored place stored) (convertible : ∀ row ∈ stored, (item row).isSome)
    {key : Option (Int ×ₗ Nat)ᵒᵈ} {lists : List (List ρ)} {read : List ρ}
    (walk : Keyset.Walk (newest ∘ place) limit.toNat key lists read)
    (same : ∀ list ∈ lists, list = listed place wanted stored) {cursor : Option String} {before : Option Anchor}
    (here : anchorOf decode cursor = .ok before) (at_ : before.map (fun anchor => newest anchor.bound) = key) :
    ∃ shown, Follows answer cursor (List.replicate lists.length stored) shown := by
  induction walk generalizing cursor before with
  | last done =>
    obtain rfl := same _ List.mem_cons_self
    subst at_
    obtain ⟨out,page⟩ := pages.answers cursor before stored here convertible
    obtain ⟨before',here',-,ended⟩ := pages.page _ _ _ page
    obtain rfl := Except.ok.inj (here.symm.trans here')
    rcases nextCursor_cases wanted rows pages.bounds trips before with ⟨stop,-⟩ | ⟨row,text,-,-,-,next⟩
    · obtain ⟨items,cursor'⟩ := out
      obtain rfl : cursor' = none := ended.trans stop
      exact ⟨items,.last page⟩
    · exact absurd (done.symm.trans next) (by simp)
  | more onward _ ih =>
    obtain rfl := same _ List.mem_cons_self
    subst at_
    obtain ⟨out,page⟩ := pages.answers cursor before stored here convertible
    obtain ⟨before',here',-,goes⟩ := pages.page _ _ _ page
    obtain rfl := Except.ok.inj (here.symm.trans here')
    rcases nextCursor_cases wanted rows pages.bounds trips before with ⟨-,-,stop⟩ | ⟨row,text,some_,-,back,next⟩
    · exact absurd (onward.symm.trans stop) (by simp)
    · obtain rfl := Option.some.inj (onward.symm.trans next)
      obtain ⟨shown,rest⟩ := ih (fun list member => same list (List.mem_cons_of_mem _ member)) back
        (by rw [Option.map_some,readPlace_bound])
      obtain ⟨items,cursor'⟩ := out
      obtain rfl : cursor' = some text := goes.trans some_
      exact ⟨items ++ shown,.more page rest⟩

theorem listed_distinct {stored : List ρ} (rows : Ratatoskr.Stored place stored) :
    ((listed place wanted stored).map fun row => (place row).2).Nodup :=
  ((List.mergeSort_perm _ _).map _).nodup_iff.mpr ((List.filter_sublist.map _).nodup rows.distinct)

/-- The rows of a list with an element past its first ones. -/
theorem exists_past {rows : List ρ} {id : ρ → Nat} (distinct : (rows.map id).Nodup) (n : Nat) :
    n < rows.length ↔ ∃ row ∈ rows, id row ∉ (rows.take n).map id := by
  constructor
  · intro longer
    refine ⟨rows[n],List.getElem_mem _,fun early => ?_⟩
    have split := distinct
    rw [← List.take_append_drop n rows,List.map_append,List.nodup_append] at split
    exact split.2.2 _ early _ (List.mem_map_of_mem (List.drop_eq_getElem_cons longer ▸ List.mem_cons_self)) rfl
  · rintro ⟨row,member,absent⟩
    by_contra short
    rw [List.take_of_length_le (by omega)] at absent
    exact absent (List.mem_map_of_mem member)

section Growing

variable {stores : List (List ρ)} (all : ∀ rows ∈ stores, Ratatoskr.Stored place rows) (grows : stores.IsChain (· ⊆ ·))
include all

theorem listed_lists : ∀ list ∈ stores.map (listed place wanted), Keyset.Ascending (newest ∘ place) list := by
  intro list member
  obtain ⟨rows,isStored,rfl⟩ := List.mem_map.mp member
  exact listed_ascending wanted (all rows isStored)

include grows

/-- An id names one row, at all times. -/
theorem same_row {rows others : List ρ} (one : rows ∈ stores) (two : others ∈ stores) {row other : ρ} (own : row ∈ rows)
    (own' : other ∈ others) (equal : (place row).2 = (place other).2) : row = other := by
  obtain ⟨whole,isStored,has⟩ := Keyset.exists_whole grows (List.ne_nil_of_mem one)
  exact List.inj_on_of_nodup_map (all whole isStored).distinct (has rows one own) (has others two own') equal

omit all

theorem listed_chain : (stores.map (listed place wanted)).IsChain (· ⊆ ·) := by
  rw [List.isChain_map]
  exact grows.imp fun _ _ grown row member => mem_listed.mpr ⟨grown (mem_listed.mp member).1,(mem_listed.mp member).2⟩

end Growing

/-- A listing that answers by pages keeps what following it promises. -/
theorem pagesThrough [DecidableEq ρ] (pages : Pages answer place wanted item limit decode encode)
    (trips : RoundTrips decode encode) {idOf : ι → Nat}
    (named : ∀ row shown, item row = some shown → idOf shown = (place row).2) :
    PagesThrough answer place wanted item decode idOf where
  ends stored rows convertible := by
    obtain ⟨n,read,walk⟩ := Keyset.walk_ends limit.toNat (listed_ascending wanted rows) none
    obtain ⟨shown,follows⟩ := follows_of_walk pages trips rows convertible walk
      (fun list member => (List.mem_replicate.mp member).2) (show anchorOf decode none = .ok none from rfl) rfl
    rw [List.length_replicate] at follows
    exact ⟨n,shown,follows⟩
  still stored stores read rows follows same := by
    obtain ⟨before,shown,here,converted,walk⟩ := follows.walk pages trips fun list member => same list member ▸ rows
    obtain rfl := Except.ok.inj here
    have all_same : ∀ list ∈ stores.map (listed place wanted), list = listed place wanted stored := by
      intro list member
      obtain ⟨rows',one,rfl⟩ := List.mem_map.mp member
      rw [same rows' one]
    have whole := walk.still (by have := pages.bounds; omega) all_same (listed_ascending wanted rows)
    rw [Option.map_none,Keyset.after_none] at whole
    exact whole ▸ converted
  more cursor before stored out rows here page := by
    obtain ⟨before',here',converted,next⟩ := pages.page _ _ _ page
    obtain rfl := Except.ok.inj (here.symm.trans here')
    have ids := mapM_ids named converted
    have hasMore : out.nextCursor.isSome ↔ (Page.fetch place wanted before limit stored).hasMore = true := by
      rw [next]
      rcases nextCursor_cases wanted rows pages.bounds trips before with ⟨stop,less,-⟩ | ⟨row,text,some_,more,-⟩
      · simp [stop,less]
      · simp [some_,more]
    have distinct : ((Keyset.after (newest ∘ place) (before.map fun anchor => newest anchor.bound)
        (listed place wanted stored)).map fun row => (place row).2).Nodup :=
      (List.filter_sublist.map _).nodup (listed_distinct rows)
    rw [hasMore,fetch_hasMore rows pages.bounds,ids,fetch_rows rows pages.bounds,exists_past distinct]
    refine exists_congr fun row => ?_
    rw [Keyset.mem_after,mem_listed]
    cases before with
    | none => simp [and_assoc]
    | some anchor => simp [rowLess_iff,and_assoc]
  keeps cursor before stored stores read here follows all grows := by
    obtain ⟨before',shown,here',converted,walk⟩ := follows.walk pages trips all
    obtain rfl := Except.ok.inj (here.symm.trans here')
    have kept := walk.keeps (by have := pages.bounds; omega) (listed_lists all) (listed_chain grows)
    have same : shown.filter (fun row => decide ((place row).2 ∈ stored.map fun row => (place row).2)) =
        shown.filter (· ∈ listed place wanted stored) := by
      refine List.filter_congr fun row member => ?_
      rw [decide_eq_decide,mem_listed]
      obtain ⟨list,isList,inside⟩ := walk.stored row member
      obtain ⟨rows,isStored,rfl⟩ := List.mem_map.mp isList
      obtain ⟨inRows,wants⟩ := mem_listed.mp inside
      constructor
      · intro listedId
        obtain ⟨other,own,equal⟩ := List.mem_map.mp listedId
        exact ⟨same_row all grows List.mem_cons_self isStored own inRows equal ▸ own,wants⟩
      · exact fun own => List.mem_map_of_mem own.1
    have filtered := mapM_filter named (fun id => decide (id ∈ stored.map fun row => (place row).2)) converted
    rw [same,kept] at filtered
    refine Eq.trans (congrArg (List.mapM item) (List.filter_congr fun row _ => ?_)) filtered
    cases before with
    | none => rfl
    | some anchor => exact Bool.eq_iff_iff.mpr (by simp [rowLess_iff])
  once cursor stores read follows all grows := by
    obtain ⟨before,shown,-,converted,walk⟩ := follows.walk pages trips all
    rw [mapM_ids named converted]
    refine List.pairwise_map.mpr (List.Pairwise.imp_of_mem ?_ (walk.ascending (listed_lists all)))
    intro row other member member' less equal
    obtain ⟨list,isList,inside⟩ := walk.stored row member
    obtain ⟨rows,isStored,rfl⟩ := List.mem_map.mp isList
    obtain ⟨list,isList,inside'⟩ := walk.stored other member'
    obtain ⟨others,isStored',rfl⟩ := List.mem_map.mp isList
    obtain rfl := same_row all grows isStored isStored' (mem_listed.mp inside).1 (mem_listed.mp inside').1 equal
    exact lt_irrefl _ less

end Walking

section Cursors

variable (uuid : UuidText) {contract : InspectionContract}

theorem asMicrosecond_fromOffset (micros : Int) : asMicrosecond (fromOffset micros) = micros + databaseEpoch := by
  rw [asMicrosecond,fromOffset,show micros * 1000 + 1000 * databaseEpoch = (micros + databaseEpoch) * 1000 by omega]
  exact Int.mul_tdiv_cancel _ (by decide)

theorem fromMicrosecond_asMicrosecond {micros : Int} (inRange : InRange (micros + databaseEpoch)) :
    fromMicrosecond (asMicrosecond (fromOffset micros)) = some (fromOffset micros) := by
  have same : 1000 * (micros + databaseEpoch - databaseEpoch) = micros * 1000 := by omega
  rw [asMicrosecond_fromOffset,fromMicrosecond,if_pos inRange,fromOffset,same]

theorem parseI64_decimal {value : Int} (inRange : InRange value) :
    parseI64 (String.ofList (Text.decimal value)) = some value := by
  rw [parseI64,String.toList_ofList,Text.ofDecimal_decimal]
  have within : -9223372036854775808 ≤ value ∧ value ≤ 9223372036854775807 := by
    obtain ⟨low,high⟩ := inRange
    exact ⟨by omega,by omega⟩
  rw [Option.filter_some,if_pos (decide_eq_true within)]

/-- The separator stands once before the id. -/
theorem splitOnce_anchorText (sep : Char) (apart : sep ≠ '-' ∧ sep.isDigit = false) (anchor : Anchor) :
    Text.splitOnce sep (anchorText uuid sep anchor).toList =
      some (Text.decimal (asMicrosecond anchor.1),(uuid.text anchor.2).toList) := by
  rw [anchorText,String.toList_ofList]
  refine Text.splitOnce_append _ fun member => ?_
  rcases Text.mem_decimal member with minus | digit
  · exact apart.1 minus
  · exact absurd digit (by simp [apart.2])

theorem anchorText_ne_empty (sep : Char) (anchor : Anchor) : anchorText uuid sep anchor ≠ "" := by
  intro empty
  have text := congrArg String.toList empty
  rw [anchorText,String.toList_ofList] at text
  simp at text

/-- `decode_cursor` undoes `encode_cursor`. -/
theorem cursor_round_trips : RoundTrips (decodeCursor uuid) fun anchor => some (encodeCursor uuid anchor) := by
  intro micros id inRange bound
  refine ⟨_,rfl,anchorText_ne_empty uuid '.' _,?_⟩
  have number : parseI64 (String.ofList (Text.decimal (asMicrosecond (fromOffset micros)))) =
      some (asMicrosecond (fromOffset micros)) := by
    rw [asMicrosecond_fromOffset]
    exact parseI64_decimal inRange
  simp [decodeCursor,encodeCursor,splitOnce_anchorText uuid '.' (by decide),uuid.parse_text id bound,number,
    fromMicrosecond_asMicrosecond inRange]

/-- The grammar takes `<microseconds>_<uuid>`. -/
def InspectionContract.TakesAnchors (contract : InspectionContract) (uuid : UuidText) : Prop :=
  ∀ micros id, InRange (micros + databaseEpoch) → id < uuidBound →
    contract.cursor (anchorText uuid '_' (fromOffset micros,id)) = true

theorem inspection_cursor_round_trips (takes : contract.TakesAnchors uuid) :
    RoundTrips (decodeInspectionCursor uuid contract) (encodeInspectionCursor uuid contract) := by
  intro micros id inRange bound
  refine ⟨_,by rw [encodeInspectionCursor,if_pos (takes micros id inRange bound)],anchorText_ne_empty uuid '_' _,?_⟩
  have number : parseI64 (String.ofList (Text.decimal (asMicrosecond (fromOffset micros)))) =
      some (asMicrosecond (fromOffset micros)) := by
    rw [asMicrosecond_fromOffset]
    exact parseI64_decimal inRange
  simp [decodeInspectionCursor,takes micros id inRange bound,splitOnce_anchorText uuid '_' (by decide),uuid.canonical_text bound,number,
    fromMicrosecond_asMicrosecond inRange]

end Cursors

section Handlers

variable {uuid : UuidText} {contract : InspectionContract}

@[simp] theorem bind_eq_ok {ε α β : Type} {first : Except ε α} {next : α → Except ε β} {out : β} :
    (first >>= next) = .ok out ↔ ∃ value, first = .ok value ∧ next value = .ok out := by
  cases first <;> simp [bind,Except.bind]

@[simp] theorem pure_eq_ok {ε α : Type} {value out : α} : (pure value : Except ε α) = .ok out ↔ value = out := by
  simp [pure,Except.pure]

theorem pageSize_bounds {raw : Option String} {limit : Int} (read : pageSize raw = .ok limit) :
    1 ≤ limit ∧ limit ≤ 100 := by
  unfold pageSize at read
  split at read
  · obtain rfl := Except.ok.inj read
    decide
  · split at read
    · split at read
      · rename_i within
        obtain rfl := Except.ok.inj read
        exact within
      · cases read
    · cases read

/-- What an inspection answers when the contracts take it. -/
theorem inspected_eq_ok {ρ ι : Type} {page : Page ρ} {summary : ρ → Option ι} {nextCursor : Option String}
    {out : Listed ι} : inspected contract page summary nextCursor = .ok out ↔
      page.rows.mapM summary = some out.items ∧ contract.pageLength out.items.length = true ∧ out.nextCursor = nextCursor := by
  unfold inspected
  cases converted : page.rows.mapM summary with
  | none => simp
  | some items =>
    by_cases fits : contract.pageLength items.length = true
    · simp only [fits,if_true,Except.ok.injEq]
      constructor
      · rintro rfl
        exact ⟨rfl,fits,rfl⟩
      · rintro ⟨same,-,next⟩
        obtain rfl := Option.some.inj same
        cases out
        exact congrArg _ next.symm
    · simp only [fits,if_false,Bool.false_eq_true,reduceCtorEq,false_iff]
      rintro ⟨same,fits',-⟩
      exact fits (Option.some.inj same ▸ fits')

theorem fetch_length {ρ : Type} {place : ρ → Int × Nat} {wanted : ρ → Bool} {limit : Int} (bounds : limit ≤ 100)
    (before : Option Anchor) (stored : List ρ) : (Page.fetch place wanted before limit stored).rows.length ≤ 100 := by
  simp only [Page.fetch,List.length_take]
  omega

theorem mem_of_fetched {ρ : Type} {place : ρ → Int × Nat} {wanted : ρ → Bool} {before : Option Anchor} {limit : Int}
    {stored : List ρ} {row : ρ} (member : row ∈ (Page.fetch place wanted before limit stored).rows) : row ∈ stored := by
  simp only [Page.fetch,selectBefore] at member
  exact (List.mem_filter.mp (List.mem_mergeSort.mp (List.mem_of_mem_take (List.mem_of_mem_take member)))).1

theorem inspected_answers {ρ ι : Type} (bounded : ∀ n ≤ 100, contract.pageLength n = true) {page : Page ρ}
    {summary : ρ → Option ι} {nextCursor : Option String} (length : page.rows.length ≤ 100)
    (convertible : ∀ row ∈ page.rows, (summary row).isSome) :
    ∃ out, inspected contract page summary nextCursor = .ok out := by
  obtain ⟨items,converted⟩ := mapM_isSome convertible
  exact ⟨⟨items,nextCursor⟩,inspected_eq_ok.mpr ⟨converted,bounded _ (mapM_length converted ▸ length),rfl⟩⟩

section Members

variable (params : ListParams) {status : Option OperationStatus} {kind : Option String} {limit : Int}
  (state : parameter contract.status params.state = .ok status) (size : pageSize params.limit = .ok limit)
include state size

theorem own_pages (userId : UserId)
    (named : parameter (fun raw => if isDottedName raw then some raw else none) params.kind = .ok kind) :
    Pages (fun cursor => listOwn uuid contract { params with cursor := cursor } userId) StoredOperation.place
      (ListScope.wants ⟨userId,status,kind,none,limit⟩) (fun row => some (OperationSummary.of row)) limit
      (decodeCursor uuid) (fun anchor => some (encodeCursor uuid anchor)) where
  bounds := pageSize_bounds size
  page cursor stored out answered := by
    simp only [listOwn,bind_eq_ok,pure_eq_ok,state,named,size,Except.ok.injEq,exists_eq_left'] at answered
    obtain ⟨before,anchored,rfl⟩ := answered
    exact ⟨before,anchored,List.mapM_pure (m := Option),rfl⟩
  answers cursor before stored anchored _ := by
    simp only [listOwn,bind_eq_ok,pure_eq_ok,state,named,size,anchored,Except.ok.injEq,exists_eq_left',exists_eq']

theorem inspection_pages (bounded : ∀ n ≤ 100, contract.pageLength n = true) {ownerUserId : Option UserId}
    (named : parameter (fun raw => if isContractName raw then some raw else none) params.kind = .ok kind)
    (owned : parameter uuid.canonical params.ownerUserId = .ok ownerUserId) :
    Pages (fun cursor => inspectOperations uuid contract { params with cursor := cursor } (some true))
      StoredOperation.place (AdminListScope.wants ⟨ownerUserId,status,kind,none,limit⟩) OperationInspectionSummary.of limit
      (decodeInspectionCursor uuid contract) (encodeInspectionCursor uuid contract) where
  bounds := pageSize_bounds size
  page cursor stored out answered := by
    simp only [inspectOperations,requireOwner,bind_eq_ok,state,named,owned,size,Except.ok.injEq,exists_eq_left',
      inspected_eq_ok,exists_const,true_and] at answered
    obtain ⟨before,anchored,converted,-,next⟩ := answered
    exact ⟨before,anchored,converted,next⟩
  answers cursor before stored anchored convertible := by
    simp only [inspectOperations,requireOwner,bind_eq_ok,state,named,owned,size,anchored,Except.ok.injEq,exists_eq_left',
      exists_const,true_and]
    exact inspected_answers bounded (fetch_length (pageSize_bounds size).2 _ _) fun row member =>
      convertible row (mem_of_fetched member)

omit state in
theorem audit_pages (bounded : ∀ n ≤ 100, contract.pageLength n = true) :
    Pages (fun cursor => inspectAuditEvents uuid contract { params with cursor := cursor } (some true)) StoredEvent.place
      (fun _ => true) (AuditEventSummary.of contract) limit (decodeInspectionCursor uuid contract)
      (encodeInspectionCursor uuid contract) where
  bounds := pageSize_bounds size
  page cursor stored out answered := by
    simp only [inspectAuditEvents,requireOwner,bind_eq_ok,size,Except.ok.injEq,exists_eq_left',inspected_eq_ok,exists_const,
      true_and] at answered
    obtain ⟨before,anchored,converted,-,next⟩ := answered
    exact ⟨before,anchored,converted,next⟩
  answers cursor before stored anchored convertible := by
    simp only [inspectAuditEvents,requireOwner,bind_eq_ok,size,anchored,Except.ok.injEq,exists_eq_left',exists_const,true_and]
    exact inspected_answers bounded (fetch_length (pageSize_bounds size).2 _ _) fun row member =>
      convertible row (mem_of_fetched member)

end Members

theorem inspection_named (row : StoredOperation) (shown : OperationInspectionSummary)
    (summary : OperationInspectionSummary.of row = some shown) : shown.operationId = row.1 := by
  simp only [OperationInspectionSummary.of,Option.bind_eq_bind,Option.bind_eq_some_iff,Option.pure_def] at summary
  obtain ⟨_,-,_,-,equal⟩ := summary
  exact (Option.some.inj equal) ▸ rfl

theorem audit_named (row : StoredEvent) (shown : AuditEventSummary)
    (summary : AuditEventSummary.of contract row = some shown) : shown.auditEventId = row.1 := by
  unfold AuditEventSummary.of at summary
  split at summary
  · simp only [Option.bind_eq_bind,Option.bind_eq_some_iff,Option.pure_def] at summary
    obtain ⟨_,-,equal⟩ := summary
    exact (Option.some.inj equal) ▸ rfl
  · cases summary

/-- The three listings, for every filter and page size that is accepted. -/
structure ListingsHold (uuid : UuidText) (contract : InspectionContract) : Prop where
  own : ∀ (params : ListParams) userId status kind limit, parameter contract.status params.state = .ok status →
    parameter (fun raw => if isDottedName raw then some raw else none) params.kind = .ok kind →
    pageSize params.limit = .ok limit →
    PagesThrough (fun cursor => listOwn uuid contract { params with cursor := cursor } userId) StoredOperation.place
      (ListScope.wants ⟨userId,status,kind,none,limit⟩) (fun row => some (OperationSummary.of row)) (decodeCursor uuid)
      OperationSummary.operationId
  deployment : ∀ (params : ListParams) ownerUserId status kind limit, parameter contract.status params.state = .ok status →
    parameter (fun raw => if isContractName raw then some raw else none) params.kind = .ok kind →
    parameter uuid.canonical params.ownerUserId = .ok ownerUserId → pageSize params.limit = .ok limit →
    PagesThrough (fun cursor => inspectOperations uuid contract { params with cursor := cursor } (some true))
      StoredOperation.place (AdminListScope.wants ⟨ownerUserId,status,kind,none,limit⟩) OperationInspectionSummary.of
      (decodeInspectionCursor uuid contract) OperationInspectionSummary.operationId
  audit : ∀ (params : ListParams) limit, pageSize params.limit = .ok limit →
    PagesThrough (fun cursor => inspectAuditEvents uuid contract { params with cursor := cursor } (some true))
      StoredEvent.place (fun _ => true) (AuditEventSummary.of contract) (decodeInspectionCursor uuid contract)
      AuditEventSummary.auditEventId
  cursors : RoundTrips (decodeCursor uuid) fun anchor => some (encodeCursor uuid anchor)
  inspectionCursors : RoundTrips (decodeInspectionCursor uuid contract) (encodeInspectionCursor uuid contract)

/-- `^[A-Za-z0-9_-]{1,512}$`, and the grammars of the audit trail. -/
def inspectionGrammars : InspectionContract where
  status := statusFromStr
  cursor raw := lengthBetween 1 512 raw && raw.toList.all fun c => c.isAlphanum || c == '_' || c == '-'
  auditAction raw := lengthBetween 1 120 raw
  auditTargetKind raw := lengthBetween 1 60 raw
  pageLength n := n ≤ 100

theorem inspectionGrammars_takes : inspectionGrammars.TakesAnchors hyphenatedUuid := by
  intro micros id inRange bound
  have digits : (Text.decimal (asMicrosecond (fromOffset micros))).length ≤ 19 := by
    rw [asMicrosecond_fromOffset]
    obtain ⟨low,high⟩ := inRange
    exact Text.decimal_length (k := 18) (by omega) (by omega)
  simp only [inspectionGrammars,anchorText,lengthBetween,← String.length_toList,String.toList_ofList,Bool.and_eq_true,
    decide_eq_true_eq,List.length_append,List.length_cons,hyphenated_length,List.all_eq_true,List.mem_append,List.mem_cons]
  refine ⟨⟨by omega,by omega⟩,fun c member => ?_⟩
  rcases member with number | rfl | identifier
  · rcases Text.mem_decimal number with rfl | digit
    · decide
    · simp [Char.isAlphanum,digit]
  · decide
  · rcases hyphenated_chars identifier with alphanum | rfl
    · simp [alphanum]
    · decide

end Handlers

end PublicApi

end Ratatoskr
