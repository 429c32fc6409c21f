import Mathlib.Logic.Function.Basic

/-! Folders of files one level deep, as a POSIX file system keeps them. A name of a folder leads to a
file, and a rename moves the name: a handle that is open keeps to its file when the name is gone or
leads elsewhere. Opening a name for writing truncates the file it leads to, also under the handles
that others have on it. -/
set_option linter.unusedSectionVars false

namespace Files

/-- A file, by the name it was made under and a number that no other file has. -/
structure File (δ ν : Type) where
  folder : δ
  name : ν
  number : Nat
deriving DecidableEq

/-- What the names of a folder lead to, and when they last changed. -/
structure Folder (δ ν : Type) where
  entries : ν → Option (File δ ν)
  modified : Int

structure Tree (δ ν β : Type) where
  folders : δ → Option (Folder δ ν)
  contents : File δ ν → List β
  fresh : Nat

variable {δ ν β : Type} [DecidableEq δ] [DecidableEq ν]

namespace Tree

variable (tree : Tree δ ν β)

def empty : Tree δ ν β := ⟨fun _ => none,fun _ => [],0⟩

def lookup (d : δ) (name : ν) : Option (File δ ν) := (tree.folders d).bind fun folder => folder.entries name

/-- The bytes a name leads to. -/
def read (d : δ) (name : ν) : Option (List β) := (tree.lookup d name).map tree.contents

/-- `mkdir -p` -/
def makeFolder (d : δ) (now : Int) : Tree δ ν β :=
  match tree.folders d with
  | some _ => tree
  | none => { tree with folders := Function.update tree.folders d (some ⟨fun _ => none,now⟩) }

/-- `rm -r`; a handle on one of the files keeps it. -/
def removeFolder (d : δ) : Tree δ ν β := { tree with folders := Function.update tree.folders d none }

/-- A removal that failed on its way and left some of the names. -/
def thinFolder (d : δ) (kept : ν → Bool) (now : Int) : Tree δ ν β :=
  { tree with
    folders := Function.update tree.folders d
      ((tree.folders d).map fun folder => ⟨fun name => if kept name then folder.entries name else none,now⟩) }

/-- Opens a name for writing: a new file, or the one it leads to, truncated. -/
def create (d : δ) (name : ν) (now : Int) : Option (Tree δ ν β × File δ ν) :=
  (tree.folders d).map fun folder =>
    match folder.entries name with
    | some file => ({ tree with contents := Function.update tree.contents file [] },file)
    | none =>
      let file : File δ ν := ⟨d,name,tree.fresh⟩
      ({ folders := Function.update tree.folders d (some ⟨Function.update folder.entries name (some file),now⟩)
         contents := Function.update tree.contents file []
         fresh := tree.fresh + 1 },file)

/-- Writes at an offset; what lies between the end of the file and the offset reads as `hole`. -/
def write (hole : β) (file : File δ ν) (offset : Nat) (bytes : List β) : Tree δ ν β :=
  let old := tree.contents file
  { tree with
    contents := Function.update tree.contents file
      (old.take offset ++ List.replicate (offset - old.length) hole ++ bytes ++ old.drop (offset + bytes.length)) }

/-- Moves a name within its folder, over what the other name led to. -/
def rename (d : δ) (old new : ν) (now : Int) : Option (Tree δ ν β) :=
  (tree.folders d).bind fun folder => (folder.entries old).map fun file =>
    { tree with
      folders := Function.update tree.folders d
        (some ⟨Function.update (Function.update folder.entries old none) new (some file),now⟩) }

def unlink (d : δ) (name : ν) (now : Int) : Option (Tree δ ν β) :=
  (tree.folders d).bind fun folder => (folder.entries name).map fun _ =>
    { tree with folders := Function.update tree.folders d (some ⟨Function.update folder.entries name none,now⟩) }

section Effects

variable {tree} {later : Tree δ ν β} {d e : δ} {name other old new : ν} {file : File δ ν} {now : Int}

@[simp] theorem lookup_empty : (empty : Tree δ ν β).lookup d name = none := rfl

@[simp] theorem lookup_makeFolder : (tree.makeFolder d now).lookup e name = tree.lookup e name := by
  rw [makeFolder]
  split
  · rfl
  · rename_i absent
    by_cases same : e = d
    · subst same
      simp [lookup,absent]
    · simp [lookup,Function.update_of_ne same]

@[simp] theorem contents_makeFolder : (tree.makeFolder d now).contents = tree.contents := by
  rw [makeFolder]
  split <;> rfl

@[simp] theorem fresh_makeFolder : (tree.makeFolder d now).fresh = tree.fresh := by
  rw [makeFolder]
  split <;> rfl

theorem lookup_removeFolder : (tree.removeFolder d).lookup e name = if e = d then none else tree.lookup e name := by
  by_cases same : e = d
  · subst same
    simp [lookup,removeFolder]
  · simp [lookup,removeFolder,same]

@[simp] theorem contents_removeFolder : (tree.removeFolder d).contents = tree.contents := rfl

@[simp] theorem fresh_removeFolder : (tree.removeFolder d).fresh = tree.fresh := rfl

theorem lookup_thinFolder {kept : ν → Bool} :
    (tree.thinFolder d kept now).lookup e name = if e = d ∧ kept name = false then none else tree.lookup e name := by
  by_cases same : e = d
  · subst same
    cases stored : tree.folders e <;> cases keeps : kept name <;> simp [lookup,thinFolder,stored,keeps]
  · simp [lookup,thinFolder,same]

@[simp] theorem contents_thinFolder {kept : ν → Bool} : (tree.thinFolder d kept now).contents = tree.contents := rfl

@[simp] theorem fresh_thinFolder {kept : ν → Bool} : (tree.thinFolder d kept now).fresh = tree.fresh := rfl

@[simp] theorem lookup_write {hole : β} {offset : Nat} {bytes : List β} :
    (tree.write hole file offset bytes).lookup e name = tree.lookup e name := rfl

@[simp] theorem fresh_write {hole : β} {offset : Nat} {bytes : List β} :
    (tree.write hole file offset bytes).fresh = tree.fresh := rfl

theorem contents_write_of_ne {hole : β} {offset : Nat} {bytes : List β} {apart : File δ ν} (different : apart ≠ file) :
    (tree.write hole file offset bytes).contents apart = tree.contents apart := Function.update_of_ne different _ _

/-- A handle that writes where the file ends appends to it. -/
theorem contents_write_end {hole : β} {bytes : List β} :
    (tree.write hole file (tree.contents file).length bytes).contents file = tree.contents file ++ bytes := by
  simp [write]

/-- What opening a name for writing did. -/
structure Created (tree : Tree δ ν β) (d : δ) (name : ν) (later : Tree δ ν β) (file : File δ ν) : Prop where
  leads : later.lookup d name = some file
  others : ∀ e other, ¬(e = d ∧ other = name) → later.lookup e other = tree.lookup e other
  emptied : later.contents = Function.update tree.contents file []
  origin : tree.lookup d name = some file ∧ later.fresh = tree.fresh ∨
    tree.lookup d name = none ∧ file = ⟨d,name,tree.fresh⟩ ∧ later.fresh = tree.fresh + 1

theorem create_eq_some (made : tree.create d name now = some (later,file)) : Created tree d name later file := by
  obtain ⟨folder,stored,made⟩ := Option.map_eq_some_iff.mp made
  cases entry : folder.entries name with
  | some found =>
    simp only [entry,Prod.mk.injEq] at made
    obtain ⟨rfl,rfl⟩ := made
    have leads : tree.lookup d name = some found := by simp [lookup,stored,entry]
    exact ⟨leads,fun _ _ _ => rfl,rfl,Or.inl ⟨leads,rfl⟩⟩
  | none =>
    simp only [entry,Prod.mk.injEq] at made
    obtain ⟨rfl,rfl⟩ := made
    refine ⟨by simp [lookup],fun e other apart => ?_,rfl,Or.inr ⟨by simp [lookup,stored,entry],rfl,rfl⟩⟩
    by_cases same : e = d
    · subst same
      have different : other ≠ name := fun same => apart ⟨rfl,same⟩
      simp [lookup,stored,Function.update_of_ne different]
    · simp [lookup,Function.update_of_ne same]

/-- What moving a name did. -/
structure Renamed (tree : Tree δ ν β) (d : δ) (old new : ν) (later : Tree δ ν β) (file : File δ ν) : Prop where
  found : tree.lookup d old = some file
  leads : later.lookup d new = some file
  gone : old ≠ new → later.lookup d old = none
  others : ∀ e other, ¬(e = d ∧ (other = old ∨ other = new)) → later.lookup e other = tree.lookup e other
  contents : later.contents = tree.contents
  fresh : later.fresh = tree.fresh

theorem rename_eq_some (moved : tree.rename d old new now = some later) : ∃ file, Renamed tree d old new later file := by
  obtain ⟨folder,stored,moved⟩ := Option.bind_eq_some_iff.mp moved
  obtain ⟨file,entry,rfl⟩ := Option.map_eq_some_iff.mp moved
  refine ⟨file,by simp [lookup,stored,entry],by simp [lookup],fun apart => ?_,fun e other apart => ?_,rfl,rfl⟩
  · simp [lookup,Function.update_of_ne apart]
  · by_cases same : e = d
    · subst same
      have different : other ≠ old ∧ other ≠ new := by
        constructor <;> rintro rfl <;> simp at apart
      simp [lookup,stored,Function.update_of_ne different.1,Function.update_of_ne different.2]
    · simp [lookup,Function.update_of_ne same]

/-- The name is gone; the others stay. -/
theorem lookup_unlink (unlinked : tree.unlink d name now = some later) :
    later.lookup e other = if e = d ∧ other = name then none else tree.lookup e other := by
  obtain ⟨folder,stored,unlinked⟩ := Option.bind_eq_some_iff.mp unlinked
  obtain ⟨file,entry,rfl⟩ := Option.map_eq_some_iff.mp unlinked
  by_cases same : e = d
  · subst same
    by_cases again : other = name
    · simp [lookup,again]
    · simp [lookup,stored,again]
  · simp [lookup,same]

theorem contents_unlink (unlinked : tree.unlink d name now = some later) :
    later.contents = tree.contents ∧ later.fresh = tree.fresh := by
  obtain ⟨folder,stored,unlinked⟩ := Option.bind_eq_some_iff.mp unlinked
  obtain ⟨file,entry,rfl⟩ := Option.map_eq_some_iff.mp unlinked
  exact ⟨rfl,rfl⟩

/-- What a folder that is there was set to leaves every folder that was there. -/
private theorem isSome_update_folder {α : Type} {f : δ → Option α} {value : α} (there : (f d).isSome)
    (found : (Function.update f d (some value) e).isSome) : (f e).isSome := by
  by_cases same : e = d
  · exact same ▸ there
  · rwa [Function.update_of_ne same] at found

theorem folder_create (made : tree.create d name now = some (later,file)) (found : (later.folders e).isSome) : (tree.folders e).isSome := by
  obtain ⟨folder,there,same⟩ := Option.map_eq_some_iff.mp made
  have present : (tree.folders d).isSome := there ▸ rfl
  split at same <;> cases same
  · exact found
  · exact isSome_update_folder present found

theorem folder_rename (moved : tree.rename d old new now = some later) (found : (later.folders e).isSome) : (tree.folders e).isSome := by
  obtain ⟨folder,there,moved⟩ := Option.bind_eq_some_iff.mp moved
  obtain ⟨file,_,rfl⟩ := Option.map_eq_some_iff.mp moved
  exact isSome_update_folder (there ▸ rfl) found

theorem folder_unlink (gone : tree.unlink d name now = some later) (found : (later.folders e).isSome) : (tree.folders e).isSome := by
  obtain ⟨folder,there,gone⟩ := Option.bind_eq_some_iff.mp gone
  obtain ⟨file,_,rfl⟩ := Option.map_eq_some_iff.mp gone
  exact isSome_update_folder (there ▸ rfl) found

theorem folder_makeFolder (found : ((tree.makeFolder d now).folders e).isSome) : e = d ∨ (tree.folders e).isSome := by
  rw [makeFolder] at found
  split at found
  · exact Or.inr found
  · by_cases same : e = d
    · exact Or.inl same
    · exact Or.inr (by simpa [Function.update_of_ne same] using found)

theorem folder_removeFolder (found : ((tree.removeFolder d).folders e).isSome) : (tree.folders e).isSome := by
  by_cases same : e = d
  · subst same
    simp [removeFolder] at found
  · simpa [removeFolder,Function.update_of_ne same] using found

theorem folder_thinFolder {kept : ν → Bool} (found : ((tree.thinFolder d kept now).folders e).isSome) : (tree.folders e).isSome := by
  by_cases same : e = d
  · subst same
    simpa [thinFolder] using found
  · simpa [thinFolder,Function.update_of_ne same] using found

end Effects

section Sound

/-- Every name leads to a file of its own folder that was made already, and no two names to one. -/
structure Sound (tree : Tree δ ν β) : Prop where
  made : ∀ d name file, tree.lookup d name = some file → file.number < tree.fresh
  own : ∀ d name file, tree.lookup d name = some file → file.folder = d
  single : ∀ d name other file, tree.lookup d name = some file → tree.lookup d other = some file → name = other

variable {tree} {later : Tree δ ν β} {d : δ} {name old new : ν} {file : File δ ν}

theorem sound_empty : (empty : Tree δ ν β).Sound := ⟨by simp,by simp,by simp⟩

/-- Names that go leave the others sound. -/
theorem Sound.fewer (sound : tree.Sound) (fresh : later.fresh = tree.fresh)
    (fewer : ∀ d name file, later.lookup d name = some file → tree.lookup d name = some file) : later.Sound where
  made d name file leads := fresh ▸ sound.made d name file (fewer d name file leads)
  own d name file leads := sound.own d name file (fewer d name file leads)
  single d name other file first second := sound.single d name other file (fewer d name file first) (fewer d other file second)

theorem Sound.create (sound : tree.Sound) (created : Created tree d name later file) : later.Sound := by
  have known {e other found} (leads : later.lookup e other = some found) (apart : ¬(e = d ∧ other = name)) :
      tree.lookup e other = some found := created.others e other apart ▸ leads
  rcases created.origin with ⟨leads,fresh⟩ | ⟨absent,rfl,fresh⟩
  · refine sound.fewer fresh fun e other found there => ?_
    by_cases same : e = d ∧ other = name
    · obtain ⟨rfl,rfl⟩ := same
      rw [leads,← there,created.leads]
    · exact known there same
  · have unmade {e other found} (leads : tree.lookup e other = some found) : found.number ≠ tree.fresh :=
      Nat.ne_of_lt (sound.made e other found leads)
    refine ⟨fun e other found there => ?_,fun e other found there => ?_,fun e other third found first second => ?_⟩
    · by_cases same : e = d ∧ other = name
      · obtain ⟨rfl,rfl⟩ := same
        obtain rfl := Option.some.inj (there.symm.trans created.leads)
        rw [fresh]
        exact Nat.lt_succ_self _
      · rw [fresh]
        exact Nat.lt_succ_of_lt (sound.made e other found (known there same))
    · by_cases same : e = d ∧ other = name
      · obtain ⟨rfl,rfl⟩ := same
        obtain rfl := Option.some.inj (there.symm.trans created.leads)
        rfl
      · exact sound.own e other found (known there same)
    · by_cases same : e = d ∧ other = name
      · obtain ⟨rfl,rfl⟩ := same
        obtain rfl := Option.some.inj (first.symm.trans created.leads)
        exact Classical.byContradiction fun apart => unmade (known second fun same => apart same.2.symm) rfl
      · by_cases again : e = d ∧ third = name
        · obtain ⟨rfl,rfl⟩ := again
          obtain rfl := Option.some.inj (second.symm.trans created.leads)
          exact absurd rfl (unmade (known first same))
        · exact sound.single e other third found (known first same) (known second again)

theorem Sound.rename (sound : tree.Sound) (renamed : Renamed tree d old new later file) : later.Sound := by
  have known {e other found} (leads : later.lookup e other = some found) (apart : ¬(e = d ∧ other = new)) :
      tree.lookup e other = some found ∧ ¬(e = d ∧ other = old) := by
    by_cases source : e = d ∧ other = old
    · obtain ⟨rfl,rfl⟩ := source
      rw [renamed.gone fun same => apart ⟨rfl,same⟩] at leads
      cases leads
    · rw [renamed.others e other fun named => named.2.elim (fun same => source ⟨named.1,same⟩) fun same => apart ⟨named.1,same⟩] at leads
      exact ⟨leads,source⟩
  refine ⟨fun e other found there => ?_,fun e other found there => ?_,fun e other third found first second => ?_⟩
  · rw [renamed.fresh]
    by_cases same : e = d ∧ other = new
    · obtain ⟨rfl,rfl⟩ := same
      obtain rfl := Option.some.inj (there.symm.trans renamed.leads)
      exact sound.made _ _ _ renamed.found
    · exact sound.made e other found (known there same).1
  · by_cases same : e = d ∧ other = new
    · obtain ⟨rfl,rfl⟩ := same
      obtain rfl := Option.some.inj (there.symm.trans renamed.leads)
      exact sound.own _ _ _ renamed.found
    · exact sound.own e other found (known there same).1
  · by_cases same : e = d ∧ other = new
    · obtain ⟨rfl,rfl⟩ := same
      obtain rfl := Option.some.inj (first.symm.trans renamed.leads)
      refine Classical.byContradiction fun apart => ?_
      obtain ⟨there,elsewhere⟩ := known second fun same => apart same.2.symm
      exact elsewhere ⟨rfl,sound.single _ _ _ _ there renamed.found⟩
    · obtain ⟨there,elsewhere⟩ := known first same
      by_cases again : e = d ∧ third = new
      · obtain ⟨rfl,rfl⟩ := again
        obtain rfl := Option.some.inj (second.symm.trans renamed.leads)
        exact absurd ⟨rfl,sound.single _ _ _ _ there renamed.found⟩ elsewhere
      · exact sound.single e other third found there (known second again).1

end Sound
end Tree
end Files
