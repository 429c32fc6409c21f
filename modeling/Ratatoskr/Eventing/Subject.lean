import Ratatoskr.Eventing.Tables

/-! The grammar of the subjects of the bus: a message class and the type name of a contract. -/
namespace Ratatoskr.Eventing

/-- What a message is for, and the first token of its subject. -/
inductive MessageClass where
  | command | event
deriving DecidableEq

def MessageClass.asStr : MessageClass → String
  | .command => "cmd"
  | .event => "evt"

/-- `rsplit_once(".v")` -/
def rsplitVersion : List Char → Option (List Char × List Char)
  | [] => none
  | c :: rest =>
    match rsplitVersion rest with
    | some (body,version) => some (c :: body,version)
    | none => if c = '.' ∧ rest.head? = some 'v' then some ([],rest.tail) else none

theorem rsplit_version_eq {text body version : List Char} (split : rsplitVersion text = some (body,version)) :
    text = body ++ '.' :: 'v' :: version := by
  induction text generalizing body with
  | nil => cases split
  | cons c rest ih =>
    simp only [rsplitVersion] at split
    cases found : rsplitVersion rest with
    | some inner =>
      rw [found] at split
      obtain ⟨rfl,rfl⟩ := Prod.mk.inj (Option.some.inj split)
      rw [ih found,List.cons_append]
    | none =>
      rw [found] at split
      obtain ⟨⟨rfl,head⟩,same⟩ := Option.ite_none_right_eq_some.mp split
      obtain ⟨rfl,rfl⟩ := Prod.mk.inj (Option.some.inj same)
      obtain ⟨tail,rfl⟩ := List.head?_eq_some_iff.mp head
      rfl

/-- A token of a subject -/
def isSubjectToken (segment : List Char) : Bool := isToken Char.isLower isNamespaceChar 31 segment

/-- The refusal of a type name or a subject, with the rule it breaks. -/
structure InvalidSubject where
  raw : String
  why : String
deriving DecidableEq

namespace Subject

def maxLen : Nat := 160

/-- The subject of a contract type name. -/
def new (messageClass : MessageClass) (typeName : String) : Except InvalidSubject String :=
  match rsplitVersion typeName.toList with
  | none => .error ⟨typeName,"a contract type name ends with .v<major>"⟩
  | some (body,version) =>
    if version.isEmpty || 3 < version.length || !(version.all (isDigitChar '0')) || version.head? == some '0' then
      .error ⟨typeName,"the major version is 1..=999 with no leading zero"⟩
    else
      let segments := body.splitOn '.'
      if !(2 ≤ segments.length && segments.length ≤ 4) then
        .error ⟨typeName,"a contract type name has two to four segments before .v"⟩
      else if !(segments.all isSubjectToken) then
        .error ⟨typeName,"every segment is ^[a-z][a-z0-9_-]{0,31}$"⟩
      else
        let subject := messageClass.asStr ++ "." ++ typeName
        if maxLen < subject.utf8ByteSize then
          .error ⟨typeName,"the subject is longer than 160 characters"⟩
        else .ok subject

/-- Reads a stored or received subject back. -/
def parse (raw : String) : Except InvalidSubject String :=
  match raw.toList.span (· ≠ '.') with
  | (messageClass,_ :: typeName) =>
    if messageClass = "cmd".toList then new .command (String.ofList typeName)
    else if messageClass = "evt".toList then new .event (String.ofList typeName)
    else .error ⟨raw,"a subject begins with cmd. or evt."⟩
  | (_,[]) => .error ⟨raw,"a subject begins with cmd. or evt."⟩

end Subject

/-- What `new` has checked of the part before the version and of the version. -/
theorem new_eq_ok {messageClass : MessageClass} {typeName subject : String}
    (made : Subject.new messageClass typeName = .ok subject) :
    ∃ body version, typeName.toList = body ++ '.' :: 'v' :: version ∧
      version.length ≤ 3 ∧ version.all (isDigitChar '0') = true ∧ (∃ first ∈ version.head?, first ≠ '0') ∧
      2 ≤ (body.splitOn '.').length ∧ (body.splitOn '.').length ≤ 4 ∧
      (body.splitOn '.').all isSubjectToken = true ∧ subject = messageClass.asStr ++ "." ++ typeName := by
  rw [Subject.new] at made
  split at made
  · cases made
  · rename_i body version found
    split at made
    · cases made
    · rename_i numbered
      simp only [Bool.or_eq_true,List.isEmpty_iff,decide_eq_true_eq,Bool.not_eq_true',beq_iff_eq,not_or,
        Bool.not_eq_false,Nat.not_lt] at numbered
      obtain ⟨⟨⟨nonempty,short⟩,digits⟩,leading⟩ := numbered
      dsimp only at made
      split at made
      · cases made
      · rename_i counted
        simp only [Bool.not_eq_true',Bool.not_eq_false,Bool.and_eq_true,decide_eq_true_eq] at counted
        split at made
        · cases made
        · rename_i tokens
          simp only [Bool.not_eq_true',Bool.not_eq_false] at tokens
          split at made
          · cases made
          · refine ⟨body,version,rsplit_version_eq found,short,digits,?_,counted.1,counted.2,tokens,
              (Except.ok.inj made).symm⟩
            obtain ⟨first,rest,rfl⟩ := List.exists_cons_of_ne_nil nonempty
            exact ⟨first,rfl,fun zero => leading (zero ▸ rfl)⟩

/-- `isVersion` says of a version what `new` checks of it. -/
theorem version_of_digits {version : List Char} (short : version.length ≤ 3)
    (digits : version.all (isDigitChar '0') = true) (leading : ∃ first ∈ version.head?, first ≠ '0') :
    isVersion ('v' :: version) = true := by
  obtain ⟨first,head,nonzero⟩ := leading
  obtain ⟨rest,rfl⟩ := List.head?_eq_some_iff.mp head
  simp only [List.all_cons,Bool.and_eq_true,List.length_cons] at digits short
  have positive : isDigitChar '1' first = true := by
    have bounds := digits.1
    simp only [isDigitChar,Bool.and_eq_true,decide_eq_true_eq] at bounds ⊢
    refine ⟨?_,bounds.2⟩
    have above : '0'.toNat < first.toNat := Nat.lt_of_le_of_ne bounds.1 fun same => nonzero (Char.toNat_inj.mp same.symm)
    exact above
  simp only [isVersion,isToken,Bool.and_eq_true,decide_eq_true_eq]
  exact ⟨⟨positive,by omega⟩,digits.2⟩

/-- The last part of a type name is its version. -/
theorem splitOn_typeName {text body version : List Char} (same : text = body ++ '.' :: 'v' :: version)
    (digits : version.all (isDigitChar '0') = true) : text.splitOn '.' = body.splitOn '.' ++ ['v' :: version] := by
  have noDot : '.' ∉ 'v' :: version := by
    intro dot
    rcases List.mem_cons.mp dot with letter | digit
    · cases letter
    · have inside := List.all_eq_true.mp digits '.' digit
      revert inside
      decide
  rw [same,List.splitOn_append_cons_self,List.splitOn_eq_singleton noDot]

/-- A subject that `new` makes passes the CHECK of the tables that store subjects. -/
theorem new_isSubject {messageClass : MessageClass} {typeName subject : String}
    (made : Subject.new messageClass typeName = .ok subject) : isSubject subject = true := by
  obtain ⟨body,version,text,short,digits,leading,least,most,tokens,rfl⟩ := new_eq_ok made
  have split : (messageClass.asStr ++ "." ++ typeName).toList.splitOn '.' =
      messageClass.asStr.toList :: (body.splitOn '.' ++ ['v' :: version]) := by
    have tail : typeName.toList.splitOn '.' = body.splitOn '.' ++ ['v' :: version] := splitOn_typeName text digits
    have first : '.' ∉ messageClass.asStr.toList := by cases messageClass <;> decide
    rw [String.toList_append,String.toList_append,List.append_assoc,← tail]
    exact List.splitOn_append_cons_self_of_not_mem first _
  have root : (messageClass.asStr.toList == "cmd".toList || messageClass.asStr.toList == "evt".toList) = true := by
    cases messageClass <;> decide
  simp only [isSubject,split,List.dropLast_concat,List.getLastD_concat,Bool.and_eq_true,decide_eq_true_eq]
  exact ⟨⟨⟨⟨root,least⟩,most⟩,tokens⟩,version_of_digits short digits leading⟩

/-- So does one that `parse` reads. -/
theorem parse_isSubject {raw subject : String} (read : Subject.parse raw = .ok subject) :
    isSubject subject = true := by
  rw [Subject.parse] at read
  split at read
  · split at read
    · exact new_isSubject read
    · split at read
      · exact new_isSubject read
      · cases read
  · cases read

end Ratatoskr.Eventing
