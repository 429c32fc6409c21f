import Mathlib.Data.List.TakeWhile
import Ratatoskr.Eventing.Outbox
import Ratatoskr.Json

/-! Whether the text of a publish error fits the column it is recorded in. -/
namespace Ratatoskr.Eventing

section Trimmed

theorem trim_eq_nil {text : List Char} : trimWhiteSpace text = [] ↔ ∀ c ∈ text, isWhiteSpace c = true := by
  simp only [trimWhiteSpace,List.reverse_eq_nil_iff,List.dropWhile_eq_nil_iff,List.mem_reverse]
  constructor
  · intro all c inside
    by_cases first : c ∈ text.dropWhile isWhiteSpace
    · exact all c first
    · rw [← List.takeWhile_append_dropWhile (p := isWhiteSpace) (l := text),List.mem_append] at inside
      exact List.mem_takeWhile_imp (inside.resolve_right first)
  · exact fun all c inside => all c (List.dropWhile_subset _ inside)

theorem trim_map {f : Char → Char} (same : ∀ c, isWhiteSpace (f c) = isWhiteSpace c) (text : List Char) :
    trimWhiteSpace (text.map f) = (trimWhiteSpace text).map f := by
  have composed : isWhiteSpace ∘ f = isWhiteSpace := funext same
  simp only [trimWhiteSpace,List.dropWhile_map,← List.map_reverse,composed]

end Trimmed

/-- A line break becomes a space. -/
def flat (c : Char) : Char := if c = '\n' ∨ c = '\r' then ' ' else c

theorem flat_white (c : Char) : isWhiteSpace (flat c) = isWhiteSpace c := by
  unfold flat
  split
  · rename_i broken
    rcases broken with rfl | rfl <;> decide
  · rfl

theorem flat_plain (c : Char) : flat c ≠ '\n' ∧ flat c ≠ '\r' := by
  unfold flat
  split
  · decide
  · rename_i plain
    exact not_or.mp plain

theorem flat_zero (c : Char) : (flat c).toNat = 0 ↔ c.toNat = 0 := by
  unfold flat
  split
  · rename_i broken
    rcases broken with rfl | rfl <;> decide
  · exact Iff.rfl

/-- The characters of an error that are kept, line breaks aside. -/
def keptOf (error : String) : List Char :=
  if (trimWhiteSpace error.toList).length ≤ 200 then trimWhiteSpace error.toList else (trimWhiteSpace error.toList).take 197

/-- What is stored is what is kept on one line, and three dots where the rest was cut. -/
theorem safeError_eq (error : String) : (safeError error).toList = (keptOf error).map flat ++
    if (trimWhiteSpace error.toList).length ≤ 200 then [] else ['.','.','.'] := by
  have trimmed : trimWhiteSpace (error.toList.map flat) = (trimWhiteSpace error.toList).map flat := trim_map flat_white _
  have unfolded : safeError error = if (trimWhiteSpace (error.toList.map flat)).length ≤ 200 then
      String.ofList (trimWhiteSpace (error.toList.map flat))
    else String.ofList ((trimWhiteSpace (error.toList.map flat)).take 197 ++ "...".toList) := rfl
  rw [unfolded,trimmed,List.length_map]
  unfold keptOf
  split
  · rw [String.toList_ofList,List.append_nil]
  · rw [String.toList_ofList,List.map_take]
    rfl

/-- An error that can be recorded says something, and PostgreSQL takes what is kept of it. -/
def Recordable (error : String) : Prop :=
  (∃ c ∈ error.toList, isWhiteSpace c = false) ∧ ∀ c ∈ keptOf error, c.toNat ≠ 0

theorem keptOf_nonempty {error : String} : keptOf error ≠ [] ↔ ∃ c ∈ error.toList, isWhiteSpace c = false := by
  have blank : keptOf error = [] ↔ trimWhiteSpace error.toList = [] := by
    unfold keptOf
    split
    · exact Iff.rfl
    · simp
  rw [ne_eq,blank,trim_eq_nil]
  simp

theorem safeError_short (error : String) : isShortSafe (safeError error) = true ↔ keptOf error ≠ [] := by
  have stored := safeError_eq error
  have length : (safeError error).length = (safeError error).toList.length := rfl
  have plain : (safeError error).toList.all (fun c => c ≠ '\n' && c ≠ '\r') = true := by
    rw [List.all_eq_true]
    intro c inside
    rw [stored] at inside
    rcases List.mem_append.mp inside with kept | dots
    · obtain ⟨own,_,rfl⟩ := List.mem_map.mp kept
      have := flat_plain own
      simpa using this
    · split at dots
      · cases dots
      · simp only [List.mem_cons,List.not_mem_nil,or_false,or_self] at dots
        subst dots
        decide
  rw [isShortSafe,plain,Bool.and_true,lengthBetween,Bool.and_eq_true,decide_eq_true_eq,decide_eq_true_eq,length,stored]
  unfold keptOf
  split
  · rename_i short
    simp only [List.append_nil,List.length_map,short,and_true]
    exact List.length_pos_iff
  · rename_i long
    simp only [List.length_append,List.length_map,List.length_take,List.length_cons,List.length_nil]
    have some : List.take 197 (trimWhiteSpace error.toList) ≠ [] := by
      rw [ne_eq,List.take_eq_nil_iff]
      rintro (zero | empty)
      · cases zero
      · rw [empty] at long
        exact long (by decide)
    exact ⟨fun _ => some,fun _ => by omega⟩

theorem safeError_text (error : String) : isText (safeError error) = true ↔ ∀ c ∈ keptOf error, c.toNat ≠ 0 := by
  rw [isText,List.all_eq_true,safeError_eq]
  constructor
  · intro all c inside zero
    have stored := all (flat c) (List.mem_append_left _ (List.mem_map_of_mem inside))
    exact (of_decide_eq_true stored) ((flat_zero c).mpr zero)
  · intro kept c inside
    refine decide_eq_true ?_
    rcases List.mem_append.mp inside with own | dots
    · obtain ⟨before,listed,rfl⟩ := List.mem_map.mp own
      exact fun zero => kept before listed ((flat_zero before).mp zero)
    · split at dots
      · cases dots
      · simp only [List.mem_cons,List.not_mem_nil,or_false,or_self] at dots
        subst dots
        decide

/-- The CHECK on the error is one beside the others. -/
theorem checks_lastError (row : OutboxRow) : row.checks = true ↔
    row.lastError.all isShortSafe = true ∧ { row with lastError := none }.checks = true := by
  simp only [OutboxRow.checks,Option.all_none,Bool.and_true,Bool.and_eq_true]
  constructor
  · rintro ⟨⟨⟨⟨⟨⟨subject,claim⟩,claimant⟩,error⟩,ending⟩,published⟩,payload⟩
    exact ⟨error,⟨⟨⟨⟨subject,claim⟩,claimant⟩,ending⟩,published⟩,payload⟩
  · rintro ⟨error,⟨⟨⟨⟨subject,claim⟩,claimant⟩,ending⟩,published⟩,payload⟩
    exact ⟨⟨⟨⟨⟨⟨subject,claim⟩,claimant⟩,error⟩,ending⟩,published⟩,payload⟩

/-- The text that is stored for a failed publication passes its CHECK and can be encoded exactly where the error is
recordable, and the CHECK is one that every failed row has to pass. -/
theorem failures_recorded (error : String) :
    (isShortSafe (safeError error) = true ∧ isText (safeError error) = true ↔ Recordable error) ∧
    ∀ now row, (Outbox.failedRow error now row).checks = true ↔ isShortSafe (safeError error) = true ∧
      { Outbox.failedRow error now row with lastError := none }.checks = true := by
  constructor
  · rw [safeError_short,safeError_text,keptOf_nonempty,Recordable]
  · intro now row
    have error_eq : (Outbox.failedRow error now row).lastError = some (safeError error) := rfl
    rw [checks_lastError,error_eq,Option.all_some]

/-- A message that a publisher has claimed. -/
def claimedMessageRow : OutboxRow :=
  Outbox.claimedRow "platform-edge" 0 (Outbox.enqueuedRow 1 1 "cmd.content.capture.requested.v1" "\x7b\x7d" none 0)

/-- An error without a text is not recorded, while one with a text is. -/
theorem empty_error_unrecorded : claimedMessageRow.checks = true ∧
    Outbox.markFailed [claimedMessageRow] 1 "" 1000000 = none ∧
    (Outbox.markFailed [claimedMessageRow] 1 "timed out" 1000000).isSome := by
  decide +kernel

end Ratatoskr.Eventing
