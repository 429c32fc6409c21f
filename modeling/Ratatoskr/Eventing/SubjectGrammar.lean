import Ratatoskr.Eventing.Subject
import Ratatoskr.Lib.Grammar
import Ratatoskr.PublicApi.Intake

/-! The subjects that the constructors accept are the words of the expression in the CHECK of the outbox. -/
namespace Ratatoskr.Eventing

open Grammar

/-- `[a-z][a-z0-9_-]{0,31}` -/
def subjectToken : Language Char := token Char.isLower isNamespaceChar 31

/-- `^(cmd|evt)\.[a-z][a-z0-9_-]{0,31}(\.[a-z][a-z0-9_-]{0,31}){1,3}\.v[1-9][0-9]{0,2}$` -/
def subjectExpression : Language Char :=
  (exactly ['c','m','d'] + exactly ['e','v','t']) * exactly ['.'] * subjectToken *
    times 1 3 (exactly ['.'] * subjectToken) * exactly ['.','v'] * token (isDigitChar '1') (isDigitChar '0') 2

theorem mem_subjectToken {part : List Char} : part ∈ subjectToken ↔ isSubjectToken part = true := by
  rw [subjectToken,mem_token,isSubjectToken]
  cases part with
  | nil => simp [isToken]
  | cons c rest => simp [isToken,and_assoc]

theorem mem_version {version : List Char} :
    version ∈ token (isDigitChar '1') (isDigitChar '0') 2 ↔ isVersion ('v' :: version) = true := by
  rw [mem_token,isVersion]
  cases version with
  | nil => simp [isToken]
  | cons c rest => simp [isToken,and_assoc]

/-- The words of the expression, part by part. -/
theorem mem_subjectExpression {text : List Char} : text ∈ subjectExpression ↔ ∃ root segments version,
    (root = ['c','m','d'] ∨ root = ['e','v','t']) ∧ 2 ≤ segments.length ∧ segments.length ≤ 4 ∧
      (∀ segment ∈ segments, isSubjectToken segment = true) ∧ isVersion ('v' :: version) = true ∧
      text = root ++ led '.' (segments ++ ['v' :: version]) := by
  simp only [subjectExpression,Language.mem_mul,Language.mem_add]
  constructor
  · rintro ⟨_,⟨_,⟨_,⟨_,⟨root,known,_,rfl,rfl⟩,first,token,rfl⟩,_,repeated,rfl⟩,_,rfl,rfl⟩,version,number,rfl⟩
    obtain ⟨rest,least,most,tokens,rfl⟩ := mem_times_led.mp repeated
    have counted : (first :: rest).length = rest.length + 1 := rfl
    refine ⟨root,first :: rest,version,known,by omega,by omega,fun segment listed => ?_,mem_version.mp number,by simp [led]⟩
    rcases List.mem_cons.mp listed with rfl | later
    · exact mem_subjectToken.mp token
    · exact mem_subjectToken.mp (tokens segment later)
  · rintro ⟨root,segments,version,known,least,most,tokens,number,rfl⟩
    cases segments with
    | nil => simp at least
    | cons first rest =>
      have counted : (first :: rest).length = rest.length + 1 := rfl
      have tokens := fun segment listed => mem_subjectToken.mpr (tokens segment listed)
      refine ⟨_,⟨_,⟨_,⟨_,⟨root,known,_,rfl,rfl⟩,first,tokens first List.mem_cons_self,rfl⟩,led '.' rest,?_,rfl⟩,_,rfl,rfl⟩,
        version,mem_version.mpr number,by simp [led]⟩
      exact mem_times_led.mpr ⟨rest,by omega,by omega,
        fun segment listed => tokens segment (List.mem_cons_of_mem _ listed),rfl⟩

theorem dot_free_of_token {part : List Char} (token : isSubjectToken part = true) : '.' ∉ part := by
  intro dot
  cases part with
  | nil => cases token
  | cons c rest =>
    simp only [isSubjectToken,isToken,Bool.and_eq_true,List.all_eq_true] at token
    rcases List.mem_cons.mp dot with rfl | inside
    · exact absurd token.1.1 (by decide)
    · exact absurd (token.2 _ inside) (by decide)

theorem dot_free_of_version {version : List Char} (number : isVersion ('v' :: version) = true) : '.' ∉ 'v' :: version := by
  intro dot
  cases version with
  | nil => cases number
  | cons c rest =>
    simp only [isVersion,isToken,Bool.and_eq_true,List.all_eq_true] at number
    simp only [List.mem_cons] at dot
    rcases dot with letter | rfl | inside
    · cases letter
    · exact absurd number.1.1 (by decide)
    · exact absurd (number.2 _ inside) (by decide)

/-- The CHECK of the tables that store subjects is that expression. -/
theorem isSubject_iff (text : String) : isSubject text = true ↔ text.toList ∈ subjectExpression := by
  rw [mem_subjectExpression,isSubject]
  constructor
  · intro valid
    cases parts : text.toList.splitOn '.' with
    | nil => exact absurd parts (List.splitOn_ne_nil _ _)
    | cons root rest =>
      rw [parts] at valid
      simp only [Bool.and_eq_true,Bool.or_eq_true,decide_eq_true_eq,beq_iff_eq,List.all_eq_true] at valid
      obtain ⟨⟨⟨⟨known,least⟩,most⟩,tokens⟩,number⟩ := valid
      have nonempty : rest ≠ [] := by
        rintro rfl
        simp at least
      have last : rest.getLastD [] = rest.getLast nonempty := by
        rw [List.getLastD_eq_getLast?,List.getLast?_eq_some_getLast nonempty,Option.getD_some]
      rw [last] at number
      obtain ⟨version,lettered⟩ : ∃ version, rest.getLast nonempty = 'v' :: version := by
        unfold isVersion at number
        split at number
        · rename_i version same
          exact ⟨version,same⟩
        · cases number
      refine ⟨root,rest.dropLast,version,known,least,most,tokens,lettered ▸ number,?_⟩
      rw [← lettered,List.dropLast_append_getLast nonempty,← intercalate_cons,← parts]
      exact (List.intercalate_splitOn '.').symm
  · rintro ⟨root,segments,version,known,least,most,tokens,number,whole⟩
    have split : text.toList.splitOn '.' = root :: (segments ++ ['v' :: version]) := by
      rw [whole]
      refine splitOn_led root _ fun part listed => ?_
      rcases List.mem_cons.mp listed with rfl | listed
      · rcases known with rfl | rfl <;> decide
      · rcases List.mem_append.mp listed with segment | last
        · exact dot_free_of_token (tokens part segment)
        · rw [List.mem_singleton.mp last]
          exact dot_free_of_version number
    rw [split]
    simp only [List.dropLast_concat,List.getLastD_concat,Bool.and_eq_true,Bool.or_eq_true,decide_eq_true_eq,beq_iff_eq,
      List.all_eq_true]
    exact ⟨⟨⟨⟨known,least⟩,most⟩,tokens⟩,number⟩

section Parsing

theorem rsplit_dot_free {text : List Char} (free : '.' ∉ text) : rsplitVersion text = none := by
  induction text with
  | nil => rfl
  | cons c rest ih =>
    simp only [List.mem_cons,not_or] at free
    rw [rsplitVersion,ih free.2]
    exact if_neg fun dot => free.1 dot.1.symm

theorem rsplit_last {body version : List Char} (free : '.' ∉ 'v' :: version) :
    rsplitVersion (body ++ '.' :: 'v' :: version) = some (body,version) := by
  induction body with
  | nil =>
    rw [List.nil_append,rsplitVersion,rsplit_dot_free free]
    exact if_pos ⟨rfl,rfl⟩
  | cons c body ih => rw [List.cons_append,rsplitVersion,ih]

theorem val_ascii {c : Char} {bound : Char} (below : c.val ≤ bound.val) (small : bound.toNat < 128) : c.toNat < 128 :=
  Nat.lt_of_le_of_lt (UInt32.le_iff_toNat_le.mp below) small

theorem lower_ascii {c : Char} (lower : c.isLower = true) : c.toNat < 128 := by
  have bounds := Bool.and_eq_true_iff.mp lower
  exact val_ascii (of_decide_eq_true bounds.2) (by decide)

theorem digit_ascii {low c : Char} (digit : isDigitChar low c = true) : c.toNat < 128 := by
  simp only [isDigitChar,Bool.and_eq_true,decide_eq_true_eq] at digit
  have below : c.val ≤ '9'.val := digit.2
  exact val_ascii below (by decide)

theorem namespaceChar_ascii {c : Char} (valid : isNamespaceChar c = true) : c.toNat < 128 := by
  simp only [isNamespaceChar,isNameChar,Bool.or_eq_true,beq_iff_eq] at valid
  rcases valid with ((lower | digit) | rfl) | rfl
  · exact lower_ascii lower
  · simp only [Char.isDigit,Bool.and_eq_true,decide_eq_true_eq] at digit
    exact val_ascii digit.2 (by decide)
  · decide
  · decide

theorem token_bounds {part : List Char} (token : isSubjectToken part = true) :
    part.length ≤ 32 ∧ ∀ c ∈ part, c.toNat < 128 := by
  cases part with
  | nil => cases token
  | cons c rest =>
    simp only [isSubjectToken,isToken,Bool.and_eq_true,decide_eq_true_eq,List.all_eq_true] at token
    have counted : (c :: rest).length = rest.length + 1 := rfl
    refine ⟨by omega,fun other listed => ?_⟩
    rcases List.mem_cons.mp listed with rfl | inside
    · exact lower_ascii token.1.1
    · exact namespaceChar_ascii (token.2 other inside)

theorem version_bounds {version : List Char} (number : isVersion ('v' :: version) = true) :
    version.length ≤ 3 ∧ ∀ c ∈ 'v' :: version, c.toNat < 128 := by
  cases version with
  | nil => cases number
  | cons c rest =>
    simp only [isVersion,isToken,Bool.and_eq_true,decide_eq_true_eq,List.all_eq_true] at number
    have counted : (c :: rest).length = rest.length + 1 := rfl
    refine ⟨by omega,fun other listed => ?_⟩
    simp only [List.mem_cons] at listed
    rcases listed with rfl | rfl | inside
    · decide
    · exact digit_ascii number.1.1
    · exact digit_ascii (number.2 other inside)

/-- The expression leaves room below the longest subject. -/
theorem subject_bounds {text : String} (valid : text.toList ∈ subjectExpression) :
    text.toList.length ≤ 140 ∧ text.utf8ByteSize = text.toList.length := by
  obtain ⟨root,segments,version,known,_,most,tokens,number,whole⟩ := mem_subjectExpression.mp valid
  have three : root.length = 3 := by rcases known with rfl | rfl <;> rfl
  have plain : ∀ c ∈ root, c.toNat < 128 := by rcases known with rfl | rfl <;> simp
  refine ⟨?_,Text.utf8ByteSize_ascii text fun c inside => ?_⟩
  · have middle : (led '.' segments).length ≤ segments.length * 33 :=
      led_length_le fun part listed => (token_bounds (tokens part listed)).1
    have last := (version_bounds number).1
    have length : text.toList.length = 3 + ((led '.' segments).length + (version.length + 2)) := by
      rw [whole]
      simp [led,three]
    omega
  · rw [whole] at inside
    rcases List.mem_append.mp inside with first | rest
    · exact plain c first
    · obtain ⟨part,listed,own⟩ := mem_led.mp rest
      rcases own with rfl | inside
      · decide
      · rcases List.mem_append.mp listed with segment | final
        · exact (token_bounds (tokens part segment)).2 c inside
        · exact (version_bounds number).2 c (List.mem_singleton.mp final ▸ inside)

namespace Subject

/-- The class and the type name of a subject. -/
def parts (raw : String) : Option (MessageClass × String) :=
  match raw.toList.span (· ≠ '.') with
  | (messageClass,_ :: typeName) =>
    if messageClass = "cmd".toList then some (.command,String.ofList typeName)
    else if messageClass = "evt".toList then some (.event,String.ofList typeName)
    else none
  | (_,[]) => none

/-- `class` -/
def messageClass (subject : String) : MessageClass :=
  if "cmd.".toList.isPrefixOf subject.toList then .command else .event

end Subject

theorem parts_join (messageClass : MessageClass) (typeName : String) :
    Subject.parts (messageClass.asStr ++ "." ++ typeName) = some (messageClass,typeName) := by
  cases messageClass <;> simp [Subject.parts,MessageClass.asStr,List.span_eq_takeWhile_dropWhile]

/-- Reading a subject makes it anew from its parts. -/
theorem parse_join (messageClass : MessageClass) (typeName : String) :
    Subject.parse (messageClass.asStr ++ "." ++ typeName) = Subject.new messageClass typeName := by
  cases messageClass <;> simp [Subject.parse,MessageClass.asStr,List.span_eq_takeWhile_dropWhile]

/-- What is read is the string itself. -/
theorem parse_eq {raw subject : String} (read : Subject.parse raw = .ok subject) : subject = raw := by
  have whole := List.takeWhile_append_dropWhile (p := (· ≠ '.')) (l := raw.toList)
  have joined (messageClass : MessageClass) (c : Char) (typeName : List Char)
      (first : raw.toList.takeWhile (· ≠ '.') = messageClass.asStr.toList)
      (rest : raw.toList.dropWhile (· ≠ '.') = c :: typeName)
      (made : Subject.new messageClass (String.ofList typeName) = .ok subject) : subject = raw := by
    have dot : c = '.' := by
      have head := List.head?_dropWhile_not (· ≠ '.') raw.toList
      rw [rest] at head
      simpa using head
    obtain ⟨_,_,_,_,_,_,_,_,_,rfl⟩ := new_eq_ok made
    refine String.toList_inj.mp ?_
    rw [← whole,first,rest,dot]
    simp
  rw [Subject.parse,List.span_eq_takeWhile_dropWhile] at read
  split at read
  · rename_i messageClass c typeName parts
    obtain ⟨rfl,rest⟩ := Prod.mk.inj parts
    split at read
    · exact joined .command c typeName ‹_› rest read
    · split at read
      · exact joined .event c typeName ‹_› rest read
      · cases read
  · cases read

theorem messageClass_join (messageClass : MessageClass) (typeName : String) :
    Subject.messageClass (messageClass.asStr ++ "." ++ typeName) = messageClass := by
  cases messageClass <;> simp [Subject.messageClass,MessageClass.asStr]

/-- `new` refuses no version of the expression. -/
theorem new_accepts_version {version : List Char} (number : isVersion ('v' :: version) = true) :
    (version.isEmpty || 3 < version.length || !(version.all (isDigitChar '0')) || version.head? == some '0') = false := by
  cases version with
  | nil => cases number
  | cons c rest =>
    simp only [isVersion,isToken,isDigitChar,Bool.and_eq_true,decide_eq_true_eq,List.all_eq_true] at number
    have least : ('0' : Char) ≤ c := Nat.le_trans (show '0'.toNat ≤ '1'.toNat by decide) number.1.1.1
    have nonzero : c ≠ '0' := by
      rintro rfl
      exact absurd number.1.1.1 (by decide)
    simp only [List.isEmpty_cons,List.length_cons,List.head?_cons,Bool.false_or,Bool.or_eq_false_iff,decide_eq_false_iff_not,
      Bool.not_eq_false',List.all_cons,Bool.and_eq_true,isDigitChar,decide_eq_true_eq,List.all_eq_true,
      beq_eq_false_iff_ne,ne_eq,Option.some.injEq]
    exact ⟨⟨by omega,⟨least,number.1.1.2⟩,number.2⟩,nonzero⟩

/-- Every word of the expression is a subject, made of its class and its type name. -/
theorem new_of_expression {text : String} (valid : text.toList ∈ subjectExpression) :
    ∃ messageClass typeName, text = messageClass.asStr ++ "." ++ typeName ∧ Subject.new messageClass typeName = .ok text := by
  obtain ⟨root,segments,version,known,least,most,tokens,number,whole⟩ := mem_subjectExpression.mp valid
  have bounds := subject_bounds valid
  obtain ⟨first,rest,rfl⟩ := List.exists_cons_of_ne_nil (List.ne_nil_of_length_pos (Nat.lt_of_lt_of_le Nat.two_pos least))
  have body : led '.' (first :: rest ++ ['v' :: version]) = '.' :: (['.'].intercalate (first :: rest) ++ '.' :: 'v' :: version) := by
    rw [intercalate_cons]
    simp [led]
  obtain ⟨messageClass,root_eq⟩ : ∃ messageClass : MessageClass, root = messageClass.asStr.toList := by
    rcases known with rfl | rfl
    · exact ⟨.command,rfl⟩
    · exact ⟨.event,rfl⟩
  let typeName := String.ofList (['.'].intercalate (first :: rest) ++ '.' :: 'v' :: version)
  have joined : text = messageClass.asStr ++ "." ++ typeName := by
    refine String.toList_inj.mp ?_
    rw [whole,body,root_eq]
    simp [typeName]
  refine ⟨messageClass,typeName,joined,?_⟩
  have found : rsplitVersion typeName.toList = some (['.'].intercalate (first :: rest),version) := by
    rw [String.toList_ofList]
    exact rsplit_last (dot_free_of_version number)
  have segments : (['.'].intercalate (first :: rest)).splitOn '.' = first :: rest :=
    List.splitOn_intercalate '.' (fun part listed => dot_free_of_token (tokens part listed)) (List.cons_ne_nil _ _)
  have numbered := new_accepts_version number
  have short : ¬Subject.maxLen < (messageClass.asStr ++ "." ++ typeName).utf8ByteSize := by
    rw [← joined,bounds.2]
    have := bounds.1
    simp only [Subject.maxLen]
    omega
  have counted : (!(2 ≤ (first :: rest).length && (first :: rest).length ≤ 4 : Bool)) = false := by
    simp only [decide_eq_true least,decide_eq_true most,Bool.and_self,Bool.not_true]
  have all : (!((first :: rest).all isSubjectToken)) = false := by simpa using tokens
  rw [Subject.new,found]
  simp only [numbered,segments,counted,all,if_neg short,Bool.false_eq_true,if_false,joined]

end Parsing

section Stored

open Transaction

/-- The subject's own CHECK, the one of a fresh row, is passed; what is left is the size of the payload. -/
theorem enqueued_checks {subject : String} (valid : isSubject subject = true) (outboxId : Nat) (messageId : MessageId)
    (payload : String) (operationId : Option OperationId) (now : Timestamp) :
    (Outbox.enqueuedRow outboxId messageId subject payload operationId now).checks = decide (payload.utf8ByteSize ≤ 786432) := by
  simp only [OutboxRow.checks,Outbox.enqueuedRow,valid,Option.isSome_none,Option.isNone_none,Option.all_none,Bool.true_or,
    Bool.and_true,Bool.true_and,BEq.rfl]
  exact decide_eq_decide.mpr Iff.rfl

/-- A string is read as a subject exactly where the CHECK of the outbox lets it be stored. A subject that is made
from a class and a type name is read back as itself, with these parts. What either constructor accepts fits, and
enqueueing it is refused for no reason but the size of the payload. -/
theorem subject_grammar :
    (∀ raw, (∃ subject, Subject.parse raw = .ok subject) ↔ raw.toList ∈ subjectExpression) ∧
    (∀ messageClass typeName subject, Subject.new messageClass typeName = .ok subject →
      Subject.parse subject = .ok subject ∧ Subject.parts subject = some (messageClass,typeName) ∧
        Subject.messageClass subject = messageClass) ∧
    ∀ subject, ((∃ messageClass typeName, Subject.new messageClass typeName = .ok subject) ∨
        ∃ raw, Subject.parse raw = .ok subject) →
      subject.toList ∈ subjectExpression ∧ subject.toList.length ≤ 160 ∧
      ∀ (outboxId : Nat) (messageId : MessageId) (payload : String) (operationId : Option OperationId) (now : Timestamp)
        (rows : Db), payload.utf8ByteSize ≤ 786432 →
        ∃ fresh later, exec schema (Outbox.enqueue outboxId messageId subject payload operationId now :
          Tx TableRow Unit Bool) rows = .done fresh later := by
  refine ⟨fun raw => ⟨?_,fun valid => ?_⟩,fun messageClass typeName subject made => ?_,fun subject accepted => ?_⟩
  · rintro ⟨subject,read⟩
    exact parse_eq read ▸ (isSubject_iff subject).mp (parse_isSubject read)
  · obtain ⟨messageClass,typeName,rfl,made⟩ := new_of_expression valid
    exact ⟨_,(parse_join messageClass typeName).trans made⟩
  · obtain ⟨_,_,_,_,_,_,_,_,_,rfl⟩ := new_eq_ok made
    exact ⟨(parse_join messageClass typeName).trans made,parts_join messageClass typeName,messageClass_join messageClass typeName⟩
  · have valid : isSubject subject = true := by
      rcases accepted with ⟨messageClass,typeName,made⟩ | ⟨raw,read⟩
      · exact new_isSubject made
      · exact parse_isSubject read
    have inside := (isSubject_iff subject).mp valid
    refine ⟨inside,(subject_bounds inside).1.trans (by decide),fun outboxId messageId payload operationId now rows small => ?_⟩
    have checks := (enqueued_checks valid outboxId messageId payload operationId now).trans (decide_eq_true small)
    cases stored : rows (.outbox messageId) with
    | none => exact ⟨true,_,(exec_insertUnlessConflict_done ..).mpr ⟨checks,Or.inl ⟨rfl,stored,rfl⟩⟩⟩
    | some row => exact ⟨false,rows,(exec_insertUnlessConflict_done ..).mpr ⟨checks,Or.inr ⟨rfl,by simp [stored],rfl⟩⟩⟩

end Stored

end Ratatoskr.Eventing
