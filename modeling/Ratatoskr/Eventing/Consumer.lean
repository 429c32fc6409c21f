import Ratatoskr.Eventing.Delivery
import Ratatoskr.Eventing.Subject
import Ratatoskr.Lib.Beside
import Ratatoskr.Lib.Text

/-! One message of a subscription, from its raw bytes to its acknowledgement. -/
set_option linter.unusedSectionVars false

namespace Ratatoskr.Eventing

open Transaction

variable {θ ε : Type} {ρ : θ → Type} [DecidableEq θ]

/-- A message as the broker hands it over -/
structure RawMessage where
  subject : String
  payload : List UInt8

/-- The readers of JSON and of identifiers that the crates of the consumer bring along. -/
structure Parsers where
  fromSlice : List UInt8 → Option Json
  uuid : String → Option MessageId

/-- Lifts the members needed for routing out of a raw message. -/
def parse (parsers : Parsers) (message : RawMessage) : Option (Incoming Json) := do
  let payload ← parsers.fromSlice message.payload
  let messageId ← (((payload.get "event_id").orElse fun _ => payload.get "command_id").bind Json.asStr).bind parsers.uuid
  let producer := ((payload.get "producer").bind Json.asStr).getD "unknown"
  let subject ← (Subject.parse message.subject).toOption
  pure ⟨messageId,subject,producer,payload⟩

/-- What one consumer run did. -/
structure ConsumerReport where
  applied : Nat
  duplicates : Nat
  failed : Nat
  malformed : Nat
deriving DecidableEq

/-- What the broker is told; after `nak` it delivers the message again. -/
inductive Reply where
  | ack | nak
deriving DecidableEq

structure Processed (ρ : θ → Type) where
  report : ConsumerReport
  reply : Reply
  rows : Store (Row ρ)

/-- One turn of the loop over the messages of a subscription. -/
def runFilters (parsers : Parsers) (tables : Constraints ρ) (handler : Handler ρ Json ε) (now : Timestamp)
    (report : ConsumerReport) (rows : Store (Row ρ)) (message : RawMessage) : Processed ρ :=
  match parse parsers message with
  | some incoming =>
    match exec (constraints tables) (deliver handler incoming now) rows with
    | .done _ later => ⟨{ report with applied := report.applied + 1 },.ack,later⟩
    | .abandoned none => ⟨{ report with duplicates := report.duplicates + 1 },.ack,rows⟩
    | _ => ⟨{ report with failed := report.failed + 1 },.nak,rows⟩
  | none => ⟨{ report with malformed := report.malformed + 1 },.ack,rows⟩

section Text

theorem token_visible {first rest : Char → Bool} {most : Nat} {token : List Char}
    (begins : ∀ c, first c = true → c.toNat ≠ 0) (continues : ∀ c, rest c = true → c.toNat ≠ 0)
    (valid : isToken first rest most token = true) (c : Char) (member : c ∈ token) : c.toNat ≠ 0 := by
  cases token with
  | nil => cases member
  | cons head tail =>
    simp only [isToken,Bool.and_eq_true,List.all_eq_true] at valid
    rcases List.mem_cons.mp member with rfl | inside
    · exact begins c valid.1.1
    · exact continues c (valid.2 c inside)

theorem lower_visible (c : Char) (lower : c.isLower = true) : c.toNat ≠ 0 := by
  intro zero
  have same : c = '\x00' := Char.toNat_inj.mp zero
  subst same
  revert lower
  decide

theorem namespaceChar_visible (c : Char) (valid : isNamespaceChar c = true) : c.toNat ≠ 0 := by
  intro zero
  have same : c = '\x00' := Char.toNat_inj.mp zero
  subst same
  revert valid
  decide

theorem digit_visible {low : Char} (c : Char) (above : 0 < low.toNat) (digit : isDigitChar low c = true) :
    c.toNat ≠ 0 := by
  simp only [isDigitChar,Bool.and_eq_true,decide_eq_true_eq] at digit
  have below : low.toNat ≤ c.toNat := digit.1
  omega

theorem version_visible {version : List Char} (valid : isVersion version = true) (c : Char) (member : c ∈ version) :
    c.toNat ≠ 0 := by
  unfold isVersion at valid
  split at valid
  · rename_i number
    rcases List.mem_cons.mp member with rfl | inside
    · decide
    · exact token_visible (fun c => digit_visible c (by decide)) (fun c => digit_visible c (by decide)) valid c inside
  · cases valid

/-- The grammar of the subjects has no place for a NUL. -/
theorem isText_of_isSubject {subject : String} (valid : isSubject subject = true) : isText subject = true := by
  simp only [isText,List.all_eq_true,decide_eq_true_eq]
  intro c member
  by_cases dot : c = '.'
  · subst dot
    decide
  obtain ⟨part,listed,inside⟩ := (Text.mem_splitOn dot).mp member
  rw [isSubject] at valid
  cases parts : subject.toList.splitOn '.' with
  | nil => exact absurd parts (List.splitOn_ne_nil _ _)
  | cons root rest =>
    rw [parts] at valid listed
    simp only [Bool.and_eq_true,Bool.or_eq_true,decide_eq_true_eq,beq_iff_eq,List.all_eq_true] at valid
    obtain ⟨⟨⟨⟨start,_⟩,_⟩,tokens⟩,version⟩ := valid
    rcases List.mem_cons.mp listed with rfl | later
    · have lower : ∀ word ∈ [['c','m','d'],['e','v','t']], word.all Char.isLower = true := by decide
      refine lower_visible c (List.all_eq_true.mp (lower _ ?_) c inside)
      rcases start with rfl | rfl <;> simp
    · have nonempty : rest ≠ [] := List.ne_nil_of_mem later
      rw [← List.dropLast_concat_getLast nonempty] at later
      rcases List.mem_append.mp later with middle | last
      · exact token_visible lower_visible namespaceChar_visible (tokens part middle) c inside
      · rw [List.mem_singleton] at last
        rw [List.getLastD_eq_getLast?,List.getLast?_eq_some_getLast nonempty,Option.getD_some,← last] at version
        exact version_visible version c inside

end Text

section Processing

variable (parsers : Parsers) (tables : Constraints ρ) (handler : Handler ρ Json ε) (now : Timestamp)

/-- Only the producer of a message that was read can be one the inbox does not take. -/
def validProducer (producer : String) : Bool := lengthBetween 1 64 producer && isText producer

theorem constraints_eq :
    constraints tables = Constraints.beside (fun _ _ (row : InboxRow) => row.checks && row.storable) tables := by
  funext key stored row
  cases key <;> rfl

theorem parse_subject {message : RawMessage} {incoming : Incoming Json} (read : parse parsers message = some incoming) :
    isSubject incoming.subject = true := by
  simp only [parse,Option.bind_eq_bind,Option.bind_eq_some_iff,Option.pure_def,Option.some.injEq] at read
  obtain ⟨_,_,_,_,subject,parsed,rfl⟩ := read
  cases text : Subject.parse message.subject with
  | error => rw [text] at parsed; cases parsed
  | ok same =>
    rw [text] at parsed
    obtain rfl := Option.some.inj parsed
    exact parse_isSubject text

theorem receivedRow_takes {incoming : Incoming Json} (subject : isSubject incoming.subject = true) :
    ((Inbox.receivedRow incoming now).checks && (Inbox.receivedRow incoming now).storable) =
      validProducer incoming.producer := by
  simp [Inbox.receivedRow,InboxRow.checks,InboxRow.storable,validProducer,subject,isText_of_isSubject subject]

/-- Deduplication, the handler and the record of what it did, with nothing else going on. -/
theorem exec_deliver (incoming : Incoming Json) (rows : Store (Row ρ)) (subject : isSubject incoming.subject = true)
    (outcome : Outcome) (own : Store ρ) (handled : exec tables (handler incoming now) rows.second = .done outcome own) :
    exec (constraints tables) (deliver handler incoming now) rows =
      if validProducer incoming.producer then
        match rows (.inl incoming.messageId) with
        | some _ => .abandoned none
        | none => .done outcome (Function.update (rows.withSecond own) (.inl incoming.messageId)
            (some { Inbox.receivedRow incoming now with
              processedAt := some (toOffset now)
              outcome := some outcome }))
      else .refused ⟨.inl incoming.messageId,none,Inbox.receivedRow incoming now⟩ := by
  have program := program_eq (⟨handler,incoming,now⟩ : Delivery ρ Json ε)
  rw [show deliver handler incoming now = (⟨handler,incoming,now⟩ : Delivery ρ Json ε).program from rfl,program]
  have takes : constraints tables (.inl incoming.messageId) none (Inbox.receivedRow incoming now) =
      validProducer incoming.producer := receivedRow_takes now subject
  simp only [exec,Delivery.messageId,takes]
  by_cases valid : validProducer incoming.producer = true
  · rw [if_pos valid,if_pos valid]
    cases found : rows (.inl incoming.messageId) with
    | some stored => rfl
    | none =>
      -- the handler sees the tables as they were, next to the row the inbox has just claimed
      have ran : exec (constraints tables) ((handler incoming now).widen some)
          (Function.update rows (.inl incoming.messageId) (some (Inbox.receivedRow incoming now))) =
            .done outcome (Function.update (rows.withSecond own) (.inl incoming.messageId)
              (some (Inbox.receivedRow incoming now))) := by
        rw [constraints_eq,exec_widen,← update_withSecond]
        exact congrArg (Transaction.Outcome.widen some _) handled
      have sees : (Function.update (rows.withSecond own) (.inl incoming.messageId)
          (some (Inbox.receivedRow incoming now))) (.inl incoming.messageId) =
            some (Inbox.receivedRow incoming now) := Function.update_self _ _ _
      simp only [exec_bind,ran,Transaction.Outcome.done_bind,finishing,Inbox.finish,Tx.bind_eq]
      rw [exec_updateWhere_match _ _ _ _ _ _ sees rfl]
      have finished : constraints tables (.inl incoming.messageId) (some (Inbox.receivedRow incoming now))
          ({ Inbox.receivedRow incoming now with
            processedAt := some (toOffset now)
            outcome := some outcome } : InboxRow) = true := takes.trans valid
      rw [if_pos finished,Function.update_idem]
      rfl
  · rw [if_neg valid,if_neg valid]

/-- Where its handler succeeds, a message is acknowledged unless it names a producer the inbox does not
take. -/
theorem run_filters_acks_iff (report : ConsumerReport) (rows : Store (Row ρ)) (message : RawMessage)
    (succeeds : ∀ incoming, parse parsers message = some incoming →
      ∃ outcome own, exec tables (handler incoming now) rows.second = .done outcome own) :
    (runFilters parsers tables handler now report rows message).reply = .ack ↔
      ∀ incoming, parse parsers message = some incoming → validProducer incoming.producer = true := by
  cases read : parse parsers message with
  | none => simp [runFilters,read]
  | some incoming =>
    obtain ⟨outcome,own,handled⟩ := succeeds incoming read
    have delivered := exec_deliver tables handler now incoming rows (parse_subject parsers read) outcome own handled
    rw [runFilters,read]
    simp only [delivered,Option.some.injEq,forall_eq']
    by_cases valid : validProducer incoming.producer = true
    · rw [if_pos valid]
      cases rows (.inl incoming.messageId) <;> simp [valid]
    · rw [if_neg valid]
      exact iff_of_false (fun same => by cases same) valid

end Processing

section Poison

/-- The envelope of a message, whoever it says has sent it -/
def envelopeOf (producer : String) : String :=
  "\x7b\"event_id\":\"018f2f5e-7b7a-7c3e-8a1b-2c3d4e5f6071\",\"producer\":\"" ++ producer ++ "\"\x7d"

def messageOf (producer : String) : RawMessage :=
  ⟨"evt.ai-archive.chatgpt.operation.reported.v1",(envelopeOf producer).toUTF8.toList⟩

/-- Readers that know the envelopes of two producers, and one identifier. -/
def twoEnvelopes : Parsers where
  fromSlice bytes := ["","ratatoskr-chatgpt"].findSome? fun producer =>
    if bytes = (envelopeOf producer).toUTF8.toList then
      some (.object [("event_id",.string "018f2f5e-7b7a-7c3e-8a1b-2c3d4e5f6071"),("producer",.string producer)])
    else none
  uuid text := if text = "018f2f5e-7b7a-7c3e-8a1b-2c3d4e5f6071" then
    some 0x018f2f5e7b7a7c3e8a1b2c3d4e5f6071 else none

/-- A handler that has nothing to do -/
def idle : Handler (fun key : Empty => nomatch key) Json Unit := fun _ _ => .done .applied

/-- A message without a producer's name is never acknowledged, however often it is delivered. -/
theorem nameless_delivery (now : Timestamp) (report : ConsumerReport) (rows : Store (Row fun key : Empty => (nomatch key : Type))) :
    (runFilters twoEnvelopes noTables idle now report rows (messageOf "")).reply = .nak ∧
      (runFilters twoEnvelopes noTables idle now report rows (messageOf "")).rows = rows := by
  have producer : (parse twoEnvelopes (messageOf "")).map (·.producer) = some "" := by decide +kernel
  obtain ⟨incoming,read,nameless⟩ := Option.map_eq_some_iff.mp producer
  have delivered := exec_deliver noTables idle now incoming rows (parse_subject _ read) .applied _ rfl
  have invalid : ¬validProducer incoming.producer = true := by
    rw [nameless]
    decide
  rw [if_neg invalid] at delivered
  simp only [runFilters,read,delivered,and_self]

/-- The first delivery is not acknowledged, and it is the same for the second. -/
theorem nameless_producer_is_redelivered : ∃ rows : Store (Row fun key : Empty => (nomatch key : Type)),
    (runFilters twoEnvelopes noTables idle 0 ⟨0,0,0,0⟩ rows (messageOf "")).reply = .nak ∧
      (runFilters twoEnvelopes noTables idle 0 ⟨0,0,0,0⟩ rows (messageOf "")).rows = rows :=
  ⟨fun _ => none,nameless_delivery 0 ⟨0,0,0,0⟩ _⟩

theorem named_producer_is_acknowledged : ∃ rows : Store (Row fun key : Empty => (nomatch key : Type)),
    (runFilters twoEnvelopes noTables idle 0 ⟨0,0,0,0⟩ rows (messageOf "ratatoskr-chatgpt")).reply = .ack := by
  refine ⟨fun _ => none,(run_filters_acks_iff _ _ _ _ _ _ _ fun _ _ => ⟨.applied,_,rfl⟩).mpr fun incoming read => ?_⟩
  have producer : (parse twoEnvelopes (messageOf "ratatoskr-chatgpt")).map (·.producer) = some "ratatoskr-chatgpt" := by
    decide +kernel
  rw [read] at producer
  have named : incoming.producer = "ratatoskr-chatgpt" := Option.some.inj producer
  rw [named]
  decide

end Poison

end Ratatoskr.Eventing
