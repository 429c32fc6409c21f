import Ratatoskr.Eventing.Consumer
import Ratatoskr.Lib.Run

/-! The retention of the inbox beside the one of the stream. A stored copy of a message can be delivered until
the stream drops it, and the record that refuses it is kept for a window after the message was processed. -/
set_option linter.unusedSectionVars false

namespace Ratatoskr.Eventing

open Transaction

section Windows

/-- `EVENT_RETENTION_DAYS` -/
def eventRetentionDays : Nat := 7

structure Violation where
  key : String
  envVar : String
  rule : String
deriving DecidableEq

/-- V17 -/
def retentionViolations (inboxDays : Nat) : List Violation :=
  if inboxDays < eventRetentionDays then
    [{ key := "retention.inbox_days"
       envVar := "RATATOSKR__RETENTION__INBOX_DAYS"
       rule := "must be at least as long as the event stream keeps a message, or the inbox forgets a message the bus can still redeliver" }]
  else []

def hour : Timestamp := 3600 * 1000000000

/-- `DEFAULT_MAX_AGE` of a stream -/
def maxAge : Timestamp := (24 * eventRetentionDays : Nat) * hour

/-- The first instant that the clock of a process can show. -/
def earliest : Timestamp := -378651708001 * 1000000000

def i64Max : Nat := 9223372036854775807

/-- `i64::try_from(days).unwrap_or(i64::MAX / 24)` -/
def windowDays (days : Nat) : Nat := if days ≤ i64Max then days else i64Max / 24

/-- The hours of a window, `24_i64.saturating_mul(..)` -/
def windowHours (days : Nat) : Nat := min (24 * windowDays days) i64Max

def window (days : Nat) : Timestamp := windowHours days * hour

/-- `before` of a retention pass; hours whose seconds leave an `i64` panic. -/
def before (now : Timestamp) (days : Nat) : Option Timestamp :=
  if windowHours days * 3600 ≤ i64Max then some (max (now - window days) earliest) else none

theorem maxAge_le_window {days : Nat} (valid : retentionViolations days = []) : maxAge ≤ window days := by
  have enough : eventRetentionDays ≤ days := by
    by_cases short : days < eventRetentionDays
    · simp [retentionViolations,short] at valid
    · omega
  have hours : 24 * eventRetentionDays ≤ windowHours days := by
    have short : eventRetentionDays = 7 := rfl
    have long : i64Max = 9223372036854775807 := rfl
    unfold windowHours windowDays
    split <;> omega
  exact Int.mul_le_mul_of_nonneg_right (Int.ofNat_le.mpr hours) (by decide)

/-- What a pass finds too old was processed before its window. -/
theorem older_of_before {now bound processedAt : Timestamp} {days : Nat} (start : before now days = some bound)
    (inRange : earliest ≤ processedAt) (older : toOffset processedAt < toOffset bound) : processedAt + window days < now := by
  unfold before at start
  split at start
  · obtain rfl := Option.some.inj start
    have less : processedAt < max (now - window days) earliest :=
      Classical.byContradiction fun more => Int.not_lt.mpr (to_offset_mono (Int.not_lt.mp more)) older
    have := inRange
    simp only [Timestamp] at *
    omega
  · cases start

end Windows

variable {θ ε κ τ : Type} {ρ : θ → Type} [DecidableEq θ] [DecidableEq τ]

namespace Inbox

/-- `collect_processed`, of the rows that its subquery chose. -/
def collectProcessed (before : Timestamp) (chosen : List MessageId) (rows : Store (Row ρ)) : Store (Row ρ)
  | .inl messageId =>
    if chosen.contains messageId && (rows (.inl messageId)).any fun row : InboxRow =>
      row.processedAt.any (· < toOffset before) then none else rows (.inl messageId)
  | .inr key => rows (.inr key)

end Inbox

/-- `RETENTION_BATCH` -/
def retentionBatch : Nat := 10000

/-- A copy of a message that the stream keeps. -/
structure StoredCopy where
  message : RawMessage
  storedAt : Timestamp

/-- A copy in the hands of a consumer, with the instant it took it at. -/
structure Received (κ : Type) where
  consumer : κ
  copy : StoredCopy
  now : Timestamp

/-- A stream with its consumers; `applied` are the messages that were applied, with the instants their
records carry. -/
structure Retained (ρ : θ → Type) (κ τ : Type) where
  clock : Timestamp
  copies : List StoredCopy
  received : τ → Option (Received κ)
  report : ConsumerReport
  rows : Store (Row ρ)
  applied : List (MessageId × Timestamp)

/-- `publish` stores another copy. `settle` is the turn of a consumer, which may fail; `collect` is a retention
pass that began at `now`. -/
inductive RetentionEvent (κ τ : Type) where
  | wait (instant : Timestamp)
  | publish (message : RawMessage)
  | receive (t : τ) (consumer : κ) (index : Nat)
  | settle (t : τ) (fails : Bool)
  | collect (now : Timestamp) (chosen : List MessageId)

namespace Retained

def initial (clock : Timestamp) (rows : Store (Row ρ)) : Retained ρ κ τ := ⟨clock,[],fun _ => none,⟨0,0,0,0⟩,rows,[]⟩

/-- The stream keeps a copy for `maxAge`, and may deliver it until then. -/
def deliverable (s : Retained ρ κ τ) (copy : StoredCopy) : Bool := s.clock ≤ copy.storedAt + maxAge

section Step

variable (parsers : Parsers) (tables : Constraints ρ) (handler : κ → Handler ρ Json ε) (days : Nat)

def settle (s : Retained ρ κ τ) (t : τ) (held : Received κ) (fails : Bool) : Retained ρ κ τ :=
  let released := { s with received := Function.update s.received t none }
  if fails then released
  else
    let processed := runFilters parsers tables (handler held.consumer) held.now s.report s.rows held.copy.message
    { released with
      report := processed.report
      rows := processed.rows
      applied :=
        if processed.report.applied = s.report.applied then s.applied
        else s.applied ++ ((parse parsers held.copy.message).map fun incoming => (incoming.messageId,held.now)).toList }

def step (s : Retained ρ κ τ) : RetentionEvent κ τ → Option (Retained ρ κ τ)
  | .wait instant => if s.clock ≤ instant then some { s with clock := instant } else none
  | .publish message => some { s with copies := s.copies ++ [⟨message,s.clock⟩] }
  | .receive t consumer index =>
    match s.copies[index]?,s.received t with
    | some copy,none =>
      if s.deliverable copy then
        some { s with received := Function.update s.received t (some ⟨consumer,copy,s.clock⟩) }
      else none
    | _,_ => none
  | .settle t fails => (s.received t).map fun held => s.settle parsers tables handler t held fails
  | .collect now chosen =>
    if now ≤ s.clock ∧ chosen.length ≤ retentionBatch then
      (before now days).map fun bound => { s with rows := Inbox.collectProcessed bound chosen s.rows }
    else none

/-- Whether a copy is one of this message. -/
def isCopyOf (copy : RawMessage) (messageId : MessageId) : Prop := (parse parsers copy).map (·.messageId) = some messageId

/-- The inbox knows the messages that can still be delivered, and no message was applied twice. -/
structure Deduplicates (s : Retained ρ κ τ) : Prop where
  kept : ∀ copy ∈ s.copies, s.deliverable copy = true → ∀ entry ∈ s.applied, isCopyOf parsers copy.message entry.1 →
    ∃ row : InboxRow, s.rows (.inl entry.1) = some row ∧ row.processedAt.isSome
  once : (s.applied.map (·.1)).Nodup

/-- A copy of a message is stored no later than the window outlasts the stream, counted from a delivery of the
message that has applied it or may; and an applied message is handled again within the window. -/
def Punctual (s : Retained ρ κ τ) : RetentionEvent κ τ → Prop
  | .publish message =>
    (∀ entry ∈ s.applied, isCopyOf parsers message entry.1 → s.clock + maxAge ≤ entry.2 + window days) ∧
    ∀ t held, s.received t = some held → ∀ messageId, isCopyOf parsers message messageId →
      isCopyOf parsers held.copy.message messageId → s.clock + maxAge ≤ held.now + window days
  | .settle t _ => ∀ held, s.received t = some held → ∀ entry ∈ s.applied, isCopyOf parsers held.copy.message entry.1 →
      s.clock ≤ entry.2 + window days
  | _ => True

end Step

end Retained

section Deliveries

variable (parsers : Parsers) (tables : Constraints ρ) (handler : Handler ρ Json ε) (now : Timestamp)

/-- A delivery that commits has a handler that succeeded. -/
theorem handled_of_delivered {incoming : Incoming Json} {rows later : Store (Row ρ)} {outcome : Outcome}
    (delivered : exec (constraints tables) (deliver handler incoming now) rows = .done outcome later) :
    ∃ outcome own, exec tables (handler incoming now) rows.second = .done outcome own := by
  have program := program_eq (⟨handler,incoming,now⟩ : Delivery ρ Json ε)
  rw [show deliver handler incoming now = (⟨handler,incoming,now⟩ : Delivery ρ Json ε).program from rfl,program] at delivered
  simp only [exec] at delivered
  split at delivered
  · cases known : rows (.inl incoming.messageId) with
    | some row =>
      rw [show rows (.inl (Delivery.messageId ⟨handler,incoming,now⟩)) = some row from known] at delivered
      cases delivered
    | none =>
      rw [show rows (.inl (Delivery.messageId ⟨handler,incoming,now⟩)) = none from known] at delivered
      obtain ⟨value,middle,ran,-⟩ := (exec_bind_done _ _ _ _ _ _).mp delivered
      rw [constraints_eq,exec_widen_done] at ran
      obtain ⟨own,handled,-⟩ := ran
      exact ⟨value,own,handled⟩
  · cases delivered

/-- A turn leaves the inbox alone, or records a message that it did not know. -/
theorem runFilters_cases (report : ConsumerReport) (rows : Store (Row ρ)) (message : RawMessage) :
    ((runFilters parsers tables handler now report rows message).rows = rows ∧
        (runFilters parsers tables handler now report rows message).report.applied = report.applied) ∨
      ∃ (incoming : Incoming Json) (row : InboxRow), parse parsers message = some incoming ∧
        (runFilters parsers tables handler now report rows message).report.applied = report.applied + 1 ∧
        rows (.inl incoming.messageId) = none ∧ row.processedAt = some (toOffset now) ∧
        ∀ messageId, (runFilters parsers tables handler now report rows message).rows (.inl messageId) =
          if messageId = incoming.messageId then some row else rows (.inl messageId) := by
  cases read : parse parsers message with
  | none => exact Or.inl (by simp [runFilters,read])
  | some incoming =>
    simp only [runFilters,read]
    cases delivered : exec (constraints tables) (deliver handler incoming now) rows with
    | done outcome later =>
      obtain ⟨outcome',own,handled⟩ := handled_of_delivered tables handler now delivered
      rw [exec_deliver tables handler now incoming rows (parse_subject parsers read) outcome' own handled] at delivered
      split at delivered
      · cases known : rows (.inl incoming.messageId) with
        | some row =>
          rw [known] at delivered
          cases delivered
        | none =>
          rw [known] at delivered
          obtain ⟨-,rfl⟩ := delivered
          refine Or.inr ⟨incoming,Delivery.handledRow ⟨handler,incoming,now⟩ outcome,rfl,rfl,known,rfl,fun messageId => ?_⟩
          by_cases same : messageId = incoming.messageId
          · subst same
            rw [if_pos rfl]
            exact Function.update_self _ _ _
          · rw [if_neg same]
            exact Function.update_of_ne (fun equal => same (Sum.inl.inj equal)) _ _
      · cases delivered
    | abandoned reason => cases reason <;> exact Or.inl ⟨rfl,rfl⟩
    | refused => exact Or.inl ⟨rfl,rfl⟩

end Deliveries

namespace Retained

section Keeping

variable {parsers : Parsers} {tables : Constraints ρ} {handler : κ → Handler ρ Json ε} {days : Nat}
  {s next : Retained ρ κ τ}

/-- Nothing is in the future, and what was applied is on record as long as its window runs. -/
structure Sound (parsers : Parsers) (days : Nat) (s : Retained ρ κ τ) : Prop where
  clock : earliest ≤ s.clock
  stored : ∀ copy ∈ s.copies, copy.storedAt ≤ s.clock
  held : ∀ t held, s.received t = some held → held.copy ∈ s.copies ∧ held.copy.storedAt ≤ held.now ∧ held.now ≤ s.clock ∧
    earliest ≤ held.now
  past : ∀ entry ∈ s.applied, entry.2 ≤ s.clock ∧ earliest ≤ entry.2
  known : ∀ entry ∈ s.applied, s.clock ≤ entry.2 + window days →
    ∃ row : InboxRow, s.rows (.inl entry.1) = some row ∧ row.processedAt = some (toOffset entry.2)
  once : (s.applied.map (·.1)).Nodup
  /-- No copy outlives the record that refuses it. -/
  outlived : ∀ copy ∈ s.copies, ∀ entry ∈ s.applied, isCopyOf parsers copy.message entry.1 →
    copy.storedAt + maxAge ≤ entry.2 + window days
  /-- Nor the one that a delivery may leave. -/
  ahead : ∀ copy ∈ s.copies, ∀ t held, s.received t = some held → ∀ messageId, isCopyOf parsers copy.message messageId →
    isCopyOf parsers held.copy.message messageId → copy.storedAt + maxAge ≤ held.now + window days

theorem Sound.deduplicates (sound : Sound parsers days s) : Deduplicates parsers s where
  kept copy member delivers entry applied same := by
    have lives : s.clock ≤ copy.storedAt + maxAge := by simpa [deliverable] using delivers
    obtain ⟨row,found,processed⟩ := sound.known entry applied (Int.le_trans lives (sound.outlived copy member entry applied same))
    exact ⟨row,found,by simp [processed]⟩
  once := sound.once

theorem Sound.wait (sound : Sound parsers days s) {instant : Timestamp} (onward : s.clock ≤ instant) :
    Sound parsers days { s with clock := instant } where
  clock := Int.le_trans sound.clock onward
  stored copy member := Int.le_trans (sound.stored copy member) onward
  held t held here := by
    obtain ⟨member,first,second,range⟩ := sound.held t held here
    exact ⟨member,first,Int.le_trans second onward,range⟩
  past entry applied := ⟨Int.le_trans (sound.past entry applied).1 onward,(sound.past entry applied).2⟩
  known entry applied within := sound.known entry applied (Int.le_trans onward within)
  once := sound.once
  outlived := sound.outlived
  ahead := sound.ahead

theorem Sound.publish (sound : Sound parsers days s) {message : RawMessage}
    (punctual : Punctual parsers days s (.publish message)) :
    Sound parsers days { s with copies := s.copies ++ [⟨message,s.clock⟩] } := by
  obtain ⟨applied,taken⟩ := punctual
  have cases_ {copy : StoredCopy} (member : copy ∈ s.copies ++ [⟨message,s.clock⟩]) : copy ∈ s.copies ∨ copy = ⟨message,s.clock⟩ := by
    simpa using member
  exact {
    clock := sound.clock
    stored copy member := by
      rcases cases_ member with old | rfl
      · exact sound.stored copy old
      · exact Int.le_refl _
    held t held here := by
      obtain ⟨member,rest⟩ := sound.held t held here
      exact ⟨List.mem_append_left _ member,rest⟩
    past := sound.past
    known := sound.known
    once := sound.once
    outlived copy member entry done same := by
      rcases cases_ member with old | rfl
      · exact sound.outlived copy old entry done same
      · exact applied entry done same
    ahead copy member t held here messageId same own := by
      rcases cases_ member with old | rfl
      · exact sound.ahead copy old t held here messageId same own
      · exact taken t held here messageId same own }

theorem Sound.receive (valid : retentionViolations days = []) (sound : Sound parsers days s) {t : τ} {consumer : κ}
    {copy : StoredCopy} (member : copy ∈ s.copies) :
    Sound parsers days { s with received := Function.update s.received t (some ⟨consumer,copy,s.clock⟩) } where
  clock := sound.clock
  stored := sound.stored
  held other held here := by
    by_cases own : other = t
    · subst own
      obtain rfl : _ = held := Option.some.inj ((Function.update_self other _ s.received).symm.trans here)
      exact ⟨member,sound.stored copy member,Int.le_refl _,sound.clock⟩
    · exact sound.held other held ((Function.update_of_ne own _ s.received).symm.trans here)
  past := sound.past
  known := sound.known
  once := sound.once
  outlived := sound.outlived
  ahead copy' member' other held here messageId same here' := by
    by_cases own : other = t
    · subst own
      obtain rfl : _ = held := Option.some.inj ((Function.update_self other _ s.received).symm.trans here)
      exact Int.add_le_add (sound.stored copy' member') (maxAge_le_window valid)
    · exact sound.ahead copy' member' other held ((Function.update_of_ne own _ s.received).symm.trans here) messageId same here'

theorem Sound.released (sound : Sound parsers days s) (t : τ) :
    Sound parsers days { s with received := Function.update s.received t none } := by
  have before {other : τ} {held : Received κ} (here : Function.update s.received t none other = some held) :
      s.received other = some held := by
    by_cases own : other = t
    · subst own
      rw [Function.update_self] at here
      cases here
    · rwa [Function.update_of_ne own] at here
  exact {
    clock := sound.clock
    stored := sound.stored
    held other held here := sound.held other held (before here)
    past := sound.past
    known := sound.known
    once := sound.once
    outlived := sound.outlived
    ahead copy member other held here := sound.ahead copy member other held (before here) }

theorem Sound.reported (sound : Sound parsers days s) (report : ConsumerReport) : Sound parsers days { s with report := report } :=
  ⟨sound.clock,sound.stored,sound.held,sound.past,sound.known,sound.once,sound.outlived,sound.ahead⟩

/-- A message that the inbox does not know is recorded. -/
theorem Sound.applies (sound : Sound parsers days s) {t : τ} {held : Received κ} (here : s.received t = some held)
    (punctual : ∀ entry ∈ s.applied, isCopyOf parsers held.copy.message entry.1 → s.clock ≤ entry.2 + window days)
    {messageId : MessageId} (own : isCopyOf parsers held.copy.message messageId) (unknown : s.rows (.inl messageId) = none)
    {row : InboxRow} (processed : row.processedAt = some (toOffset held.now)) {rows : Store (Row ρ)}
    (recorded : ∀ other, rows (.inl other) = if other = messageId then some row else s.rows (.inl other)) :
    Sound parsers days { s with
      received := Function.update s.received t none, rows := rows, applied := s.applied ++ [(messageId,held.now)] } := by
  obtain ⟨-,-,past,inRange⟩ := sound.held t held here
  have free := sound.released t
  have fresh : ∀ entry ∈ s.applied, entry.1 ≠ messageId := by
    intro entry applied same
    subst same
    obtain ⟨row,known,-⟩ := sound.known entry applied (punctual entry applied own)
    rw [unknown] at known
    cases known
  have cases_ {entry : MessageId × Timestamp} (member : entry ∈ s.applied ++ [(messageId,held.now)]) :
      entry ∈ s.applied ∨ entry = (messageId,held.now) := by simpa using member
  exact {
    clock := sound.clock
    stored := sound.stored
    held := free.held
    past entry member := by
      rcases cases_ member with old | rfl
      · exact sound.past entry old
      · exact ⟨past,inRange⟩
    known entry member within := by
      rcases cases_ member with old | rfl
      · obtain ⟨row,known,at_⟩ := sound.known entry old within
        exact ⟨row,(recorded _).trans ((if_neg (fresh entry old)).trans known),at_⟩
      · exact ⟨row,(recorded _).trans (if_pos rfl),processed⟩
    once := by
      rw [List.map_append,List.nodup_append]
      refine ⟨sound.once,List.nodup_singleton _,fun id old id' new same => ?_⟩
      obtain ⟨entry,applied,rfl⟩ := List.mem_map.mp old
      exact fresh entry applied (same.trans (by simpa using new))
    outlived copy member entry done same := by
      rcases cases_ done with old | rfl
      · exact sound.outlived copy member entry old same
      · exact sound.ahead copy member t held here messageId same own
    ahead := free.ahead }

theorem Sound.settle (sound : Sound parsers days s) {t : τ} {held : Received κ} (here : s.received t = some held) {fails : Bool}
    (punctual : Punctual parsers days s (.settle t fails)) :
    Sound parsers days (s.settle parsers tables handler t held fails) := by
  cases fails with
  | true => exact sound.released t
  | false =>
    rcases runFilters_cases parsers tables (handler held.consumer) held.now s.report s.rows held.copy.message with
      ⟨same,idle⟩ | ⟨incoming,row,read,counted,unknown,processed,recorded⟩
    · have settled : s.settle parsers tables handler t held false = { s with
          received := Function.update s.received t none
          report := (runFilters parsers tables (handler held.consumer) held.now s.report s.rows held.copy.message).report } := by
        simp only [Retained.settle,Bool.false_eq_true,if_false,same,idle,if_true]
      rw [settled]
      exact (sound.released t).reported _
    · have own : isCopyOf parsers held.copy.message incoming.messageId := by rw [isCopyOf,read,Option.map_some]
      have settled : s.settle parsers tables handler t held false = { s with
          received := Function.update s.received t none
          report := (runFilters parsers tables (handler held.consumer) held.now s.report s.rows held.copy.message).report
          rows := (runFilters parsers tables (handler held.consumer) held.now s.report s.rows held.copy.message).rows
          applied := s.applied ++ [(incoming.messageId,held.now)] } := by
        simp only [Retained.settle,Bool.false_eq_true,if_false,counted,read,Nat.succ_ne_self,Option.map_some,Option.toList_some]
      rw [settled]
      exact (sound.applies here (punctual held here) own unknown processed recorded).reported _

theorem Sound.collect (sound : Sound parsers days s) {now bound : Timestamp} (past : now ≤ s.clock)
    (start : before now days = some bound) (chosen : List MessageId) :
    Sound parsers days { s with rows := Inbox.collectProcessed bound chosen s.rows } where
  clock := sound.clock
  stored := sound.stored
  held := sound.held
  past := sound.past
  known entry applied within := by
    obtain ⟨row,found,processed⟩ := sound.known entry applied within
    refine ⟨row,?_,processed⟩
    have young : ¬toOffset entry.2 < toOffset bound := fun older =>
      Int.not_lt.mpr (Int.le_trans past within) (older_of_before start (sound.past entry applied).2 older)
    simp [Inbox.collectProcessed,found,processed,young]
  once := sound.once
  outlived := sound.outlived
  ahead := sound.ahead

/-- Each step that is on time keeps the inbox ahead of the stream. -/
theorem Sound.step (valid : retentionViolations days = []) (sound : Sound parsers days s) {event : RetentionEvent κ τ}
    (punctual : Punctual parsers days s event) (stepped : step parsers tables handler days s event = some next) :
    Sound parsers days next := by
  cases event with
  | wait instant =>
    simp only [Retained.step,Option.ite_none_right_eq_some,Option.some.injEq] at stepped
    obtain ⟨onward,rfl⟩ := stepped
    exact sound.wait onward
  | publish message =>
    obtain rfl := Option.some.inj stepped
    exact sound.publish punctual
  | receive t consumer index =>
    simp only [Retained.step] at stepped
    split at stepped
    · rename_i copy kept free
      simp only [Option.ite_none_right_eq_some,Option.some.injEq] at stepped
      obtain ⟨-,rfl⟩ := stepped
      exact sound.receive valid (List.mem_of_getElem? kept)
    · cases stepped
  | settle t fails =>
    obtain ⟨held,here,rfl⟩ := Option.map_eq_some_iff.mp stepped
    exact sound.settle here punctual
  | collect now chosen =>
    simp only [Retained.step,Option.ite_none_right_eq_some] at stepped
    obtain ⟨⟨past,-⟩,collected⟩ := stepped
    obtain ⟨bound,start,rfl⟩ := Option.map_eq_some_iff.mp collected
    exact sound.collect past start chosen

theorem initial_sound {clock : Timestamp} (inRange : earliest ≤ clock) (rows : Store (Row ρ)) :
    Sound parsers days (initial clock rows : Retained ρ κ τ) where
  clock := inRange
  stored _ member := by cases member
  held _ _ here := by cases here
  past _ member := by cases member
  known _ member := by cases member
  once := List.nodup_nil
  outlived _ member := by cases member
  ahead _ member := by cases member

end Keeping

section Main

variable (parsers : Parsers) (tables : Constraints ρ) (handler : κ → Handler ρ Json ε) (days : Nat)

/-- In a run whose steps are on time the inbox knows, in every state, what can still be delivered. -/
theorem retention_deduplicates (valid : retentionViolations days = []) (clock : Timestamp) (inRange : earliest ≤ clock)
    (rows : Store (Row ρ)) (events : List (RetentionEvent κ τ))
    (punctual : StateMachine.Along (step parsers tables handler days) (Punctual parsers days) (initial clock rows) events) :
    StateMachine.Throughout (step parsers tables handler days) (Deduplicates parsers) (initial clock rows) events :=
  StateMachine.throughout_of_along _ (Sound parsers days) _ _ (fun _ _ _ sound met stepped => sound.step valid met stepped)
    (fun _ sound => sound.deduplicates) _ _ (initial_sound inRange rows) punctual

end Main

section Late

/-- The rows of an inbox that no handler writes beside. -/
abbrev InboxOnly : Type := Store (Row fun key : Empty => (nomatch key : Type))

/-- A message that was applied and is stored again an hour later, for want of an acknowledgement. -/
def storedAgain : List (RetentionEvent Unit Unit) :=
  [.publish (messageOf "ratatoskr-chatgpt"),.receive () () 0,.settle () false,.wait hour,
    .publish (messageOf "ratatoskr-chatgpt")]

/-- Half an hour after the first copy has expired the record goes, and the second copy is delivered. -/
def collectedBetween : List (RetentionEvent Unit Unit) :=
  storedAgain ++ [.wait (maxAge + hour / 2),.collect (maxAge + hour / 2) [0x018f2f5e7b7a7c3e8a1b2c3d4e5f6071],.receive () () 1,
    .settle () false]

def lateRun (days : Nat) (events : List (RetentionEvent Unit Unit)) : Option (Retained (fun key : Empty => (nomatch key : Type)) Unit Unit) :=
  StateMachine.run (step twoEnvelopes noTables (fun _ => idle) days) (initial 0 fun _ => none) events

theorem late_copy_applied_twice : ∃ s, lateRun eventRetentionDays collectedBetween = some s ∧ ¬Deduplicates twoEnvelopes s := by
  have twice : (lateRun eventRetentionDays collectedBetween).map (fun s => s.applied.map (·.1)) =
      some [0x018f2f5e7b7a7c3e8a1b2c3d4e5f6071,0x018f2f5e7b7a7c3e8a1b2c3d4e5f6071] := by decide +kernel
  obtain ⟨s,ran,log⟩ := Option.map_eq_some_iff.mp twice
  refine ⟨s,ran,fun deduplicates => ?_⟩
  have once := deduplicates.once
  rw [log] at once
  exact absurd once (by decide)

/-- With a window of thirty days that copy is on time. -/
theorem retention_deduplicates_stored_again :
    StateMachine.Throughout (step twoEnvelopes noTables (fun _ => idle) 30) (Deduplicates twoEnvelopes)
      (initial 0 fun _ => none) storedAgain := by
  refine retention_deduplicates twoEnvelopes noTables (fun _ => idle) 30 (by decide) 0 (by decide) (fun _ => none) storedAgain ?_
  refine ⟨⟨fun _ applied => (by cases applied),fun _ _ taken => (by cases taken)⟩,fun _ first => ?_⟩
  obtain rfl := Option.some.inj first
  refine ⟨trivial,fun _ second => ?_⟩
  obtain rfl := Option.some.inj second
  refine ⟨fun _ _ _ applied => (by cases applied),fun _ third => ?_⟩
  obtain rfl := Option.some.inj third
  refine ⟨trivial,fun _ fourth => ?_⟩
  obtain rfl := Option.some.inj fourth
  refine ⟨⟨fun entry applied _ => ?_,fun _ _ taken => by cases taken⟩,fun _ _ => trivial⟩
  have processed : entry.2 = 0 := by
    simp only [Retained.settle,Bool.false_eq_true,if_false] at applied
    split at applied
    · cases applied
    · simp only [initial,List.nil_append,Option.mem_toList,Option.map_eq_some_iff] at applied
      obtain ⟨_,_,rfl⟩ := applied
      rfl
  rw [processed]
  decide

end Late

end Retained

end Ratatoskr.Eventing
