import Ratatoskr.Eventing.Consumer
import Ratatoskr.Lib.Beside
import Ratatoskr.Operations.Service
import Ratatoskr.PublicApi.SiteEvents

/-! The completion event of a site edit. It is staged by the delivery whose report makes the operation of the
edit succeed, and passed on when that delivery has committed. -/
set_option linter.unusedSectionVars false

namespace Ratatoskr.PublicApi

open Transaction Eventing Operations

/-- The grammars of the members of a notice. -/
structure NoticeContract where
  sourceRef : String → Bool
  digest : String → Bool

variable {ε : Type} (contract : NoticeContract)

/-- The operation that a report names. -/
def operationOf (message : Incoming Envelope) : Option OperationId := message.payload.payload.map (·.operationId)

def editCompleted (operationId : OperationId) (sourceRef revision : String) : Option SiteEvent :=
  if contract.sourceRef sourceRef && contract.digest revision then some (.editCompleted operationId sourceRef revision)
  else none

/-- The row of the query for a completed edit. -/
def completed (operationId : OperationId) : Tx TableRow ε (Option SiteEdit) := do
  let edit ← Tx.select (ν := TableRow) (.siteEdit operationId)
  let operation ← Tx.select (ν := TableRow) (.operation operationId)
  pure (if operation.any fun record : OperationRecord => record.operation.status = .succeeded then edit else none)

/-- `SiteEditReports::handle`, with what it stages beside its outcome. -/
def handleEditReport (message : Incoming Envelope) (now : Timestamp) : Tx TableRow ε (Outcome × Option (SiteId × SiteEvent)) := do
  let outcome ← Operations.handle message now
  if outcome ≠ .applied then return (outcome,none)
  let some operationId := operationOf message | return (outcome,none)
  let edit ← completed operationId
  return (outcome,edit.bind fun row : SiteEdit =>
    (editCompleted contract operationId row.sourceRef row.revision).map fun event => (row.siteId,event))

/-- `deliver`, with what its handler stages. -/
def deliverStaging (handler : Incoming Envelope → Timestamp → Tx TableRow ε (Outcome × Option (SiteId × SiteEvent)))
    (message : Incoming Envelope) (now : Timestamp) : Tx (Row TableRow) (Option ε) (Outcome × Option (SiteId × SiteEvent)) := do
  match ← Inbox.begin message now with
  | .duplicate => .abandon none
  | .first => do
    let (outcome,staged) ← (handler message now).widen some
    Inbox.finish message.messageId outcome now
    pure (outcome,staged)

/-- What became of the commit of a delivery, and of the answer to it. -/
inductive Fate where
  | committed | rolledBack | unanswered
deriving DecidableEq

/-- The projection with its hub; `given` are the events the hub was given, with the messages they came with. -/
structure Reporting where
  rows : Store (Row TableRow)
  hub : SiteEventHub
  given : List (MessageId × Staged)

/-- Deliveries of reports, the other writers of operations, and new edits. -/
inductive ReportEvent where
  | deliver (message : Incoming Envelope) (occurredAt : Option Timestamp) (now settledAt : Timestamp) (fate : Fate)
  | elsewhere (action : Operations.Action)
  | edit (operationId : OperationId) (row : SiteEdit)

namespace Reporting

def initial (epoch : String) : Reporting := ⟨fun _ => none,.init epoch,[]⟩

/-- The handler has returned what it stages; the delivery ends and settles. -/
def settle (s : Reporting) (message : Incoming Envelope) (occurredAt : Option Timestamp) (now settledAt : Timestamp)
    (fate : Fate) (staged : Option (SiteId × SiteEvent)) (later : Store (Row TableRow)) : Reporting :=
  let hub := (staged.map fun staged => s.hub.stage message.messageId staged.1 staged.2 occurredAt now).getD s.hub
  let passed := hub.settled message.messageId (fate == .committed)
  { rows := if fate = .rolledBack then s.rows else later
    hub := hub.settle message.messageId (fate == .committed) settledAt
    given := s.given ++ passed.map fun staged => (message.messageId,staged) }

def step (s : Reporting) : ReportEvent → Reporting
  | .deliver message occurredAt now settledAt fate =>
    match exec (Eventing.constraints schema) (deliverStaging (ε := Unit) (handleEditReport contract) message now) s.rows with
    | .done (_,staged) later => s.settle message occurredAt now settledAt fate staged later
    | .abandoned none => s
    | _ => { s with hub := s.hub.settle message.messageId false settledAt }
  | .elsewhere action => { s with rows := Store.withSecond s.rows (Operations.step (Store.second s.rows) action) }
  | .edit operationId row =>
    if (s.rows (.inr (.siteEdit operationId))).isNone && row.checks && (s.rows (.inr (.operation operationId))).isSome then
      { s with rows := Function.update s.rows (.inr (.siteEdit operationId)) (some row) }
    else s

end Reporting

/-- The event completes the edit of this operation. -/
def SiteEvent.completes (event : SiteEvent) (operationId : OperationId) : Bool :=
  match event with
  | .editCompleted own _ _ => own == operationId
  | _ => false

/-- The hub is given one completion of an operation at most, and only by a delivery that has committed its report
and left the operation succeeded. -/
structure CompletesOnce (s : Reporting) : Prop where
  once : ∀ operationId, (s.given.filter fun entry => entry.2.event.completes operationId).length ≤ 1
  committed : ∀ entry ∈ s.given, ∀ operationId, entry.2.event.completes operationId = true →
    ∃ row : InboxRow, s.rows (.inl entry.1) = some row ∧ row.outcome = some .applied
  succeeded : ∀ entry ∈ s.given, ∀ operationId, entry.2.event.completes operationId = true →
    ∃ record : OperationRecord, s.rows (.inr (.operation operationId)) = some record ∧ record.operation.status = .succeeded

section Staging

variable (handler : Incoming Envelope → Timestamp → Tx TableRow ε (Outcome × Option (SiteId × SiteEvent)))
  (message : Incoming Envelope) (now : Timestamp)

theorem deliverStaging_eq :
    deliverStaging handler message now =
      .insert (.inl message.messageId) (Inbox.receivedRow message now) fun
        | true => ((handler message now).widen some).bind fun answer =>
          (Inbox.finish message.messageId answer.1 now).bind fun _ => .done answer
        | false => .abandon none := by
  refine congrArg (Tx.insert _ _) (funext fun fresh => ?_)
  cases fresh <;> rfl

/-- Without what is staged, it is the delivery of any consumer. -/
theorem deliverStaging_adapt :
    (deliverStaging handler message now).adapt id Prod.fst =
      deliver (fun message now => (handler message now).adapt id Prod.fst) message now := by
  rw [deliverStaging_eq]
  refine congrArg (Tx.insert _ _) (funext fun fresh => ?_)
  cases fresh with
  | false => rfl
  | true =>
    change (((handler message now).widen some).bind fun answer =>
        (Inbox.finish message.messageId answer.1 now).bind fun _ => .done answer).adapt id Prod.fst =
      (((handler message now).adapt id Prod.fst).widen some).bind fun outcome =>
        (Inbox.finish message.messageId outcome now).bind fun _ => .done outcome
    rw [Tx.bind_adapt,Tx.adapt_widen_bind]
    simp only [Tx.bind_adapt]
    rfl

variable {handler message now} {whole after : Store (Row TableRow)}

/-- A delivery that reaches its commit records its message and does what its handler does. -/
theorem deliverStaging_done {answer : Outcome × Option (SiteId × SiteEvent)}
    (ended : exec (Eventing.constraints schema) (deliverStaging handler message now) whole = .done answer after) :
    whole (.inl message.messageId) = none ∧
      (∃ row : InboxRow, after (.inl message.messageId) = some row ∧ row.outcome = some answer.1) ∧
      (∀ messageId, messageId ≠ message.messageId → after (.inl messageId) = whole (.inl messageId)) ∧
      exec schema (handler message now) (Store.second whole) = .done answer (Store.second after) := by
  rw [deliverStaging_eq] at ended
  simp only [exec] at ended
  split at ended
  · cases known : whole (.inl message.messageId) with
    | some row =>
      rw [known] at ended
      cases ended
    | none =>
      rw [known] at ended
      obtain ⟨first,middle,ran,finished⟩ := (exec_bind_done _ _ _ _ _ _).mp ended
      rw [constraints_eq,exec_widen_done] at ran
      obtain ⟨own,handled,rfl⟩ := ran
      obtain ⟨updated,last,wrote,final⟩ := (exec_bind_done _ _ _ _ _ _).mp finished
      obtain ⟨rfl,rfl⟩ := Outcome.done.inj final
      rw [Inbox.finish,Tx.bind_eq,exec_bind_done] at wrote
      obtain ⟨matched,stored,written,same⟩ := wrote
      obtain ⟨-,rfl⟩ := Outcome.done.inj same
      have alone : Store.second (Function.update whole (.inl message.messageId) (some (Inbox.receivedRow message now))) =
          Store.second whole := funext fun key => Function.update_of_ne (fun equal => by cases equal) _ _
      rw [alone] at handled
      rw [update_withSecond] at written
      rcases (exec_updateWhere_any_done _ _ _ _ _ _).mp written with ⟨row,-,-,-,rfl⟩ | ⟨absent,-,-⟩
      · refine ⟨rfl,⟨_,Function.update_self _ _ _,rfl⟩,fun messageId other => ?_,?_⟩
        · have apart : (Sum.inl messageId : Key Table) ≠ .inl message.messageId := fun equal => other (Sum.inl.inj equal)
          rw [Function.update_of_ne apart,Function.update_of_ne apart]
          rfl
        · rw [handled]
          refine congrArg _ (funext fun key => ?_)
          have apart : (Sum.inr key : Key Table) ≠ .inl message.messageId := fun equal => by cases equal
          rw [Store.second,Function.update_of_ne apart,Function.update_of_ne apart]
          rfl
      · rw [Function.update_self] at absent
        cases absent
  · cases ended

end Staging

section Handling

variable {rows later : Db} (message : Incoming Envelope) (now : Timestamp)

/-- A report is applied where it makes its operation advance. -/
theorem handle_applied (valid : Valid rows)
    (ended : exec schema (Operations.handle message now : Tx TableRow ε _) rows = .done .applied later) :
    ∃ report record final, ProgressReport.read message.payload = some report ∧
      rows (.operation report.operationId) = some record ∧ isTerminal record.operation.status = false ∧
      later = Function.update rows (.operation report.operationId) (some final) ∧
      final.operation.status = report.status := by
  cases read : ProgressReport.read message.payload with
  | none =>
    rw [exec_handle_unread rows message now read] at ended
    cases ended
  | some report =>
    cases bound : boundAt rows message report.operationId with
    | false =>
      rw [exec_handle_unbound rows message now report read bound] at ended
      cases ended
    | true =>
      rw [exec_handle_bound rows message now report read bound] at ended
      cases found : rows (.operation report.operationId) with
      | none =>
        rw [boundAt,found] at bound
        cases bound
      | some record =>
        rw [exec_project rows now report record found] at ended
        split at ended
        · rename_i outcome final handled_
          obtain ⟨rfl,rfl⟩ := Outcome.done.inj ended
          simp only [handled] at handled_
          split at handled_
          · cases handled_
          · obtain ⟨_,_,same⟩ := ok_of_map handled_
            cases same
          · obtain ⟨_,_,same⟩ := ok_of_map handled_
            cases same
          · rename_i status advances
            obtain ⟨made,applied,same⟩ := ok_of_map handled_
            obtain rfl := (Prod.mk.inj same).2
            obtain ⟨rfl,above⟩ := (apply_advance_iff _ _ _).mp advances
            obtain ⟨-,reached,-⟩ := advanced record made (valid _ _ found) now _ _ _ _ _ (attachments_annotate report now)
              above (report_stage_named report) applied
            refine ⟨report,record,made,rfl,found,?_,rfl,reached⟩
            rw [← Bool.not_eq_true,is_terminal_iff]
            have top := rank_le_terminal report.status
            omega
        · cases ended

theorem exec_completed (rows : Db) (operationId : OperationId) :
    exec schema (completed operationId : Tx TableRow ε _) rows =
      .done (if (rows (.operation operationId)).any fun record : OperationRecord => record.operation.status = .succeeded
        then rows (.siteEdit operationId) else none) rows := rfl

/-- What the handler of reports does: it moves operations on, and stages a completion only where it has made the
operation succeed. -/
theorem handleEditReport_done (valid : Valid rows) {outcome : Outcome} {staged : Option (SiteId × SiteEvent)}
    (ended : exec schema (handleEditReport contract message now : Tx TableRow Unit _) rows = .done (outcome,staged) later) :
    Moves now rows later ∧ ∀ site event, staged = some (site,event) → outcome = .applied ∧
      ∃ operationId sourceRef revision record final, event = .editCompleted operationId sourceRef revision ∧
        rows (.operation operationId) = some record ∧ isTerminal record.operation.status = false ∧
        later (.operation operationId) = some final ∧ final.operation.status = .succeeded := by
  simp only [handleEditReport,Tx.bind_eq,exec_bind_done] at ended
  obtain ⟨first,middle,handled_,rest⟩ := ended
  have moves : Moves now rows middle := by
    have kept := writer_kept (.report message now) rows valid
    rw [Writer.program,exec_adapt,handled_] at kept
    exact kept
  by_cases applied : first = .applied
  · subst applied
    obtain ⟨report,record,final,read,found,live,rfl,reached⟩ := handle_applied message now valid handled_
    have named : operationOf message = some report.operationId := by
      obtain ⟨payload,-⟩ := Option.filter_eq_some_iff.mp read
      rw [operationOf,payload,Option.map_some]
    simp only [ne_eq,not_true_eq_false,if_false,named] at rest
    rw [exec_bind,exec_completed,Outcome.done_bind] at rest
    obtain ⟨same,rfl⟩ := Outcome.done.inj rest
    obtain ⟨rfl,rfl⟩ := Prod.mk.inj same
    refine ⟨moves,fun site event staged => ⟨rfl,?_⟩⟩
    obtain ⟨row,matched,made⟩ := Option.bind_eq_some_iff.mp staged
    obtain ⟨notice,written,same⟩ := Option.map_eq_some_iff.mp made
    obtain ⟨rfl,rfl⟩ := Prod.mk.inj same
    simp only [editCompleted,Option.ite_none_right_eq_some,Option.some.injEq] at written
    obtain ⟨-,rfl⟩ := written
    simp only [Function.update_self,Option.any_some,decide_eq_true_eq,Option.ite_none_right_eq_some] at matched
    exact ⟨report.operationId,row.sourceRef,row.revision,record,final,rfl,found,live,Function.update_self _ _ _,matched.1⟩
  · simp only [ne_eq,applied,not_false_eq_true,if_true] at rest
    obtain ⟨same,rfl⟩ := Outcome.done.inj rest
    obtain ⟨rfl,rfl⟩ := Prod.mk.inj same
    exact ⟨moves,fun _ _ staged => by cases staged⟩

end Handling

namespace SiteEventHub

variable (hub : SiteEventHub)

/-- Nothing of a settled delivery is held any more, and of the others all is. -/
theorem settle_staged (messageId : MessageId) (committed : Bool) (now : Timestamp) :
    (hub.settle messageId committed now).staged = Function.update hub.staged messageId [] := by
  unfold settle
  generalize hub.settled messageId committed = passed
  suffices general : ∀ start : SiteEventHub,
      (passed.foldl (fun hub staged => hub.push staged now) start).staged = start.staged from general _
  induction passed with
  | nil => exact fun _ => rfl
  | cons staged rest ih => exact fun start => (ih _).trans (push_staged start staged now)

end SiteEventHub

namespace Reporting

variable {contract} {s : Reporting}

structure Sound (s : Reporting) : Prop extends CompletesOnce s where
  valid : Valid (Store.second s.rows)
  /-- No delivery is under way. -/
  idle : ∀ messageId, s.hub.staged messageId = []

theorem initial_sound (epoch : String) : Sound (initial epoch) where
  once _ := Nat.zero_le 1
  committed _ member := by cases member
  succeeded _ member := by cases member
  valid _ _ found := by cases found
  idle _ := rfl

/-- Records of messages stay, and operations only move on. -/
theorem Sound.moved (sound : Sound s) {rows : Store (Row TableRow)} {hub : SiteEventHub}
    (inbox : ∀ messageId (row : InboxRow), s.rows (.inl messageId) = some row → rows (.inl messageId) = some row)
    (valid : Valid (Store.second rows)) (grows : Grows (Store.second s.rows) (Store.second rows))
    (idle : ∀ messageId, hub.staged messageId = []) : Sound { s with rows := rows, hub := hub } where
  once := sound.once
  committed entry member operationId completes := by
    obtain ⟨row,recorded,applied⟩ := sound.committed entry member operationId completes
    exact ⟨row,inbox _ row recorded,applied⟩
  succeeded entry member operationId completes := by
    obtain ⟨record,found,succeeded⟩ := sound.succeeded entry member operationId completes
    obtain ⟨new,kept,onward⟩ := grows operationId record found
    exact ⟨new,kept,(onward.terminal (by rw [succeeded]; rfl)).trans succeeded⟩
  valid := valid
  idle := idle

/-- The hub is given the completion of an operation that has succeeded and was not completed before. -/
theorem Sound.gives (sound : Sound s) {messageId : MessageId} {staged : Staged} {operationId : OperationId}
    {sourceRef revision : String} (event : staged.event = .editCompleted operationId sourceRef revision) {row : InboxRow}
    (recorded : s.rows (.inl messageId) = some row) (applied : row.outcome = some .applied) {record : OperationRecord}
    (found : s.rows (.inr (.operation operationId)) = some record) (succeeded : record.operation.status = .succeeded)
    (fresh : ∀ entry ∈ s.given, entry.2.event.completes operationId = false) :
    Sound { s with given := s.given ++ [(messageId,staged)] } := by
  have completes (other : OperationId) : staged.event.completes other = (operationId == other) := by rw [event]; rfl
  have cases_ {entry : MessageId × Staged} (member : entry ∈ s.given ++ [(messageId,staged)]) :
      entry ∈ s.given ∨ entry = (messageId,staged) := by simpa using member
  exact {
    once other := by
      rw [List.filter_append,List.length_append]
      by_cases own : operationId = other
      · subst own
        have none_ : s.given.filter (fun entry => entry.2.event.completes operationId) = [] :=
          List.filter_eq_nil_iff.mpr fun entry member => by simp [fresh entry member]
        rw [none_,List.length_nil,Nat.zero_add]
        exact List.length_filter_le _ _
      · have apart : [(messageId,staged)].filter (fun entry => entry.2.event.completes other) = [] := by
          simp [completes,own]
        rw [apart,List.length_nil,Nat.add_zero]
        exact sound.once other
    committed entry member other holds := by
      rcases cases_ member with old | rfl
      · exact sound.committed entry old other holds
      · exact ⟨row,recorded,applied⟩
    succeeded entry member other holds := by
      rcases cases_ member with old | rfl
      · exact sound.succeeded entry old other holds
      · rw [completes,beq_iff_eq] at holds
        exact holds ▸ ⟨record,found,succeeded⟩
    valid := sound.valid
    idle := sound.idle }

theorem Sound.unmoved (sound : Sound s) (messageId : MessageId) (committed : Bool) (now : Timestamp) :
    Sound { s with hub := s.hub.settle messageId committed now } :=
  sound.moved (fun _ _ recorded => recorded) sound.valid (Grows.refl _) fun other => by
    rw [SiteEventHub.settle_staged]
    by_cases own : other = messageId
    · rw [own,Function.update_self]
    · rw [Function.update_of_ne own]
      exact sound.idle other

theorem Sound.settle (sound : Sound s) {message : Incoming Envelope} {now : Timestamp} {outcome : Outcome}
    {staged : Option (SiteId × SiteEvent)} {later : Store (Row TableRow)}
    (ended : exec (Eventing.constraints schema) (deliverStaging (ε := Unit) (handleEditReport contract) message now) s.rows =
      .done (outcome,staged) later) (occurredAt : Option Timestamp) (settledAt : Timestamp) (fate : Fate) :
    Sound (s.settle message occurredAt now settledAt fate staged later) := by
  obtain ⟨absent,⟨row,recorded,outcome_⟩,others,handled⟩ := deliverStaging_done ended
  obtain ⟨moves,completion⟩ := handleEditReport_done contract message now sound.valid handled
  have kept (messageId : MessageId) (stored : InboxRow) (known : s.rows (.inl messageId) = some stored) :
      later (.inl messageId) = some stored := by
    by_cases own : messageId = message.messageId
    · rw [own,absent] at known
      cases known
    · exact (others messageId own).trans known
  cases staged with
  | none =>
    have passes : s.hub.settled message.messageId (fate == .committed) = [] := by
      rw [SiteEventHub.settled,sound.idle]
      split <;> rfl
    simp only [Reporting.settle,Option.map_none,Option.getD_none,passes,List.map_nil,List.append_nil]
    split
    · exact sound.unmoved _ _ _
    · exact sound.moved kept moves.valid moves.grows
        (sound.unmoved message.messageId (fate == .committed) settledAt).idle
  | some event =>
    obtain ⟨site,event⟩ := event
    obtain ⟨rfl,operationId,sourceRef,revision,record,final,rfl,found,live,reached,succeeded⟩ := completion site event rfl
    -- no delivery is under way, so this one holds its own event only
    have held (other : MessageId) : (s.hub.stage message.messageId site (.editCompleted operationId sourceRef revision)
        occurredAt now).staged other = if other = message.messageId then
          [⟨site,.editCompleted operationId sourceRef revision,(occurredAt.map fun occurred => min occurred now).getD now⟩]
        else [] := by
      rw [SiteEventHub.stage]
      by_cases own : other = message.messageId
      · subst own
        rw [if_pos rfl]
        simp [sound.idle]
      · rw [if_neg own]
        exact (Function.update_of_ne own _ _).trans (sound.idle other)
    have released (committed : Bool) (other : MessageId) :
        ((s.hub.stage message.messageId site (.editCompleted operationId sourceRef revision) occurredAt now).settle
          message.messageId committed settledAt).staged other = [] := by
      rw [SiteEventHub.settle_staged]
      by_cases own : other = message.messageId
      · rw [own,Function.update_self]
      · rw [Function.update_of_ne own,held,if_neg own]
    cases fate with
    | rolledBack =>
      have moved := sound.moved (fun _ _ recorded => recorded) sound.valid (Grows.refl _) (released false)
      have lost : (Fate.rolledBack == Fate.committed) = false := rfl
      simpa [Reporting.settle,SiteEventHub.settled,lost] using moved
    | unanswered =>
      have moved := sound.moved kept moves.valid moves.grows (released false)
      have lost : (Fate.unanswered == Fate.committed) = false := rfl
      simpa [Reporting.settle,SiteEventHub.settled,lost] using moved
    | committed =>
      have moved := sound.moved kept moves.valid moves.grows (released true)
      have fresh : ∀ entry ∈ s.given, entry.2.event.completes operationId = false := by
        intro entry member
        rw [← Bool.not_eq_true]
        intro completes
        obtain ⟨old,stored,ended⟩ := sound.succeeded entry member operationId completes
        obtain rfl : record = old := Option.some.inj (found.symm.trans stored)
        rw [ended] at live
        cases live
      have shown : Staged.event ⟨site,.editCompleted operationId sourceRef revision,
          (occurredAt.map fun occurred => min occurred now).getD now⟩ = .editCompleted operationId sourceRef revision := rfl
      have given := moved.gives shown recorded outcome_ reached succeeded fresh
      simpa [Reporting.settle,SiteEventHub.settled,held] using given

theorem Sound.step (sound : Sound s) (event : ReportEvent) : Sound (s.step contract event) := by
  cases event with
  | deliver message occurredAt now settledAt fate =>
    rw [Reporting.step]
    cases ended : exec (Eventing.constraints schema)
        (deliverStaging (ε := Unit) (handleEditReport contract) message now) s.rows with
    | done answer later => exact sound.settle ended occurredAt settledAt fate
    | abandoned reason =>
      cases reason with
      | none => exact sound
      | some _ => exact sound.unmoved _ _ _
    | refused => exact sound.unmoved _ _ _
  | elsewhere action =>
    have moves := step_moves (Store.second s.rows) action sound.valid
    exact sound.moved (fun _ _ recorded => recorded) moves.valid moves.grows sound.idle
  | edit operationId row =>
    rw [Reporting.step]
    split
    · have same : ∀ id, Store.second (Function.update s.rows (.inr (.siteEdit operationId)) (some row)) (.operation id) =
          Store.second s.rows (.operation id) := fun id => Function.update_of_ne (fun equal => by cases equal) _ _
      refine sound.moved (fun messageId stored known => ?_) (fun id record found => ?_) (fun id record found => ?_) sound.idle
      · exact (Function.update_of_ne (fun equal => by cases equal) _ _).trans known
      · exact sound.valid id record ((same id).symm.trans found)
      · exact ⟨record,(same id).trans found,Extends.refl record⟩
    · exact sound

end Reporting

end Ratatoskr.PublicApi
