import Ratatoskr.Idempotency.Keys
import Ratatoskr.Lib.Offers
import Ratatoskr.Messages.Envelopes
import Ratatoskr.Scheduling.FiredOnce

/-! Whether the id of an outbox row, by which the broker recognises a message, is the id in its envelope, by which
the inbox of a consumer does. -/
namespace Ratatoskr.Messages

open Transaction Eventing PublicApi Scheduling

section Reading

variable {wire : Wire} {parsers : Parsers}

/-- One document has the text members of another, and only members that the other has. -/
def Reads (document read : Json) : Prop := ∀ name, (document.get name = none → read.get name = none) ∧
  ∀ value, document.get name = some (.string value) → read.get name = some (.string value)

/-- The other crates read what they write, and the envelopes of the contracts name themselves by one member. -/
structure Wire.ReadBy (wire : Wire) (parsers : Parsers) : Prop where
  text : ∀ document, ∃ read, parsers.fromSlice (wire.text document).toUTF8.toList = some read ∧ Reads document read
  uuid : ∀ id, parsers.uuid (wire.uuid id) = some id
  command : ∀ envelope, (wire.command envelope).get "command_id" = some (.string (wire.uuid envelope.commandId)) ∧
    (wire.command envelope).get "event_id" = none
  event : ∀ envelope, (wire.event envelope).get "event_id" = some (.string (wire.uuid envelope.eventId))

/-- A consumer that reads the payload of the row takes the id of the row as its inbox key. -/
def Keyed (parsers : Parsers) (row : OutboxRow) : Prop :=
  ∀ subject, (Subject.parse subject).toOption.isSome →
    (parse parsers ⟨subject,row.payload.toUTF8.toList⟩).map Incoming.messageId = some row.messageId

/-- The document carries an id, as an event or as a command. -/
def Carries (wire : Wire) (document : Json) (id : MessageId) : Prop :=
  document.get "event_id" = some (.string (wire.uuid id)) ∨
    document.get "event_id" = none ∧ document.get "command_id" = some (.string (wire.uuid id))

theorem envelope_carries (command : Scheduling.Command) : Carries wire (envelope wire command) command.commandId :=
  Or.inr ⟨rfl,rfl⟩

theorem command_carries (reads : wire.ReadBy parsers) (envelope : CommandEnvelope) :
    Carries wire (wire.command envelope) envelope.commandId := Or.inr (reads.command envelope).symm

theorem capture_carries (reads : wire.ReadBy parsers) {captured : CaptureEnvelope} {id : MessageId}
    (own : captured.commandId = id) : Carries wire (wire.command (captureCommand wire captured)) id := by
  subst own
  exact command_carries reads _

/-- The consumer takes the id that the document carries. -/
theorem parse_carried (reads : wire.ReadBy parsers) {document : Json} {id : MessageId} (carries : Carries wire document id)
    {subject : String} (readable : (Subject.parse subject).toOption.isSome) :
    (parse parsers ⟨subject,(wire.text document).toUTF8.toList⟩).map Incoming.messageId = some id := by
  obtain ⟨read,parsed,members⟩ := reads.text document
  obtain ⟨valid,known⟩ := Option.isSome_iff_exists.mp readable
  have named : ((read.get "event_id").orElse fun _ => read.get "command_id") = some (.string (wire.uuid id)) := by
    rcases carries with event | ⟨absent,command⟩
    · rw [(members "event_id").2 _ event]
      rfl
    · rw [(members "event_id").1 absent]
      exact (members "command_id").2 _ command
  simp only [parse,parsed,named,known,reads.uuid,Json.asStr,Option.bind_eq_bind,Option.bind_some,Option.pure_def,
    Option.map_some]

theorem keyed_iff (reads : wire.ReadBy parsers) {document : Json} {id : MessageId} (carries : Carries wire document id)
    {row : OutboxRow} (payload : row.payload = wire.text document) : Keyed parsers row ↔ id = row.messageId := by
  unfold Keyed
  rw [payload]
  constructor
  · intro keyed
    have known : (Subject.parse captureSubject).toOption.isSome := by decide
    exact Option.some.inj ((parse_carried reads carries known).symm.trans (keyed captureSubject known))
  · rintro rfl subject readable
    exact parse_carried reads carries readable

end Reading

section Offered

variable {wire : Wire} {messageId : MessageId} {row : OutboxRow}

/-- Any table but the outbox. -/
abbrev Unsent : Table → Prop
  | .outbox _ => False
  | _ => True

/-- The row has the id it is stored by, and a document that carries another or the same. -/
structure Sent (wire : Wire) (messageId : MessageId) (row : OutboxRow) (own carried : MessageId) : Prop where
  key : messageId = own
  messageId : row.messageId = own
  payload : ∃ document, row.payload = wire.text document ∧ Carries wire document carried

theorem offers_enqueue {β : Type} {outboxId : Nat} {own : MessageId} {subject payload : String}
    {operationId : Option OperationId} {now : Timestamp} (offered : Offers (ν := TableRow) (.outbox messageId) row
      (Outbox.enqueue outboxId own subject payload operationId now : Tx TableRow β _)) :
    messageId = own ∧ row = Outbox.enqueuedRow outboxId own subject payload operationId now := by
  have key : messageId = own := by
    have within : Within (· = Table.outbox own) (Outbox.enqueue outboxId own subject payload operationId now : Tx TableRow β _) :=
      within_insertUnlessConflict (ν := TableRow) (· = Table.outbox own) _ rfl _
    exact Table.outbox.inj (offers_within (· = Table.outbox own) within offered)
  subst key
  exact ⟨rfl,offers_insertUnlessConflict offered⟩

theorem within_accept {β : Type} (operationId : OperationId) (ownerUserId : UserId) (kind correlationId : String)
    (idempotencyKey reporter : Option String) (now : Timestamp) :
    Within Unsent (Operations.accept operationId ownerUserId kind correlationId idempotencyKey reporter now :
      Tx TableRow β _) := by
  simp only [Operations.accept]
  split
  · trivial
  · refine within_bind _ _ _ (within_insertNew Unsent _ trivial _) fun _ => ?_
    cases idempotencyKey with
    | none => trivial
    | some key => exact within_bind _ _ _ (within_insertNew Unsent _ trivial _) fun _ => trivial

theorem within_complete {β : Type} (scope : Idempotency.Scope) (recordId : Nat) (operationId : Option OperationId)
    (responseStatus : Nat) (now : Timestamp) :
    Within Unsent (Idempotency.complete scope recordId operationId responseStatus now : Tx TableRow β Unit) :=
  within_bind _ _ _ (within_updateWhere Unsent _ trivial _ _) fun _ => trivial

theorem within_record {β : Type} (auditEventId : Nat) (event : AuditEvent) :
    Within Unsent (AuditEvent.record auditEventId event : Tx TableRow β Unit) := within_insertNew Unsent _ trivial _

/-- Around the work of a route nothing is enqueued. -/
theorem offers_submission {settings : Settings} {submission : Submission}
    {work : Operations.Operation → Tx TableRow PublicApi.Answer Unit}
    (offered : Offers (ν := TableRow) (.outbox messageId) row (submission.accept settings work)) :
    ∃ operation, Offers (ν := TableRow) (.outbox messageId) row (work operation) := by
  rcases offers_bind offered with reserving | ⟨reserved,offered⟩
  · cases offers_within _ (Idempotency.within_reserve _ _ _ _ _) reserving
  cases reserved with
  | error => exact offered.elim
  | ok reservation =>
    cases outcome : reservation.outcome with
    | replay | refuse =>
      simp only [outcome] at offered
      exact offered.elim
    | proceed recordId =>
      simp only [outcome] at offered
      rcases offers_bind offered with accepting | ⟨accepted,offered⟩
      · exact (offers_within Unsent (within_accept _ _ _ _ _ _ _) accepting).elim
      cases accepted with
      | error => exact offered.elim
      | ok operation =>
        rcases offers_bind offered with working | ⟨_,offered⟩
        · exact ⟨operation,working⟩
        rcases offers_bind offered with completing | ⟨_,offered⟩
        · exact (offers_within Unsent (within_complete _ _ _ _ _) completing).elim
        rcases offers_bind offered with recording | ⟨_,nothing⟩
        · exact (offers_within Unsent (within_record _ _) recording).elim
        · exact nothing.elim

theorem offers_intake {settings : Settings} {intake : Intake}
    (offered : Offers (ν := TableRow) (.outbox messageId) row (intake.admitOperation settings)) :
    ∃ operation prepared, intake.prepare operation = .ok (some prepared) ∧ messageId = prepared.commandId ∧
      row = Outbox.enqueuedRow intake.outboxId prepared.commandId prepared.subject prepared.payload
        (some intake.operationId) intake.now := by
  obtain ⟨operation,offered⟩ := offers_submission offered
  unfold Intake.work at offered
  split at offered
  · exact offered.elim
  rename_i made made_eq
  refine ⟨operation,?_⟩
  rcases offers_bind offered with sending | ⟨_,recording⟩
  · cases made with
    | none => exact sending.elim
    | some prepared =>
      rcases offers_bind sending with enqueued | ⟨_,nothing⟩
      · exact ⟨prepared,made_eq,offers_enqueue enqueued⟩
      · exact nothing.elim
  · cases site : intake.siteEdit with
    | none =>
      rw [site] at recording
      exact recording.elim
    | some edit =>
      rw [site] at recording
      exact (offers_within Unsent (within_insertNew Unsent _ trivial _) recording).elim

theorem sent_of_enqueued {own carried : MessageId} {outboxId : Nat} {subject : String} {document : Json}
    {operationId : Option OperationId} {now : Timestamp} (carries : Carries wire document carried)
    (enqueued : messageId = own ∧
      row = Outbox.enqueuedRow outboxId own subject (wire.text document) operationId now) :
    Sent wire messageId row own carried := by
  obtain ⟨rfl,rfl⟩ := enqueued
  exact ⟨rfl,rfl,document,rfl,carries⟩

end Offered

section Sources

variable {platform : Platform} {parsers : Parsers} {messageId : MessageId} {row : OutboxRow}

/-- The id of the outbox row. -/
def Source.own (platform : Platform) : Source → MessageId
  | .capture given => given.commandId
  | .fileWrite given => given.commandId
  | .build given => given.commandId
  | .digest given => given.commandId
  | .webhook signal => signal.commandId
  | .cancellation request _ => request.messageId
  | .occurrence scheduleId schedule _ _ => occurrenceId platform.publisher scheduleId (fromOffset schedule.nextDueAt)
  | .approval announcement => announcement.eventId

/-- The id that the envelope carries. Only `Command::envelope` draws one for itself. -/
def Source.carried (platform : Platform) : Source → MessageId
  | .cancellation _ drawn => drawn
  | .occurrence scheduleId schedule draws now =>
    if schedule.commandType = digestCommandType then Source.own platform (.occurrence scheduleId schedule draws now)
    else draws.commandId
  | source => source.own platform

/-- The path is neither a cancellation nor an occurrence of another schedule than a digest's, unless the two ids
that were drawn are the same. -/
def Source.Coherent (platform : Platform) : Source → Prop
  | .cancellation request drawn => drawn = request.messageId
  | .occurrence scheduleId schedule draws _ => schedule.commandType = digestCommandType ∨
      draws.commandId = occurrenceId platform.publisher scheduleId (fromOffset schedule.nextDueAt)
  | _ => True

theorem coherent_iff (source : Source) : source.Coherent platform ↔ source.carried platform = source.own platform := by
  cases source with
  | occurrence scheduleId schedule draws now =>
    simp only [Source.Coherent,Source.carried,Source.own]
    split
    · simp [*]
    · simp [*]
  | cancellation request drawn => exact Iff.rfl
  | _ => exact ⟨fun _ => rfl,fun _ => trivial⟩

theorem offers_onOperations {α β : Type} {body : Tx TableRow β α}
    (offered : Offers (ν := Scheduling.Row) (.inr (.outbox messageId)) row (onOperations body)) :
    Offers (ν := TableRow) (.outbox messageId) row body := offers_widen (offers_adapt.mp offered)

theorem capture_sends (reads : platform.wire.ReadBy parsers) {capture : Capture} (offered : Offers (ν := TableRow)
    (.outbox messageId) row ((capture.intake platform.settings (captures platform.wire platform.contract)).admitOperation
      platform.settings)) : Sent platform.wire messageId row capture.commandId capture.commandId := by
  obtain ⟨operation,prepared,made,rfl,rfl⟩ := offers_intake offered
  obtain ⟨captured,built,same⟩ := Operations.ok_of_map made
  obtain rfl := Option.some.inj same
  have own := (PublicApi.command_carries _ _ _ _ built).2.1
  exact sent_of_enqueued (capture_carries reads own) ⟨own,by rw [← own]; rfl⟩

/-- A typed command carries the id it is stored by. -/
theorem prepared_sends (reads : platform.wire.ReadBy parsers) {intake : Intake} {commandId : MessageId}
    (typed : ∀ operation row, intake.prepare operation = .ok (some row) → ∃ payload aggregateId correlationId user now,
      prepared platform.wire payload aggregateId correlationId commandId user now = .ok row)
    (offered : Offers (ν := TableRow) (.outbox messageId) row (intake.admitOperation platform.settings)) :
    Sent platform.wire messageId row commandId commandId := by
  obtain ⟨operation,row,made,rfl,rfl⟩ := offers_intake offered
  obtain ⟨payload,aggregateId,correlationId,user,now,same⟩ := typed operation row made
  unfold prepared at same
  split at same
  · cases same
  · split at same
    · cases same
    · obtain rfl := Except.ok.inj same
      exact sent_of_enqueued (command_carries reads _) ⟨rfl,rfl⟩

theorem digest_prepared {request : DigestRequest} {row : Prepared} (made : request.envelope platform.wire = .ok row) :
    ∃ payload aggregateId correlationId user now,
      prepared platform.wire payload aggregateId correlationId request.commandId user now = .ok row := by
  simp only [DigestRequest.envelope] at made
  split at made
  · cases made
  · exact ⟨_,_,_,_,_,made⟩

theorem webhook_sends (reads : platform.wire.ReadBy parsers) {signal : Ingest.Signal} (offered : Offers (ν := TableRow)
    (.outbox messageId) row (signal.accept platform.settings (captures platform.wire platform.contract))) :
    Sent platform.wire messageId row signal.commandId signal.commandId := by
  obtain ⟨operation,offered⟩ := offers_submission offered
  unfold Ingest.Signal.work at offered
  split at offered
  · exact offered.elim
  rename_i captured built
  have own : captured.commandId = signal.commandId := by
    unfold Ingest.Signal.envelope ContentCaptureCommand.envelope at built
    split at built
    · exact (congrArg CaptureEnvelope.commandId (Option.some.inj built)).symm
    · cases built
  rcases offers_bind offered with enqueued | ⟨_,nothing⟩
  · exact sent_of_enqueued (capture_carries reads own) (offers_enqueue enqueued)
  · exact nothing.elim

theorem cancellation_sends {request : CancelRequest} {drawn : MessageId} (offered : Offers (ν := TableRow)
    (.outbox messageId) row (request.cancel fun command => platform.wire.text (cancelDocument platform.wire drawn command))) :
    Sent platform.wire messageId row request.messageId drawn := by
  rcases offers_bind offered with marking | ⟨outcome,offered⟩
  · cases offers_within _ (Operations.within_requestCancellation request.operationId _ _) marking
  cases outcome with
  | requested recorded =>
    rcases offers_bind offered with enqueued | ⟨_,offered⟩
    · exact sent_of_enqueued (envelope_carries _) (offers_enqueue enqueued)
    · rcases offers_bind offered with recording | ⟨_,nothing⟩
      · exact (offers_within Unsent (within_record _ _) recording).elim
      · exact nothing.elim
  | _ => exact offered.elim

theorem approval_sends (reads : platform.wire.ReadBy parsers) {announcement : Sites.Announcement}
    (offered : Offers (ν := TableRow) (.outbox messageId) row (enqueueApproval platform.wire announcement)) :
    Sent platform.wire messageId row announcement.eventId announcement.eventId := by
  unfold enqueueApproval at offered
  split at offered
  · exact offered.elim
  · exact sent_of_enqueued (Or.inl (reads.event _)) (offers_enqueue offered)

/-- A document of an occurrence carries the occurrence where it is a digest's, and what its command has drawn else. -/
theorem occurrence_carries (reads : platform.wire.ReadBy parsers) {scheduleId : ScheduleId} {schedule : Schedule}
    {id : MessageId} {draws : Draws} {now : Timestamp} {message : Message}
    (made : Scheduling.envelope platform.publisher scheduleId schedule id draws now = .ok message) :
    Carries platform.wire (occurrenceDocument platform.wire message)
      (if schedule.commandType = digestCommandType then id else draws.commandId) := by
  unfold Scheduling.envelope at made
  split at made
  · rename_i digests
    obtain ⟨digest,built,rfl⟩ := Operations.ok_of_map made
    rw [if_pos digests]
    have own : digest.commandId = id := by
      simp only [digestOccurrence] at built
      repeat' split at built
      all_goals first
        | exact (congrArg DigestEnvelope.commandId (Except.ok.inj built)).symm
        | cases built
    subst own
    exact command_carries reads _
  · rename_i other
    obtain rfl := Except.ok.inj made
    rw [if_neg other]
    exact envelope_carries _

/-- No table of the operations. -/
abbrev Scheduled (key : SchedulingTable ⊕ Table) : Prop := key.isLeft = true

theorem occurrence_sends (reads : platform.wire.ReadBy parsers) {scheduleId : ScheduleId} {schedule : Schedule}
    {id : MessageId} {drift : Int} {draws : Draws} {now : Timestamp}
    (offered : Offers (ν := Scheduling.Row) (.inr (.outbox messageId)) row
      (publish platform.publisher scheduleId schedule id drift draws now)) :
    Sent platform.wire messageId row id (if schedule.commandType = digestCommandType then id else draws.commandId) := by
  unfold publish at offered
  split at offered
  · exact offered.elim
  rcases offers_bind offered with accepting | ⟨accepted,offered⟩
  · exact (offers_within Unsent (within_accept _ _ _ _ _ _ _) (offers_widen accepting)).elim
  cases accepted with
  | error => exact offered.elim
  | ok operation =>
    rcases offers_bind offered with recording | ⟨_,offered⟩
    · have within : Within Scheduled (insertOccurrence id (occurrenceRow scheduleId schedule drift draws.operationId now)) :=
        within_bind _ _ _ (within_insertNew Scheduled _ rfl _) fun _ => within_insertNew Scheduled _ rfl _
      cases offers_within Scheduled within recording
    · unfold enqueueOccurrence at offered
      split at offered
      · exact offered.elim
      · rename_i message made
        rcases offers_bind offered with enqueued | ⟨_,nothing⟩
        · exact sent_of_enqueued (occurrence_carries reads made) (offers_enqueue (offers_widen enqueued))
        · exact nothing.elim

/-- The handling of a schedule enqueues what publishing the row it found does. -/
theorem offers_handle {library : Library} {scheduleId : ScheduleId} {draws : Draws} {now : Timestamp}
    (offered : Offers (ν := Scheduling.Row) (.inr (.outbox messageId)) row (handle library scheduleId draws now)) :
    ∃ schedule, Offers (ν := Scheduling.Row) (.inr (.outbox messageId)) row (publish library scheduleId schedule
      (occurrenceId library scheduleId (fromOffset schedule.nextDueAt)) (driftSeconds schedule now) draws now) := by
  rcases offers_bind offered with claiming | ⟨found,offered⟩
  · cases offers_within Scheduled (within_selectForUpdate Scheduled _ rfl _) claiming
  cases found with
  | none => exact offered.elim
  | some schedule =>
    refine ⟨schedule,?_⟩
    rcases offers_bind offered with publishing | ⟨published,offered⟩
    · rcases offers_bind publishing with reading | ⟨known,offered⟩
      · have within : Within Scheduled (recorded (occurrenceId library scheduleId (fromOffset schedule.nextDueAt))) :=
          within_bind _ _ _ (within_select Scheduled _ rfl) fun _ => trivial
        cases offers_within Scheduled within reading
      · cases known with
        | true => exact offered.elim
        | false =>
          rcases offers_bind offered with once | ⟨_,nothing⟩
          · exact once
          · exact nothing.elim
    · unfold advance at offered
      split at offered
      · exact offered.elim
      · rename_i nextDueAt _
        rcases offers_bind offered with moving | ⟨_,nothing⟩
        · have within : Within Scheduled (reschedule scheduleId nextDueAt published.isSome now) :=
            within_bind _ _ _ (within_updateWhere Scheduled _ rfl _ _) fun _ => trivial
          cases offers_within Scheduled within moving
        · exact nothing.elim

/-- Some path through the statements of the source puts the row into the outbox. -/
def Source.Enqueues (platform : Platform) (source : Source) (row : OutboxRow) : Prop :=
  Offers (ν := Scheduling.Row) (.inr (.outbox row.messageId)) row (source.statements platform)

/-- What each path sends, and by which ids. -/
theorem source_sends (reads : platform.wire.ReadBy parsers) (source : Source)
    (offered : Offers (ν := Scheduling.Row) (.inr (.outbox messageId)) row (source.statements platform)) :
    Sent platform.wire messageId row (source.own platform) (source.carried platform) := by
  cases source with
  | capture given => exact capture_sends reads (offers_onOperations offered)
  | fileWrite given =>
    refine prepared_sends reads (fun _ _ made => ?_) (offers_onOperations offered)
    obtain ⟨_,built,same⟩ := Operations.ok_of_map made
    exact ⟨_,_,_,_,_,Option.some.inj same ▸ built⟩
  | build given =>
    refine prepared_sends reads (fun _ _ made => ?_) (offers_onOperations offered)
    obtain ⟨_,built,same⟩ := Operations.ok_of_map made
    exact ⟨_,_,_,_,_,Option.some.inj same ▸ built⟩
  | digest given =>
    refine prepared_sends reads (fun _ _ made => ?_) (offers_onOperations offered)
    obtain ⟨_,built,same⟩ := Operations.ok_of_map made
    exact digest_prepared (Option.some.inj same ▸ built)
  | webhook signal => exact webhook_sends reads (offers_onOperations offered)
  | cancellation request drawn => exact cancellation_sends (offers_onOperations offered)
  | occurrence scheduleId schedule draws now => exact occurrence_sends reads (offers_adapt.mp offered)
  | approval announcement => exact approval_sends reads (offers_onOperations offered)

theorem job_sends (job : Job) (offered : Offers (ν := Scheduling.Row) (.inr (.outbox messageId)) row (job.program platform)) :
    ∃ source, job.Takes source ∧ Offers (ν := Scheduling.Row) (.inr (.outbox messageId)) row (source.statements platform) := by
  cases job with
  | path source => exact ⟨source,rfl,offered⟩
  | schedule scheduleId draws now =>
    obtain ⟨schedule,published⟩ := offers_handle (offers_adapt.mp offered)
    exact ⟨.occurrence scheduleId schedule draws now,⟨schedule,rfl⟩,offers_adapt.mpr published⟩

end Sources

section Runs

variable {platform : Platform} {parsers : Parsers} {τ : Type} [DecidableEq τ]

/-- Every message that a run of the paths has put into the outbox was enqueued by one of them, and its two
identities are one exactly where that path is coherent. -/
theorem messages_identified (reads : platform.wire.ReadBy parsers) (job : τ → Job) {rows : Store Scheduling.Row}
    {pool : Pool Scheduling.Row Unit Unit τ}
    (reached : Pool.Reachable Scheduling.constraints (fun t => (job t).program platform) rows pool)
    {messageId : MessageId} {row : OutboxRow} (stored : pool.committed (.inr (.outbox messageId)) = some row)
    (new : rows (.inr (.outbox messageId)) = none) :
    row.messageId = messageId ∧ (∃ t source, (job t).Takes source ∧ source.Enqueues platform row) ∧
      ∀ source : Source, source.Enqueues platform row → (Keyed parsers row ↔ source.Coherent platform) := by
  rcases stored_offered reached stored with old | ⟨t,offered⟩
  · rw [new] at old
    cases old
  obtain ⟨source,takes,offered⟩ := job_sends (job t) offered
  have sent := source_sends reads source offered
  have own : row.messageId = messageId := sent.messageId.trans sent.key.symm
  subst own
  refine ⟨rfl,⟨t,source,takes,offered⟩,fun source enqueues => ?_⟩
  have sent := source_sends reads source enqueues
  obtain ⟨document,payload,carries⟩ := sent.payload
  rw [keyed_iff reads carries payload,coherent_iff,sent.messageId]

end Runs

section Drawn

/-- The identifiers of one cancellation: its operation, its user, its message and the command in its envelope. -/
def drawnIds : List (Nat × String) :=
  [(0x018f2f5e7b7a7c3e8a1b2c3d4e5f6071,"018f2f5e-7b7a-7c3e-8a1b-2c3d4e5f6071"),
    (0x018f2f5e7b7a7c3e8a1b2c3d4e5f6072,"018f2f5e-7b7a-7c3e-8a1b-2c3d4e5f6072"),
    (0x018f2f5e7b7a7c3e8a1b2c3d4e5f6073,"018f2f5e-7b7a-7c3e-8a1b-2c3d4e5f6073"),
    (0x018f2f5e7b7a7c3e8a1b2c3d4e5f6074,"018f2f5e-7b7a-7c3e-8a1b-2c3d4e5f6074")]

def idText (id : Nat) : String := (drawnIds.lookup id).getD (String.ofList (List.replicate id 'x'))

def idOf (text : String) : Nat := ((drawnIds.find? fun entry => entry.2 == text).map Prod.fst).getD text.length



theorem idOf_idText (id : Nat) : idOf (idText id) = id := by
  unfold idText
  cases known : drawnIds.lookup id with
  | some text =>
    have listed := List.lookup_eq_some_iff.mp known
    obtain ⟨front,back,same,_⟩ := listed
    have member : (id,text) ∈ drawnIds := by simp [same]
    have every : ∀ entry ∈ drawnIds, idOf entry.2 = entry.1 := by decide +kernel
    exact every _ member
  | none =>
    have unlisted : (drawnIds.find? fun entry => entry.2 == String.ofList (List.replicate id 'x')) = none := by
      have dashed : ∀ entry ∈ drawnIds, '0' ∈ entry.2.toList := by decide +kernel
      rw [List.find?_eq_none]
      intro entry member same
      have zero := dashed entry member
      rw [beq_iff_eq.mp same,String.toList_ofList] at zero
      exact absurd (List.eq_of_mem_replicate zero) (by decide)
    simp [idOf,unlisted]

/-- A text with its end marked. -/
def marked (text : String) : List Char := text.toList.flatMap (fun c => ['x',c]) ++ ['.']

def code (pairs : List (String × String)) : List Char := pairs.flatMap fun pair => marked pair.1 ++ marked pair.2

theorem marked_append {a b : String} {rest others : List Char} (same : marked a ++ rest = marked b ++ others) :
    a = b ∧ rest = others := by
  suffices ∀ s t : List Char, s.flatMap (fun c => ['x',c]) ++ ['.'] ++ rest = t.flatMap (fun c => ['x',c]) ++ ['.'] ++ others →
      s = t ∧ rest = others from (this a.toList b.toList same).imp_left String.toList_inj.mp
  intro s
  induction s with
  | nil =>
    intro t same
    cases t with
    | nil => exact ⟨rfl,by simpa using same⟩
    | cons c t => simp at same
  | cons c s ih =>
    intro t same
    cases t with
    | nil => simp at same
    | cons d t =>
      simp only [List.flatMap_cons,List.cons_append,List.nil_append,List.cons.injEq,true_and] at same
      obtain ⟨rfl,same⟩ := same
      exact (ih t same).imp_left (congrArg (c :: ·))

theorem code_injective : Function.Injective code := by
  intro a
  induction a with
  | nil =>
    intro b same
    cases b with
    | nil => rfl
    | cons pair b => simp [code,marked] at same
  | cons pair a ih =>
    intro b same
    cases b with
    | nil => simp [code,marked] at same
    | cons other b =>
      simp only [code,List.flatMap_cons,List.append_assoc] at same
      obtain ⟨names,same⟩ := marked_append same
      obtain ⟨values,same⟩ := marked_append same
      rw [Prod.ext names values,ih same]

/-- The members of a document that are texts. -/
def texts : List (String × Json) → List (String × String)
  | [] => []
  | (name,.string value) :: members => (name,value) :: texts members
  | _ :: members => texts members

def ofTexts (pairs : List (String × String)) : List (String × Json) := pairs.map fun pair => (pair.1,.string pair.2)

theorem reads_texts (members : List (String × Json)) : Reads (.object members) (.object (ofTexts (texts members))) := by
  intro name
  induction members with
  | nil => exact ⟨fun _ => rfl,fun _ same => nomatch same⟩
  | cons entry members ih =>
    obtain ⟨other,document⟩ := entry
    by_cases own : name = other
    · subst own
      cases document <;> simp [Json.get,texts,ofTexts]
    · have differ : (name == other) = false := beq_false_of_ne own
      have skipped : (Json.object ((other,document) :: members)).get name = (Json.object members).get name := by
        simp [Json.get,List.lookup_cons,differ]
      rw [skipped]
      cases document with
      | string value => simpa only [Json.get,texts,ofTexts,List.map_cons,List.lookup_cons,differ] using ih
      | _ => exact ih

/-- The cancellation as it is sent. -/
def sampleTexts : List (String × String) :=
  [("command_id",idText 0x018f2f5e7b7a7c3e8a1b2c3d4e5f6074),("command_type",cancelCommandType),
    ("requested_at","1970-01-01T00:00:00.001Z"),("operation_id",idText 0x018f2f5e7b7a7c3e8a1b2c3d4e5f6071),
    ("tenant_id","user:" ++ idText 0x018f2f5e7b7a7c3e8a1b2c3d4e5f6072),("correlation_id","correlation:1"),
    ("idempotency_key",idText 0x018f2f5e7b7a7c3e8a1b2c3d4e5f6071)]

def samplePayload : List (String × String) := [("requested_at","1970-01-01T00:00:00.001Z")]

def sampleDocument : Json := .object (ofTexts sampleTexts ++ [("payload",.object (ofTexts samplePayload))])

def sampleText : String :=
  "\x7b\"payload\": \x7b\"requested_at\": \"1970-01-01T00:00:00.001Z\"\x7d, \"tenant_id\": \"user:018f2f5e-7b7a-7c3e-8a1b-2c3d4e5f6072\", \"command_id\": \"018f2f5e-7b7a-7c3e-8a1b-2c3d4e5f6074\", \"command_type\": \"platform.operation.cancel_requested.v1\", \"operation_id\": \"018f2f5e-7b7a-7c3e-8a1b-2c3d4e5f6071\", \"requested_at\": \"1970-01-01T00:00:00.001Z\", \"correlation_id\": \"correlation:1\", \"idempotency_key\": \"018f2f5e-7b7a-7c3e-8a1b-2c3d4e5f6071\"\x7d"

/-- The members, when all of them are texts. -/
def allTexts : List (String × Json) → Option (List (String × String))
  | [] => some []
  | (name,.string value) :: members => (allTexts members).map ((name,value) :: ·)
  | _ :: _ => none

theorem of_allTexts {members : List (String × Json)} {pairs : List (String × String)} (all : allTexts members = some pairs) :
    members = ofTexts pairs := by
  induction members generalizing pairs with
  | nil => exact Option.some.inj all ▸ rfl
  | cons entry members ih =>
    obtain ⟨name,document⟩ := entry
    cases document with
    | string value =>
      obtain ⟨rest,found,rfl⟩ := Option.map_eq_some_iff.mp all
      rw [ih found]
      rfl
    | _ => cases all

def isSample : Json → Bool
  | .object members =>
    match members.reverse with
    | (name,.object inner) :: rest =>
      name == "payload" && allTexts inner == some samplePayload && allTexts rest.reverse == some sampleTexts
    | _ => false
  | _ => false

theorem eq_sample {document : Json} (same : isSample document = true) : document = sampleDocument := by
  unfold isSample at same
  split at same
  · rename_i members
    split at same
    · rename_i name inner rest shape
      simp only [Bool.and_eq_true,beq_iff_eq] at same
      obtain ⟨⟨rfl,payload⟩,front⟩ := same
      have whole : members = rest.reverse ++ [("payload",.object inner)] := by
        rw [← List.reverse_reverse members,shape,List.reverse_cons]
      rw [whole,of_allTexts payload,of_allTexts front]
      rfl
    · cases same
  · cases same

def membersOf : Json → List (String × Json)
  | .object members => members
  | _ => []

theorem get_eq (document : Json) (name : String) : document.get name = (Json.object (membersOf document)).get name := by
  cases document <;> rfl

def sampleWireText (document : Json) : String :=
  if isSample document then sampleText else String.ofList (code (texts (membersOf document)))

open Classical in
/-- What a consumer reads: the cancellation, and of any other document its texts. -/
noncomputable def sampleParsers : Parsers where
  fromSlice bytes :=
    if bytes = sampleText.toUTF8.toList then some sampleDocument
    else if coded : ∃ pairs, (String.ofList (code pairs)).toUTF8.toList = bytes then some (.object (ofTexts coded.choose))
    else none
  uuid text := some (idOf text)

theorem code_ne_sample (pairs : List (String × String)) : (String.ofList (code pairs)).toUTF8.toList ≠ sampleText.toUTF8.toList := by
  intro same
  have texts := congrArg String.toList (Text.bytes_injective same)
  rw [String.toList_ofList] at texts
  have first : sampleText.toList.head? = some '\x7b' := by decide +kernel
  rw [← texts] at first
  cases pairs with
  | nil => cases first
  | cons pair pairs => cases name : pair.1.toList <;> simp [code,marked,name] at first

theorem sample_reads (document : Json) :
    ∃ read, sampleParsers.fromSlice (sampleWireText document).toUTF8.toList = some read ∧ Reads document read := by
  by_cases same : isSample document = true
  · refine ⟨sampleDocument,?_,?_⟩
    · rw [sampleWireText,if_pos same]
      exact if_pos rfl
    · rw [eq_sample same]
      exact fun name => ⟨id,fun _ => id⟩
  · have coded : ∃ pairs, (String.ofList (code pairs)).toUTF8.toList =
        (String.ofList (code (texts (membersOf document)))).toUTF8.toList := ⟨_,rfl⟩
    have own : coded.choose = texts (membersOf document) := by
      have texts := congrArg String.toList (Text.bytes_injective coded.choose_spec)
      rw [String.toList_ofList,String.toList_ofList] at texts
      exact code_injective texts
    refine ⟨.object (ofTexts coded.choose),?_,fun name => ?_⟩
    · rw [sampleWireText,if_neg same]
      exact (if_neg (code_ne_sample _)).trans (dif_pos coded)
    · rw [own,get_eq document]
      exact reads_texts _ name

def contractEnvelope (identity : String) (id : MessageId) (payload : Members) : Json :=
  .object [(identity,.string (idText id)),("payload",.object payload)]

def sampleWire : Wire where
  text := sampleWireText
  uuid := idText
  instant t := if t = 1000000 then "1970-01-01T00:00:00.001Z" else toString t
  command envelope := contractEnvelope "command_id" envelope.commandId envelope.payload
  event envelope := contractEnvelope "event_id" envelope.eventId envelope.payload
  isEntityRef _ := true
  validForPublish _ := true
  capture _ := ⟨"content.capture.requested.v1",[]⟩
  fileWrite _ := ⟨"notes.file.write_requested.v1",[]⟩
  releaseBuild _ := ⟨"sites.release.build_requested.v1",[]⟩
  digest _ := ⟨"channel_digest.run.requested.v1",[]⟩
  occurrence _ := []
  approvalType := "platform.site_approval.changed.v1"
  approvalChanged _ := []

theorem sample_readBy : sampleWire.ReadBy sampleParsers where
  text := sample_reads
  uuid id := congrArg some (idOf_idText id)
  command _ := ⟨rfl,rfl⟩
  event _ := rfl

def samplePlatform : Platform := ⟨Idempotency.reuseSettings,Idempotency.plainContract,minutelyLibrary,sampleWire⟩

/-- The message has one id, and the envelope draws the next. -/
def sampleCancel : Job := .path (.cancellation
  ⟨0x018f2f5e7b7a7c3e8a1b2c3d4e5f6071,0x018f2f5e7b7a7c3e8a1b2c3d4e5f6072,1,1000000,1,
    0x018f2f5e7b7a7c3e8a1b2c3d4e5f6073,1⟩ 0x018f2f5e7b7a7c3e8a1b2c3d4e5f6074)

def sampleRows : Store Scheduling.Row := Function.update (fun _ => none)
  (.inr (.operation 0x018f2f5e7b7a7c3e8a1b2c3d4e5f6071)) (some { acceptedRecord with
    operation := { acceptedRecord.operation with ownerUserId := 0x018f2f5e7b7a7c3e8a1b2c3d4e5f6072 } })

def sampleActions : List (Transaction.Action Unit) := [.start ()] ++ List.replicate 6 (.advance ())

def cancelled : Option (Pool Scheduling.Row Unit Unit Unit) :=
  StateMachine.run (Pool.step Scheduling.constraints fun _ => sampleCancel.program samplePlatform)
    (Pool.initial sampleRows) sampleActions

/-- The row of the cancellation. -/
def cancelledRow : OutboxRow :=
  Outbox.enqueuedRow 1 0x018f2f5e7b7a7c3e8a1b2c3d4e5f6073 cancelSubject sampleText
    (some 0x018f2f5e7b7a7c3e8a1b2c3d4e5f6071) 1000000

theorem cancelled_stores : (cancelled.bind fun pool : Pool Scheduling.Row Unit Unit Unit =>
    (pool.committed (.inr (.outbox 0x018f2f5e7b7a7c3e8a1b2c3d4e5f6073)) : Option OutboxRow)) = some cancelledRow := by
  decide +kernel

/-- The cancellation is stored under one id and carries the next. -/
theorem cancellation_named_twice : ∃ (pool : Pool Scheduling.Row Unit Unit Unit) (row : OutboxRow),
    sampleWire.ReadBy sampleParsers ∧
    Pool.Reachable Scheduling.constraints (fun _ : Unit => sampleCancel.program samplePlatform) sampleRows pool ∧
    pool.committed (.inr (.outbox 0x018f2f5e7b7a7c3e8a1b2c3d4e5f6073)) = some row ∧ ¬Keyed sampleParsers row := by
  obtain ⟨pool,ran,stored⟩ := Option.bind_eq_some_iff.mp cancelled_stores
  refine ⟨pool,cancelledRow,sample_readBy,⟨sampleActions,ran⟩,stored,fun keyed => ?_⟩
  have carries : Carries sampleWire sampleDocument 0x018f2f5e7b7a7c3e8a1b2c3d4e5f6074 := Or.inr ⟨rfl,rfl⟩
  have written : cancelledRow.payload = sampleWire.text sampleDocument := by decide +kernel
  exact absurd ((keyed_iff sample_readBy carries written).mp keyed) (by decide)

theorem messages_identified_of_cancellation : ∃ (pool : Pool Scheduling.Row Unit Unit Unit) (row : OutboxRow),
    pool.committed (.inr (.outbox 0x018f2f5e7b7a7c3e8a1b2c3d4e5f6073)) = some row ∧
    row.messageId = 0x018f2f5e7b7a7c3e8a1b2c3d4e5f6073 ∧
    (∃ (_ : Unit) (source : Source), sampleCancel.Takes source ∧ source.Enqueues samplePlatform row) ∧
    ∀ source : Source, source.Enqueues samplePlatform row →
      (Keyed sampleParsers row ↔ source.Coherent samplePlatform) := by
  obtain ⟨pool,ran,stored⟩ := Option.bind_eq_some_iff.mp cancelled_stores
  exact ⟨pool,cancelledRow,stored,messages_identified sample_readBy (fun _ => sampleCancel)
    ⟨sampleActions,ran⟩ stored rfl⟩

end Drawn

end Ratatoskr.Messages
