import Ratatoskr.Eventing.Pump

/-! No committed message is lost: what holds of the outbox in every state the relay reaches. -/
set_option linter.unusedSectionVars false

namespace Ratatoskr.Eventing

/-- The columns that no statement changes. -/
def OutboxRow.content (row : OutboxRow) : Nat × MessageId × String × String × Option OperationId × Int :=
  (row.outboxId,row.messageId,row.subject,row.payload,row.operationId,row.enqueuedAt)

theorem outboxId_of_content {row other : OutboxRow} (same : row.content = other.content) :
    row.outboxId = other.outboxId := congrArg Prod.fst same

theorem messageId_of_content {row other : OutboxRow} (same : row.content = other.content) :
    row.messageId = other.messageId := congrArg (fun content => content.2.1) same

theorem enqueuedAt_of_content {row other : OutboxRow} (same : row.content = other.content) :
    row.enqueuedAt = other.enqueuedAt := congrArg (fun content => content.2.2.2.2.2) same

theorem map_outboxId (rows : List OutboxRow) :
    rows.map OutboxRow.outboxId = (rows.map OutboxRow.content).map Prod.fst := by
  rw [List.map_map]
  rfl

theorem map_messageId (rows : List OutboxRow) :
    rows.map OutboxRow.messageId = (rows.map OutboxRow.content).map fun content => content.2.1 := by
  rw [List.map_map]
  rfl

/-- The bus has acknowledged the message of this row. -/
def Acked (sent : List Publication) (outboxId : Nat) : Prop :=
  ∃ publication ∈ sent, publication.outboxId = outboxId ∧ publication.acknowledged = true

theorem Acked.append {sent : List Publication} {outboxId : Nat} (acked : Acked sent outboxId)
    (more : List Publication) : Acked (sent ++ more) outboxId := by
  obtain ⟨publication,member,both⟩ := acked
  exact ⟨publication,List.mem_append_left _ member,both⟩

/-- What holds of every committed row, by itself and against what the bus has received. -/
structure RowSound (sent : List Publication) (row : OutboxRow) : Prop where
  checks : row.checks = true
  dead : row.deadLetteredAt.isSome = true ↔ maxAttempts ≤ row.attempts
  acked : row.publishedAt.isSome = true → Acked sent row.outboxId
  due : row.enqueuedAt ≤ row.nextAttemptAt

theorem RowSound.append {sent : List Publication} {row : OutboxRow} (sound : RowSound sent row)
    (more : List Publication) : RowSound (sent ++ more) row :=
  ⟨sound.checks,sound.dead,fun published => (sound.acked published).append more,sound.due⟩

/-- What a pass remembers of its messages is what was committed. -/
structure PassSound (journal : List OutboxRow) (sent : List Publication) (pass : Pass) : Prop where
  known : ∀ message ∈ pass.claimed, ∃ entry ∈ journal, entry.outboxId = message.outboxId ∧
    entry.messageId = message.messageId ∧ entry.enqueuedAt ≤ toOffset pass.now
  answered : ∀ message rest, pass.claimed = message :: rest → pass.answer = some .acknowledged →
    Acked sent message.outboxId

theorem PassSound.receive {journal : List OutboxRow} {sent : List Publication} {pass : Pass}
    (sound : PassSound journal sent pass) (more : List Publication) : PassSound journal (sent ++ more) pass :=
  ⟨sound.known,fun message rest first acknowledged => (sound.answered message rest first acknowledged).append more⟩

theorem PassSound.commit {journal : List OutboxRow} {sent : List Publication} {pass : Pass}
    (sound : PassSound journal sent pass) (more : List OutboxRow) : PassSound (journal ++ more) sent pass := by
  refine ⟨fun message member => ?_,sound.answered⟩
  obtain ⟨entry,stored,both⟩ := sound.known message member
  exact ⟨entry,List.mem_append_left _ stored,both⟩

namespace Relay

variable {κ τ : Type} [DecidableEq κ] [DecidableEq τ]

structure Sound (s : Relay κ τ) : Prop where
  content : (s.rows.map OutboxRow.content).Sublist (s.journal.map OutboxRow.content)
  ids : ((s.journal ++ s.drafts.map Prod.snd).map OutboxRow.outboxId).Nodup
  below : ∀ row ∈ s.journal ++ s.drafts.map Prod.snd, row.outboxId < s.nextId
  messages : ((s.rows ++ s.drafts.map Prod.snd).map OutboxRow.messageId).Nodup
  drafts : ∀ draft ∈ s.drafts, draft.2.checks = true ∧ draft.2.attempts = 0 ∧ draft.2.publishedAt = none ∧
    draft.2.deadLetteredAt = none ∧ draft.2.nextAttemptAt = draft.2.enqueuedAt
  rows : ∀ row ∈ s.rows, RowSound s.sent row
  passes : ∀ process pass, s.passes process = some pass → PassSound s.journal s.sent pass
  sent : ∀ publication ∈ s.sent, ∃ entry ∈ s.journal, entry.outboxId = publication.outboxId ∧
    entry.messageId = publication.messageId
  kept : ∀ entry ∈ s.journal, (∃ row ∈ s.rows, row.content = entry.content) ∨ Acked s.sent entry.outboxId

theorem initial_sound : Sound (initial : Relay κ τ) :=
  ⟨List.Sublist.refl _,List.nodup_nil,List.forall_mem_nil _,List.nodup_nil,List.forall_mem_nil _,List.forall_mem_nil _,
    fun _ _ none_ => (by cases none_),List.forall_mem_nil _,List.forall_mem_nil _⟩

namespace Sound

variable {s : Relay κ τ} (sound : Sound s)

include sound

theorem journal_ids : (s.journal.map OutboxRow.outboxId).Nodup := by
  have both := sound.ids
  rw [List.map_append] at both
  exact (List.nodup_append.mp both).1

theorem row_ids : (s.rows.map OutboxRow.outboxId).Nodup := by
  have sub := sound.content.map Prod.fst
  rw [← map_outboxId,← map_outboxId] at sub
  exact sub.nodup sound.journal_ids

/-- Every row is one that was committed. -/
theorem origin (row : OutboxRow) (stored : row ∈ s.rows) : ∃ entry ∈ s.journal, entry.content = row.content := by
  have member := sound.content.subset (List.mem_map_of_mem stored)
  exact List.mem_map.mp member

theorem entry_of_id (row entry : OutboxRow) (stored : row ∈ s.rows) (committed : entry ∈ s.journal)
    (same : entry.outboxId = row.outboxId) : entry.content = row.content := by
  obtain ⟨origin,member,content⟩ := sound.origin row stored
  obtain rfl : origin = entry := Rows.eq_of_key s.journal OutboxRow.outboxId sound.journal_ids member committed
    ((outboxId_of_content content).trans same.symm)
  exact content

/-- A statement that changes bookkeeping columns only keeps the accounts. -/
theorem updated {process : τ} {pass : Option Pass} {rows : List OutboxRow}
    (content : rows.map OutboxRow.content = s.rows.map OutboxRow.content)
    (each : ∀ row ∈ rows, RowSound s.sent row)
    (passes : ∀ running, pass = some running → PassSound s.journal s.sent running) :
    Sound ({ s with rows }.setPass process pass) := by
  have messages : rows.map OutboxRow.messageId = s.rows.map OutboxRow.messageId := by
    rw [map_messageId,content,← map_messageId]
  refine ⟨content ▸ sound.content,sound.ids,sound.below,?_,sound.drafts,each,fun other running found => ?_,sound.sent,
    fun entry committed => ?_⟩
  · have both := sound.messages
    rw [List.map_append] at both ⊢
    exact messages.symm ▸ both
  · by_cases own : other = process
    · subst own
      exact passes running ((setPass_self _ _ _).symm.trans found)
    · exact sound.passes other running ((setPass_other _ _ _ _ own).symm.trans found)
  · refine (sound.kept entry committed).imp_left fun ⟨row,stored,same⟩ => ?_
    have member : row.content ∈ rows.map OutboxRow.content := content ▸ List.mem_map_of_mem stored
    obtain ⟨later,there,carried⟩ := List.mem_map.mp member
    exact ⟨later,there,carried.trans same⟩

theorem setPass_none (process : τ) : Sound (s.setPass process none) :=
  sound.updated rfl sound.rows fun _ none_ => by cases none_

/-- Rows that a statement has changed in bookkeeping columns, each to a sound one. -/
theorem update_rows {matching : OutboxRow → Bool} {change : OutboxRow → OutboxRow} {rows : List OutboxRow}
    (updated : Rows.update OutboxRow.checks matching change s.rows = some rows)
    (each : ∀ row ∈ s.rows, matching row = true → (change row).checks = true → RowSound s.sent row →
      RowSound s.sent (change row)) : ∀ row ∈ rows, RowSound s.sent row := by
  intro row member
  obtain ⟨old,stored,rfl⟩ := (Rows.mem_update _ _ _ _ _ updated row).mp member
  have checked := ((Rows.update_eq_some _ _ _ _ _).mp updated).1 old stored
  split
  · rename_i matched
    exact each old stored matched (checked matched) (sound.rows old stored)
  · exact sound.rows old stored

theorem claimed {claimedBy : String} {limit : Nat} {locked : List Nat} {now : Timestamp} {rows : List OutboxRow}
    {messages : List ClaimedMessage} (taken : Outbox.claim s.rows claimedBy limit locked now = some (rows,messages))
    (process : τ) : Sound ({ s with rows }.setPass process (Pass.remaining claimedBy now messages)) := by
  obtain ⟨updated,same⟩ := (Outbox.claim_eq_some _ _ _ _ _ _ _).mp taken
  refine sound.updated (Rows.map_update _ _ _ _ _ updated OutboxRow.content fun _ => rfl)
    (sound.update_rows updated fun row _ _ checks old => ⟨checks,old.dead,old.acked,old.due⟩) fun running remaining => ?_
  have known : ∀ message ∈ messages, ∃ entry ∈ s.journal, entry.outboxId = message.outboxId ∧
      entry.messageId = message.messageId ∧ entry.enqueuedAt ≤ toOffset now := by
    intro message member
    rw [same] at member
    obtain ⟨row,selected,rfl⟩ := List.mem_map.mp member
    obtain ⟨stored,claimed⟩ := List.mem_filter.mp selected
    obtain ⟨other,there,sameId,free⟩ := Outbox.mem_due _ _ _ _ _ (by simpa using claimed)
    obtain rfl := Rows.eq_of_key s.rows OutboxRow.outboxId sound.row_ids there stored sameId
    obtain ⟨entry,committed,content⟩ := sound.origin other there
    refine ⟨entry,committed,outboxId_of_content content,messageId_of_content content,?_⟩
    have timely := (sound.rows other there).due
    simp only [Outbox.isDue,Bool.and_eq_true,decide_eq_true_eq] at free
    rw [enqueuedAt_of_content content]
    omega
  cases messages with
  | nil => cases remaining
  | cons message rest =>
    obtain rfl := Option.some.inj remaining
    exact ⟨known,fun _ _ _ none_ => by cases none_⟩

/-- A pass that has recorded its first message goes on with the rest. -/
theorem rest_sound {claimedBy : String} {now : Timestamp} {message : ClaimedMessage} {rest : List ClaimedMessage}
    {answer : Option Answer} (running : PassSound s.journal s.sent ⟨claimedBy,now,message :: rest,answer⟩) (pass : Pass)
    (remaining : Pass.remaining claimedBy now rest = some pass) : PassSound s.journal s.sent pass := by
  cases rest with
  | nil => cases remaining
  | cons following rest =>
    obtain rfl := Option.some.inj remaining
    exact ⟨fun other member => running.known other (List.mem_cons_of_mem _ member),fun _ _ _ none_ => by cases none_⟩

theorem marked {process : τ} {claimedBy : String} {now : Timestamp} {message : ClaimedMessage}
    {rest : List ClaimedMessage} {answer : Answer} {rows : List OutboxRow}
    (running : s.passes process = some ⟨claimedBy,now,message :: rest,some answer⟩)
    (recorded : record s.rows message.outboxId now answer = some rows) :
    Sound ({ s with rows }.setPass process (Pass.remaining claimedBy now rest)) := by
  have pass := sound.passes process _ running
  cases answer with
  | acknowledged =>
    refine sound.updated (Rows.map_update _ _ _ _ _ recorded OutboxRow.content fun _ => rfl)
      (sound.update_rows recorded fun row _ matched checks old => ⟨checks,old.dead,fun _ => ?_,old.due⟩)
      (sound.rest_sound pass)
    exact beq_iff_eq.mp matched ▸ pass.answered message rest rfl rfl
  | failed error =>
    refine sound.updated (Rows.map_update _ _ _ _ _ recorded OutboxRow.content fun _ => rfl)
      (sound.update_rows recorded fun row stored matched checks old => ⟨checks,?_,old.acked,?_⟩)
      (sound.rest_sound pass)
    · simp only [Outbox.failedRow]
      split
      · rename_i spent
        exact iff_of_true rfl spent
      · rename_i left
        exact iff_of_false (by simp) left
    · obtain ⟨entry,committed,sameId,_,timely⟩ := pass.known message List.mem_cons_self
      have content := sound.entry_of_id row entry stored committed (sameId.trans (beq_iff_eq.mp matched).symm)
      have bounds := (backoff_bounds row.attempts).1
      have timely : row.enqueuedAt ≤ toOffset now := enqueuedAt_of_content content ▸ timely
      simp only [Outbox.failedRow,seconds]
      omega

theorem published {process : τ} {claimedBy : String} {now : Timestamp} {message : ClaimedMessage}
    {rest : List ClaimedMessage} (running : s.passes process = some ⟨claimedBy,now,message :: rest,none⟩)
    (instant : Timestamp) (outcome : PublishOutcome) :
    Sound ((s.receive message instant outcome).setPass process (some ⟨claimedBy,now,message :: rest,some outcome.answer⟩)) := by
  have pass := sound.passes process _ running
  obtain ⟨entry,committed,sameId,sameMessage,_⟩ := pass.known message List.mem_cons_self
  have received : ∃ more, (s.receive message instant outcome) = { s with sent := s.sent ++ more } ∧
      (∀ publication ∈ more, publication.outboxId = message.outboxId ∧ publication.messageId = message.messageId) ∧
      (outcome = .acknowledged → Acked more message.outboxId) := by
    cases outcome with
    | acknowledged =>
      exact ⟨[⟨message.outboxId,message.messageId,instant,true⟩],rfl,by simp,fun _ => ⟨_,List.mem_cons_self,rfl,rfl⟩⟩
    | lost error =>
      exact ⟨[⟨message.outboxId,message.messageId,instant,false⟩],rfl,by simp,fun impossible => by cases impossible⟩
    | refused error => exact ⟨[],by simp [receive,PublishOutcome.reached],by simp,fun impossible => by cases impossible⟩
  obtain ⟨more,same,own,acked⟩ := received
  rw [same]
  refine ⟨sound.content,sound.ids,sound.below,sound.messages,sound.drafts,
    fun row stored => (sound.rows row stored).append more,fun other other_ found => ?_,fun publication member => ?_,
    fun entry committed => (sound.kept entry committed).imp_right fun acked => acked.append more⟩
  · by_cases mine : other = process
    · subst mine
      obtain rfl := Option.some.inj ((setPass_self _ _ _).symm.trans found)
      refine ⟨pass.known,fun first rest_ same_ answered => ?_⟩
      obtain ⟨rfl,rfl⟩ := List.cons.inj same_
      have acknowledged : outcome = .acknowledged := by
        cases outcome <;> simp [PublishOutcome.answer] at answered
        rfl
      obtain ⟨publication,member,both⟩ := acked acknowledged
      exact ⟨publication,List.mem_append_right _ member,both⟩
    · exact (sound.passes other other_ ((setPass_other _ _ _ _ mine).symm.trans found)).receive more
  · rcases List.mem_append.mp member with earlier | new
    · exact sound.sent publication earlier
    · obtain ⟨sameId',sameMessage'⟩ := own publication new
      exact ⟨entry,committed,sameId.trans sameId'.symm,sameMessage.trans sameMessage'.symm⟩

/-- Fewer open rows, and later ids. -/
theorem fewer (drafts : List (κ × OutboxRow)) (nextId : Nat) (sub : drafts.Sublist s.drafts) (more : s.nextId ≤ nextId) :
    Sound { s with drafts,nextId } := by
  have rows : (s.journal ++ drafts.map Prod.snd).Sublist (s.journal ++ s.drafts.map Prod.snd) :=
    (List.Sublist.refl _).append (sub.map _)
  refine ⟨sound.content,(rows.map _).nodup sound.ids,fun row member => ?_,?_,
    fun draft member => sound.drafts draft (sub.subset member),sound.rows,sound.passes,sound.sent,sound.kept⟩
  · exact (sound.below row (rows.subset member)).trans_le more
  · exact (((List.Sublist.refl _).append (sub.map _)).map _).nodup sound.messages

theorem drafted (transaction : κ) (messageId : MessageId) (subject payload : String) (operationId : Option OperationId)
    (now : Timestamp) (row : OutboxRow)
    (offered : row = Outbox.enqueuedRow s.nextId messageId subject payload operationId now) (checks : row.checks = true)
    (free : ∀ other ∈ s.rows ++ s.drafts.map Prod.snd, other.messageId ≠ messageId) :
    Sound { s with nextId := s.nextId + 1,drafts := s.drafts ++ [(transaction,row)] } := by
  have named : row.outboxId = s.nextId ∧ row.messageId = messageId := by subst offered; exact ⟨rfl,rfl⟩
  refine ⟨sound.content,?_,?_,?_,?_,sound.rows,sound.passes,sound.sent,sound.kept⟩
  · simp only [List.map_append,List.map_cons,List.map_nil,← List.append_assoc]
    refine List.nodup_append.mpr ⟨by simpa using sound.ids,List.nodup_singleton _,?_⟩
    rintro id known other single rfl
    rw [← List.map_append] at known
    obtain ⟨stored,member,same⟩ := List.mem_map.mp known
    have below := sound.below stored member
    have new : id = s.nextId := (List.mem_singleton.mp single).trans named.1
    omega
  · intro stored member
    simp only [List.map_append,List.map_cons,List.map_nil,← List.append_assoc] at member
    rcases List.mem_append.mp member with earlier | new
    · exact (sound.below stored earlier).trans (Nat.lt_succ_self _)
    · rw [List.mem_singleton.mp new,named.1]
      exact Nat.lt_succ_self _
  · simp only [List.map_append,List.map_cons,List.map_nil,← List.append_assoc]
    refine List.nodup_append.mpr ⟨by simpa using sound.messages,List.nodup_singleton _,?_⟩
    rintro id known other single rfl
    rw [← List.map_append] at known
    obtain ⟨stored,member,same⟩ := List.mem_map.mp known
    exact free stored member (same.trans ((List.mem_singleton.mp single).trans named.2))
  · intro draft member
    rcases List.mem_append.mp member with earlier | new
    · exact sound.drafts draft earlier
    · rw [List.mem_singleton.mp new]
      subst offered
      exact ⟨checks,rfl,rfl,rfl,rfl⟩

theorem committed (transaction : κ) : Sound (s.commit transaction) := by
  have parted : ((s.drafts.filter fun draft => draft.1 = transaction).map Prod.snd ++
      (s.drafts.filter fun draft => draft.1 ≠ transaction).map Prod.snd).Perm (s.drafts.map Prod.snd) := by
    rw [← List.map_append]
    have split_ := List.filter_append_perm (fun draft : κ × OutboxRow => decide (draft.1 = transaction)) s.drafts
    simp only [← decide_not] at split_
    exact split_.map Prod.snd
  have whole (before : List OutboxRow) :
      (before ++ (s.drafts.filter fun draft => draft.1 = transaction).map Prod.snd ++
        (s.drafts.filter fun draft => draft.1 ≠ transaction).map Prod.snd).Perm (before ++ s.drafts.map Prod.snd) := by
    rw [List.append_assoc]
    exact parted.append_left before
  have written : ∀ row ∈ (s.drafts.filter fun draft => draft.1 = transaction).map Prod.snd,
      ∃ draft ∈ s.drafts, draft.2 = row := by
    intro row member
    obtain ⟨draft,chosen,same⟩ := List.mem_map.mp member
    exact ⟨draft,(List.mem_filter.mp chosen).1,same⟩
  refine ⟨?_,((whole s.journal).map _).nodup_iff.mpr sound.ids,fun row member => sound.below row ((whole s.journal).mem_iff.mp member),
    ((whole s.rows).map _).nodup_iff.mpr sound.messages,fun draft member => sound.drafts draft (List.mem_filter.mp member).1,
    fun row stored => ?_,fun process pass found => (sound.passes process pass found).commit _,fun publication member => ?_,
    fun entry member => ?_⟩
  · simp only [commit,List.map_append]
    exact sound.content.append (List.Sublist.refl _)
  · rcases List.mem_append.mp stored with earlier | new
    · exact sound.rows row earlier
    · obtain ⟨draft,member,rfl⟩ := written row new
      obtain ⟨checks,attempts,unpublished,alive,due⟩ := sound.drafts draft member
      refine ⟨checks,?_,?_,due.ge⟩
      · rw [alive,attempts]
        decide
      · rw [unpublished]
        exact fun none_ => by cases none_
  · obtain ⟨entry,stored,both⟩ := sound.sent publication member
    exact ⟨entry,List.mem_append_left _ stored,both⟩
  · rcases List.mem_append.mp member with earlier | new
    · exact (sound.kept entry earlier).imp_left fun ⟨row,stored,same⟩ => ⟨row,List.mem_append_left _ stored,same⟩
    · exact Or.inl ⟨entry,List.mem_append_right _ new,rfl⟩

theorem collected (before : Timestamp) (limit : Nat) (chosen : List Nat) :
    Sound { s with rows := Outbox.collectPublished s.rows before limit chosen } := by
  have sub : (Outbox.collectPublished s.rows before limit chosen).Sublist s.rows := List.filter_sublist
  refine ⟨(sub.map _).trans sound.content,sound.ids,sound.below,?_,sound.drafts,
    fun row stored => sound.rows row (sub.subset stored),sound.passes,sound.sent,fun entry committed => ?_⟩
  · exact ((sub.append (List.Sublist.refl _)).map _).nodup sound.messages
  · rcases sound.kept entry committed with ⟨row,stored,same⟩ | acked
    · rcases Outbox.mem_collectPublished s.rows before limit chosen sound.row_ids row stored with left | published
      · exact Or.inl ⟨row,left,same⟩
      · exact Or.inr (outboxId_of_content same ▸ (sound.rows row stored).acked published)
    · exact Or.inr acked

theorem step (action : RelayAction κ τ) (next : Relay κ τ) (stepped : Relay.step s action = some next) : Sound next := by
  cases step_cases s next action stepped with
  | refusedRow | rolledBack => exact sound.fewer _ _ List.filter_sublist (by simp)
  | conflict => exact sound.fewer _ _ (List.Sublist.refl _) (Nat.le_succ _)
  | drafted transaction messageId subject payload operationId now row offered checks free =>
    exact sound.drafted transaction messageId subject payload operationId now row offered checks free
  | committed transaction => exact sound.committed transaction
  | refusedClaim => exact sound
  | claimed process claimedBy limit locked now rows messages idle taken => exact sound.claimed taken process
  | published process instant outcome claimedBy now message rest running => exact sound.published running instant outcome
  | refusedMark process | crashed process => exact sound.setPass_none process
  | marked process claimedBy now message rest answer rows running recorded => exact sound.marked running recorded
  | collected before limit chosen => exact sound.collected before limit chosen

end Sound

theorem Reachable.sound {s : Relay κ τ} (reached : Reachable s) : Sound s := by
  obtain ⟨actions,ran⟩ := reached
  exact StateMachine.run_invariant step Sound (fun _ action next sound stepped => sound.step action next stepped)
    initial actions s initial_sound ran

end Relay

/-- The three states a committed row can be in. -/
structure Published (sent : List Publication) (row : OutboxRow) : Prop where
  marked : row.publishedAt.isSome = true
  acked : Acked sent row.outboxId

structure DeadLettered (row : OutboxRow) : Prop where
  marked : row.deadLetteredAt.isSome = true
  spent : maxAttempts ≤ row.attempts

structure Claimable (row : OutboxRow) : Prop where
  unspent : row.attempts < maxAttempts
  due : ∃ instant, ∀ now, instant ≤ now → Outbox.isDue now row = true

theorem not_due_of_settled (row : OutboxRow) (settled : row.publishedAt.isSome = true ∨ row.deadLetteredAt.isSome = true) :
    ¬Claimable row := by
  rintro ⟨_,instant,due⟩
  have free := due instant le_rfl
  simp only [Outbox.isDue,Bool.and_eq_true,Option.isNone_iff_eq_none] at free
  rcases settled with published | dead
  · simp [free.1.1.1] at published
  · simp [free.1.1.2] at dead

theorem claimable_of_unsettled (row : OutboxRow) (unspent : row.attempts < maxAttempts)
    (unpublished : row.publishedAt = none) (alive : row.deadLetteredAt = none) : Claimable row := by
  refine ⟨unspent,max row.nextAttemptAt (row.claimedUntil.getD row.nextAttemptAt),fun now late => ?_⟩
  simp only [Outbox.isDue,unpublished,alive,Option.isNone_none,Bool.true_and,Bool.and_eq_true,decide_eq_true_eq]
  refine ⟨(le_max_left _ _).trans late,?_⟩
  cases lapse : row.claimedUntil with
  | none => rfl
  | some until_ => simpa [lapse] using (le_max_right _ _).trans late

theorem claimedRow_checks (row : OutboxRow) (claimedBy : String) (now : Timestamp) (checks : row.checks = true)
    (named : lengthBetween 1 120 claimedBy = true) : (Outbox.claimedRow claimedBy now row).checks = true := by
  simp only [OutboxRow.checks,Bool.and_eq_true] at checks
  obtain ⟨⟨⟨⟨⟨⟨subject,_⟩,_⟩,error⟩,single⟩,later⟩,fits⟩ := checks
  simp only [OutboxRow.checks,Outbox.claimedRow,Bool.and_eq_true]
  exact ⟨⟨⟨⟨⟨⟨subject,rfl⟩,by simpa using named⟩,error⟩,single⟩,later⟩,fits⟩

namespace Relay

variable {κ τ : Type} [DecidableEq κ] [DecidableEq τ]

/-- The accounts of the outbox in one state. -/
structure Conserved (s : Relay κ τ) : Prop where
  /-- Only committed messages reach the bus. -/
  committed : ∀ publication ∈ s.sent, ∃ entry ∈ s.journal, entry.outboxId = publication.outboxId ∧
    entry.messageId = publication.messageId
  /-- What was committed is still there, or has been acknowledged and collected. -/
  accounted : ∀ entry ∈ s.journal, (∃ row ∈ s.rows, row.content = entry.content) ∨ Acked s.sent entry.outboxId
  state : ∀ row ∈ s.rows,
    Published s.sent row ∧ ¬DeadLettered row ∧ ¬Claimable row ∨
    ¬Published s.sent row ∧ DeadLettered row ∧ ¬Claimable row ∨
    ¬Published s.sent row ∧ ¬DeadLettered row ∧ Claimable row
  /-- A pass with room takes every due row. -/
  taken : ∀ row ∈ s.rows, ∀ now, Outbox.isDue (toOffset now) row = true → ∀ process, s.passes process = none →
    ∀ claimedBy, lengthBetween 1 120 claimedBy = true → ∀ limit, s.rows.length ≤ limit →
      ∃ next pass, step s (.claim process claimedBy limit [] now) = some next ∧ next.passes process = some pass ∧
        ∃ message ∈ pass.claimed, message.outboxId = row.outboxId
  single : (s.rows.map OutboxRow.messageId).Nodup
  again : ∀ row ∈ s.rows, ∀ transaction subject payload operationId now next,
    step s (.enqueue transaction row.messageId subject payload operationId now) = some next →
      next.rows = s.rows ∧ next.drafts ⊆ s.drafts

/-- What a step does to a row that stays: nothing to its retries, or one more failure, whose delay
is within the bounds and which settles the row exactly when it is the last one. -/
structure Retried (s : Relay κ τ) (action : RelayAction κ τ) (next : Relay κ τ) : Prop where
  each : ∀ row ∈ s.rows, ∀ later ∈ next.rows, later.outboxId = row.outboxId →
    later.attempts = row.attempts ∧ later.nextAttemptAt = row.nextAttemptAt ∧
      later.deadLetteredAt = row.deadLetteredAt ∨
    ∃ process pass message rest error, action = .mark process ∧ s.passes process = some pass ∧
      pass.claimed = message :: rest ∧ pass.answer = some (.failed error) ∧ message.outboxId = row.outboxId ∧
      later.attempts = row.attempts + 1 ∧
      toOffset pass.now + seconds 1 ≤ later.nextAttemptAt ∧
      later.nextAttemptAt ≤ toOffset pass.now + seconds maxBackoffSeconds ∧
      (row.deadLetteredAt = none → (later.deadLetteredAt.isSome = true ↔ later.attempts = maxAttempts))

section Accounts

variable {s : Relay κ τ} (sound : Sound s)

include sound

theorem Sound.state (row : OutboxRow) (stored : row ∈ s.rows) :
    Published s.sent row ∧ ¬DeadLettered row ∧ ¬Claimable row ∨
    ¬Published s.sent row ∧ DeadLettered row ∧ ¬Claimable row ∨
    ¬Published s.sent row ∧ ¬DeadLettered row ∧ Claimable row := by
  obtain ⟨checks,dead,acked,_⟩ := sound.rows row stored
  have exclusive : row.publishedAt = none ∨ row.deadLetteredAt = none := by
    simp only [OutboxRow.checks,Bool.and_eq_true,Bool.or_eq_true,Option.isNone_iff_eq_none] at checks
    exact checks.1.1.2
  by_cases published : row.publishedAt.isSome = true
  · have alive : row.deadLetteredAt = none := exclusive.resolve_left fun none_ => by simp [none_] at published
    exact Or.inl ⟨⟨published,acked published⟩,fun both => by have marked := both.marked; simp [alive] at marked,
      not_due_of_settled row (Or.inl published)⟩
  · by_cases ended : row.deadLetteredAt.isSome = true
    · exact Or.inr (Or.inl ⟨fun both => published both.marked,⟨ended,dead.mp ended⟩,not_due_of_settled row (Or.inr ended)⟩)
    · refine Or.inr (Or.inr ⟨fun both => published both.marked,fun both => ended both.marked,?_⟩)
      exact claimable_of_unsettled row (not_le.mp fun spent => ended (dead.mpr spent)) (by simpa using published)
        (by simpa using ended)

theorem Sound.taken (row : OutboxRow) (stored : row ∈ s.rows) (now : Timestamp)
    (free : Outbox.isDue (toOffset now) row = true) (process : τ) (idle : s.passes process = none) (claimedBy : String)
    (named : lengthBetween 1 120 claimedBy = true) (limit : Nat) (room : s.rows.length ≤ limit) :
    ∃ next pass, Relay.step s (.claim process claimedBy limit [] now) = some next ∧ next.passes process = some pass ∧
      ∃ message ∈ pass.claimed, message.outboxId = row.outboxId := by
  have chosen := Outbox.due_complete s.rows limit room (toOffset now) row stored free
  have admitted := (Rows.update_eq_some OutboxRow.checks
    (fun row => (Outbox.due s.rows limit [] (toOffset now)).contains row.outboxId) (Outbox.claimedRow claimedBy now) s.rows _).mpr
      ⟨fun other there _ => claimedRow_checks other claimedBy now (sound.rows other there).checks named,rfl⟩
  have claims := (Outbox.claim_eq_some _ _ _ _ _ _ _).mpr ⟨admitted,rfl⟩
  have member : Outbox.claimedMessage row ∈
      (s.rows.filter fun row => (Outbox.due s.rows limit [] (toOffset now)).contains row.outboxId).map Outbox.claimedMessage :=
    List.mem_map_of_mem (List.mem_filter.mpr ⟨stored,by simpa using chosen⟩)
  obtain ⟨first,rest,nonempty⟩ := List.exists_cons_of_ne_nil (List.ne_nil_of_mem member)
  rw [nonempty] at claims member
  refine ⟨_,⟨claimedBy,now,first :: rest,none⟩,by simp only [Relay.step,idle,claims]; rfl,setPass_self _ _ _,_,member,rfl⟩

theorem Sound.conserved : Conserved s := by
  refine ⟨sound.sent,sound.kept,sound.state,sound.taken,?_,fun row stored transaction subject payload operationId now next stepped => ?_⟩
  · have both := sound.messages
    rw [List.map_append] at both
    exact (List.nodup_append.mp both).1
  · cases step_cases s next _ stepped with
    | refusedRow => exact ⟨rfl,List.filter_subset_self _⟩
    | conflict => exact ⟨rfl,List.Subset.refl _⟩
    | drafted _ _ _ _ _ _ _ _ _ free => exact absurd rfl (free row (List.mem_append_left _ stored))

/-- Bookkeeping that has nothing to do with retries. -/
theorem Sound.unretried {action : RelayAction κ τ} {next : Relay κ τ}
    (each : ∀ later ∈ next.rows, ∃ row, (row ∈ s.rows ∨ ∀ other ∈ s.rows, other.outboxId ≠ later.outboxId) ∧
      later.outboxId = row.outboxId ∧ later.attempts = row.attempts ∧ later.nextAttemptAt = row.nextAttemptAt ∧
      later.deadLetteredAt = row.deadLetteredAt) : Retried s action next := by
  refine ⟨fun row stored later there same => Or.inl ?_⟩
  obtain ⟨old,known,sameOld,kept⟩ := each later there
  rcases known with known | new
  · obtain rfl := Rows.eq_of_key s.rows OutboxRow.outboxId sound.row_ids known stored (sameOld.symm.trans same)
    exact kept
  · exact absurd same.symm (new row stored)

theorem Sound.retried (action : RelayAction κ τ) (next : Relay κ τ) (stepped : Relay.step s action = some next) :
    Retried s action next := by
  have same (rows : next.rows = s.rows) : Retried s action next :=
    sound.unretried fun later there => ⟨later,Or.inl (rows ▸ there),rfl,rfl,rfl,rfl⟩
  cases step_cases s next action stepped with
  | refusedRow | conflict | drafted | rolledBack | refusedClaim | refusedMark | crashed => exact same rfl
  | published process instant outcome =>
    refine same ?_
    cases outcome <;> rfl
  | committed transaction =>
    refine sound.unretried fun later there => ⟨later,?_,rfl,rfl,rfl,rfl⟩
    refine (List.mem_append.mp there).imp_right fun new other stored sameId => ?_
    obtain ⟨draft,chosen,rfl⟩ := List.mem_map.mp new
    obtain ⟨entry,committed,content⟩ := sound.origin other stored
    have apart := sound.ids
    rw [List.map_append] at apart
    exact (List.nodup_append.mp apart).2.2 _ (List.mem_map_of_mem committed) _
      (List.mem_map_of_mem (List.mem_map_of_mem (List.mem_filter.mp chosen).1))
      ((outboxId_of_content content).trans sameId)
  | claimed process claimedBy limit locked now rows messages idle taken =>
    obtain ⟨updated,_⟩ := (Outbox.claim_eq_some _ _ _ _ _ _ _).mp taken
    refine sound.unretried fun later there => ?_
    obtain ⟨old,stored,rfl⟩ := (Rows.mem_update _ _ _ _ _ updated later).mp there
    refine ⟨old,Or.inl stored,?_⟩
    split <;> exact ⟨rfl,rfl,rfl,rfl⟩
  | marked process claimedBy now message rest answer rows running recorded =>
    cases answer with
    | acknowledged =>
      refine sound.unretried fun later there => ?_
      obtain ⟨old,stored,rfl⟩ := (Rows.mem_update _ _ _ _ _ recorded later).mp there
      refine ⟨old,Or.inl stored,?_⟩
      split <;> exact ⟨rfl,rfl,rfl,rfl⟩
    | failed error =>
      refine ⟨fun row stored later there sameId => ?_⟩
      obtain ⟨old,known,rfl⟩ := (Rows.mem_update _ _ _ _ _ recorded later).mp there
      have kept : old.outboxId = row.outboxId := by
        rw [← sameId]
        split <;> rfl
      obtain rfl := Rows.eq_of_key s.rows OutboxRow.outboxId sound.row_ids known stored kept
      split
      · rename_i matched
        have bounds := backoff_bounds old.attempts
        refine Or.inr ⟨process,_,message,rest,error,rfl,running,rfl,rfl,(beq_iff_eq.mp matched).symm,rfl,?_,?_,fun alive => ?_⟩
        · simp only [Outbox.failedRow,seconds]
          omega
        · simp only [Outbox.failedRow,seconds]
          omega
        · have unspent : ¬maxAttempts ≤ old.attempts := fun spent => by
            have ended := (sound.rows old stored).dead.mpr spent
            simp [alive] at ended
          simp only [Outbox.failedRow]
          split
          · simp
            omega
          · simp
            omega
      · exact Or.inl ⟨rfl,rfl,rfl⟩
  | collected before limit chosen =>
    exact sound.unretried fun later there => ⟨later,Or.inl (List.mem_filter.mp there).1,rfl,rfl,rfl,rfl⟩

end Accounts

/-- In every interleaving of enqueueing transactions, passes, failures, lapsed leases and crashes the
outbox keeps its accounts. -/
theorem nothing_is_lost (s : Relay κ τ) (reached : Reachable s) :
    Conserved s ∧ ∀ action next, step s action = some next → Retried s action next :=
  ⟨reached.sound.conserved,fun action next stepped => reached.sound.retried action next stepped⟩

section Overlap

/-- A pass of one message whose publish is refused. -/
def refusedPass (process : Bool) (now : Timestamp) : List (RelayAction Unit Bool) :=
  [.claim process "edge" 64 [] now,.publish process now (.refused .notAcknowledged),.mark process]

/-- One message, refused eleven times; then two processes claim it, the second after the lease of the
first has lapsed, and both record a failure. -/
def overlapping : List (RelayAction Unit Bool) :=
  [.enqueue () 7 "cmd.content.capture.submit.v1" "{}" none 0,.commit ()] ++
  (List.range 11).flatMap (fun turn => refusedPass true (turn * 400000000000)) ++
  [.claim true "edge" 64 [] 4400000000000,.claim false "edge" 64 [] 4430000000000,
    .publish true 4430000000000 (.refused .notAcknowledged),.mark true,
    .publish false 4430000000000 (.refused .notAcknowledged),.mark false]

theorem thirteenth_failure_is_recorded : ∃ s : Relay Unit Bool, Reachable s ∧
    ∃ row ∈ s.rows, DeadLettered row ∧ row.attempts = 13 := by
  have ran : ((StateMachine.run step initial overlapping).map fun s : Relay Unit Bool =>
      s.rows.any fun row => row.deadLetteredAt.isSome && row.attempts == 13) = some true := by decide +kernel
  obtain ⟨s,reached,found⟩ := Option.map_eq_some_iff.mp ran
  obtain ⟨row,stored,both⟩ := List.any_eq_true.mp found
  obtain ⟨dead,attempts⟩ := Bool.and_eq_true_iff.mp both
  have count : row.attempts = 13 := beq_iff_eq.mp attempts
  exact ⟨s,⟨overlapping,reached⟩,row,stored,⟨dead,by rw [count]; decide⟩,count⟩

/-- The states of an outbox whose one message is enqueued, published and marked. -/
theorem published_message_is_accounted_for : ∃ s : Relay Unit Bool,
    Conserved s ∧ ∃ row ∈ s.rows, row.publishedAt.isSome = true := by
  have ran : ((StateMachine.run step initial [.enqueue () 7 "cmd.content.capture.submit.v1" "{}" none 0,.commit (),
      .claim true "edge" 64 [] 0,.publish true 0 .acknowledged,.mark true]).map fun s : Relay Unit Bool =>
      s.rows.any fun row => row.publishedAt.isSome) = some true := by decide +kernel
  obtain ⟨s,reached,found⟩ := Option.map_eq_some_iff.mp ran
  obtain ⟨row,stored,published⟩ := List.any_eq_true.mp found
  exact ⟨s,(nothing_is_lost s ⟨_,reached⟩).1,row,stored,published⟩

end Overlap

end Relay

end Ratatoskr.Eventing
