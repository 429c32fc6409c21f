import Ratatoskr.Eventing.Conservation

/-! When the marks of overlapping passes leave settled rows alone. -/
set_option linter.unusedSectionVars false

namespace Ratatoskr.Eventing

def OutboxRow.settled (row : OutboxRow) : Bool := row.publishedAt.isSome || row.deadLetteredAt.isSome

theorem publishedRow_checks_iff (row : OutboxRow) (now : Timestamp) (checks : row.checks = true)
    (later : row.enqueuedAt ≤ toOffset now) :
    (Outbox.publishedRow now row).checks = true ↔ row.deadLetteredAt = none := by
  simp only [OutboxRow.checks,Bool.and_eq_true] at checks
  obtain ⟨⟨⟨⟨⟨⟨subject,_⟩,_⟩,_⟩,_⟩,_⟩,fits⟩ := checks
  simp only [OutboxRow.checks,Outbox.publishedRow,Bool.and_eq_true]
  constructor
  · rintro ⟨⟨⟨_,single⟩,_⟩,_⟩
    simpa using single
  · intro alive
    exact ⟨⟨⟨⟨⟨⟨subject,rfl⟩,rfl⟩,rfl⟩,by simp [alive]⟩,decide_eq_true later⟩,fits⟩

theorem failedRow_checks (row : OutboxRow) (error : PublishError) (now : Timestamp) (checks : row.checks = true)
    (unpublished : row.publishedAt = none) : (Outbox.failedRow error.text now row).checks = true := by
  simp only [OutboxRow.checks,Bool.and_eq_true] at checks
  obtain ⟨⟨⟨⟨⟨⟨subject,_⟩,_⟩,_⟩,_⟩,_⟩,fits⟩ := checks
  simp only [OutboxRow.checks,Outbox.failedRow,Bool.and_eq_true,unpublished,Option.all_some,Option.all_none,
    safe_error_short,Option.isNone_none,Option.isSome_none,beq_self_eq_true,Bool.true_or,and_true]
  exact ⟨subject,fits⟩

namespace Relay

variable {κ τ : Type} [DecidableEq κ] [DecidableEq τ]

/-- No row whose publish was acknowledged is dead-lettered. -/
def Unspoilt (s : Relay κ τ) : Prop := ∀ row ∈ s.rows, Acked s.sent row.outboxId → row.deadLetteredAt = none

/-- The message the process has an answer for is marked, and a settled row is left as it is. -/
def Frozen (s : Relay κ τ) : RelayAction κ τ → Prop
  | .mark process => ∀ claimedBy now message rest answer,
    s.passes process = some ⟨claimedBy,now,message :: rest,some answer⟩ →
      ∃ rows, record s.rows message.outboxId now answer = some rows ∧
        ∀ row ∈ s.rows, row.settled = true → row ∈ rows
  | _ => True

/-- A step as the outbox means it: no mark is refused or changes a settled row, and no
acknowledged row is dead-lettered after it. -/
def Undisturbed (s : Relay κ τ) (action : RelayAction κ τ) : Prop :=
  Frozen s action ∧ ∀ next, step s action = some next → Unspoilt next

/-- What a step must be in this state: a mark hits a row that is not settled yet, or repeats what is
stored; a last failure is not that of an acknowledged row; the bus acknowledges no dead-lettered row. -/
def Guarded (s : Relay κ τ) : RelayAction κ τ → Prop
  | .publish process _ .acknowledged => ∀ claimedBy now message rest,
    s.passes process = some ⟨claimedBy,now,message :: rest,none⟩ →
      ∀ row ∈ s.rows, row.outboxId = message.outboxId → row.deadLetteredAt = none
  | .mark process => ∀ claimedBy now message rest answer,
    s.passes process = some ⟨claimedBy,now,message :: rest,some answer⟩ →
      ∀ row ∈ s.rows, row.outboxId = message.outboxId →
        match answer with
        | .acknowledged => row.deadLetteredAt = none ∧
            (row.publishedAt.isSome = true → Outbox.publishedRow now row = row)
        | .failed _ => row.settled = false ∧ (Acked s.sent row.outboxId → row.attempts + 1 < maxAttempts)
  | _ => True

section Exact

variable {s : Relay κ τ} (sound : Sound s)

include sound

theorem claim_timely {process : τ} {pass : Pass} (running : s.passes process = some pass) {message : ClaimedMessage}
    (member : message ∈ pass.claimed) (row : OutboxRow) (stored : row ∈ s.rows) (same : row.outboxId = message.outboxId) :
    row.enqueuedAt ≤ toOffset pass.now := by
  obtain ⟨entry,committed,sameId,_,timely⟩ := (sound.passes process pass running).known message member
  have content := sound.entry_of_id row entry stored committed (sameId.trans same.symm)
  exact enqueuedAt_of_content content ▸ timely

/-- Where the statement goes through, a settled row stays exactly when the change is none. -/
theorem kept_of_update {matching : OutboxRow → Bool} {change : OutboxRow → OutboxRow} {rows : List OutboxRow}
    (updated : Rows.update OutboxRow.checks matching change s.rows = some rows)
    (own : ∀ row, (change row).outboxId = row.outboxId) (row : OutboxRow) (stored : row ∈ s.rows)
    (matched : matching row = true) : row ∈ rows ↔ change row = row := by
  have unique : (rows.map OutboxRow.outboxId).Nodup :=
    (Rows.map_update _ _ _ _ _ updated OutboxRow.outboxId own) ▸ sound.row_ids
  have changed := Rows.mem_update_of_matched _ _ _ _ _ updated row stored matched
  constructor
  · exact fun kept => Rows.eq_of_key rows OutboxRow.outboxId unique changed kept (own row)
  · exact fun same => same ▸ changed

theorem frozen_published_iff {process : τ} {claimedBy : String} {now : Timestamp} {message : ClaimedMessage}
    {rest : List ClaimedMessage} (running : s.passes process = some ⟨claimedBy,now,message :: rest,some .acknowledged⟩) :
    (∃ rows, record s.rows message.outboxId now .acknowledged = some rows ∧
        ∀ row ∈ s.rows, row.settled = true → row ∈ rows) ↔
      ∀ row ∈ s.rows, row.outboxId = message.outboxId → row.deadLetteredAt = none ∧
        (row.publishedAt.isSome = true → Outbox.publishedRow now row = row) := by
  have timely := fun row stored same => claim_timely sound running List.mem_cons_self row stored same
  constructor
  · rintro ⟨rows,recorded,kept⟩ row stored same
    have checked := ((Rows.update_eq_some _ _ _ _ _).mp recorded).1 row stored (beq_iff_eq.mpr same)
    refine ⟨(publishedRow_checks_iff row now (sound.rows row stored).checks (timely row stored same)).mp checked,
      fun published => ?_⟩
    exact (kept_of_update sound recorded (fun _ => rfl) row stored (beq_iff_eq.mpr same)).mp
      (kept row stored (by simp [OutboxRow.settled,published]))
  · intro guarded
    have recorded := (Rows.update_eq_some OutboxRow.checks (fun row => row.outboxId == message.outboxId)
      (Outbox.publishedRow now) s.rows _).mpr ⟨fun row stored matched =>
        (publishedRow_checks_iff row now (sound.rows row stored).checks
          (timely row stored (beq_iff_eq.mp matched))).mpr (guarded row stored (beq_iff_eq.mp matched)).1,rfl⟩
    refine ⟨_,recorded,fun row stored settled => ?_⟩
    by_cases same : row.outboxId = message.outboxId
    · obtain ⟨alive,repeated⟩ := guarded row stored same
      have published : row.publishedAt.isSome = true := by simpa [OutboxRow.settled,alive] using settled
      exact (kept_of_update sound recorded (fun _ => rfl) row stored (beq_iff_eq.mpr same)).mpr (repeated published)
    · exact Rows.mem_update_of_unmatched _ _ _ _ _ recorded row stored (by simpa using same)

theorem frozen_failed_iff (message : ClaimedMessage) (now : Timestamp) (error : PublishError) :
    (∃ rows, record s.rows message.outboxId now (.failed error) = some rows ∧
        ∀ row ∈ s.rows, row.settled = true → row ∈ rows) ↔
      ∀ row ∈ s.rows, row.outboxId = message.outboxId → row.settled = false := by
  constructor
  · rintro ⟨rows,recorded,kept⟩ row stored same
    refine Bool.eq_false_iff.mpr fun settled => ?_
    have unchanged := (kept_of_update sound recorded (fun _ => rfl) row stored (beq_iff_eq.mpr same)).mp
      (kept row stored settled)
    have count : row.attempts + 1 = row.attempts := congrArg OutboxRow.attempts unchanged
    omega
  · intro guarded
    have recorded := (Rows.update_eq_some OutboxRow.checks (fun row => row.outboxId == message.outboxId)
      (Outbox.failedRow error.text now) s.rows _).mpr ⟨fun row stored matched => by
        have open_ := guarded row stored (beq_iff_eq.mp matched)
        refine failedRow_checks row error now (sound.rows row stored).checks ?_
        simp only [OutboxRow.settled,Bool.or_eq_false_iff,Option.isSome_eq_false_iff,Option.isNone_iff_eq_none] at open_
        exact open_.1,rfl⟩
    refine ⟨_,recorded,fun row stored settled => ?_⟩
    by_cases same : row.outboxId = message.outboxId
    · rw [guarded row stored same] at settled
      cases settled
    · exact Rows.mem_update_of_unmatched _ _ _ _ _ recorded row stored (by simpa using same)

end Exact

section Spoiling

variable {s : Relay κ τ} (unspoilt : Unspoilt s)

include unspoilt

/-- A step that neither dead-letters a row nor adds an acknowledgement spoils nothing. -/
theorem unspoilt_of_rows {next : Relay κ τ} (sent : next.sent = s.sent)
    (each : ∀ later ∈ next.rows, later.deadLetteredAt = none ∨
      ∃ row ∈ s.rows, later.outboxId = row.outboxId ∧ later.deadLetteredAt = row.deadLetteredAt) : Unspoilt next := by
  intro later there acked
  rcases each later there with alive | ⟨row,stored,sameId,sameDead⟩
  · exact alive
  · rw [sameDead]
    exact unspoilt row stored (sent ▸ sameId ▸ acked)

theorem unspoilt_published_iff {process : τ} {claimedBy : String} {now : Timestamp} {message : ClaimedMessage}
    {rest : List ClaimedMessage} (instant : Timestamp) (outcome : PublishOutcome) :
    Unspoilt ((s.receive message instant outcome).setPass process (some ⟨claimedBy,now,message :: rest,some outcome.answer⟩)) ↔
      (outcome = .acknowledged → ∀ row ∈ s.rows, row.outboxId = message.outboxId → row.deadLetteredAt = none) := by
  cases outcome with
  | acknowledged =>
    constructor
    · exact fun spared _ row stored same =>
        spared row stored ⟨_,List.mem_append_right _ List.mem_cons_self,same.symm,rfl⟩
    · rintro guarded row stored ⟨publication,member,same,acknowledged⟩
      rcases List.mem_append.mp member with earlier | new
      · exact unspoilt row stored ⟨publication,earlier,same,acknowledged⟩
      · rw [List.mem_singleton.mp new] at same
        exact guarded rfl row stored same.symm
  | refused error => exact iff_of_true unspoilt fun impossible => by cases impossible
  | lost error =>
    refine iff_of_true ?_ fun impossible => by cases impossible
    rintro row stored ⟨publication,member,same,acknowledged⟩
    rcases List.mem_append.mp member with earlier | new
    · exact unspoilt row stored ⟨publication,earlier,same,acknowledged⟩
    · rw [List.mem_singleton.mp new] at acknowledged
      cases acknowledged

theorem unspoilt_marked_iff {process : τ} {claimedBy : String} {now : Timestamp} {message : ClaimedMessage}
    {rest : List ClaimedMessage} {answer : Answer} {rows : List OutboxRow}
    (recorded : record s.rows message.outboxId now answer = some rows) :
    Unspoilt ({ s with rows }.setPass process (Pass.remaining claimedBy now rest)) ↔
      (∀ error, answer = .failed error → ∀ row ∈ s.rows, row.outboxId = message.outboxId →
        Acked s.sent row.outboxId → row.attempts + 1 < maxAttempts) := by
  cases answer with
  | acknowledged =>
    refine iff_of_true (unspoilt_of_rows unspoilt rfl fun later there => Or.inr ?_) fun _ impossible => by cases impossible
    obtain ⟨row,stored,rfl⟩ := (Rows.mem_update _ _ _ _ _ recorded later).mp there
    refine ⟨row,stored,?_⟩
    split <;> exact ⟨rfl,rfl⟩
  | failed error =>
    constructor
    · rintro spared _ _ row stored same acked
      have changed := Rows.mem_update_of_matched _ _ _ _ _ recorded row stored (beq_iff_eq.mpr same)
      have alive := spared _ changed acked
      refine not_le.mp fun spent => ?_
      simp [Outbox.failedRow,spent] at alive
    · intro guarded later there acked
      obtain ⟨row,stored,rfl⟩ := (Rows.mem_update _ _ _ _ _ recorded later).mp there
      split at acked
      · rename_i matched
        have left := guarded error rfl row stored (beq_iff_eq.mp matched) acked
        rw [if_pos matched]
        simp [Outbox.failedRow,not_le.mpr left]
      · rename_i unmatched
        rw [if_neg unmatched]
        exact unspoilt row stored acked

theorem undisturbed_iff (sound : Sound s) (action : RelayAction κ τ) : Undisturbed s action ↔ Guarded s action := by
  have unfrozen {next : Relay κ τ} (stepped : step s action = some next) :
      (∀ other, step s action = some other → Unspoilt other) ↔ Unspoilt next := by
    simp only [stepped,Option.some.injEq,forall_eq']
  have quiet (frozen : Frozen s action) (each : ∀ next, step s action = some next → Unspoilt next)
      (guarded : Guarded s action) : Undisturbed s action ↔ Guarded s action := iff_of_true ⟨frozen,each⟩ guarded
  cases action with
  | enqueue transaction messageId subject payload operationId now =>
    refine quiet trivial (fun next stepped => ?_) trivial
    cases step_cases s next _ stepped <;> exact unspoilt
  | commit transaction =>
    refine quiet trivial (fun next stepped => ?_) trivial
    obtain rfl := Option.some.inj stepped
    refine unspoilt_of_rows unspoilt rfl fun later there => ?_
    rcases List.mem_append.mp there with stored | new
    · exact Or.inr ⟨later,stored,rfl,rfl⟩
    · obtain ⟨draft,chosen,rfl⟩ := List.mem_map.mp new
      exact Or.inl (sound.drafts draft (List.mem_filter.mp chosen).1).2.2.2.1
  | rollback transaction =>
    refine quiet trivial (fun next stepped => ?_) trivial
    obtain rfl := Option.some.inj stepped
    exact unspoilt
  | claim process claimedBy limit locked now =>
    refine quiet trivial (fun next stepped => ?_) trivial
    cases step_cases s next _ stepped with
    | refusedClaim => exact unspoilt
    | claimed _ _ _ _ _ rows messages idle taken =>
      obtain ⟨updated,_⟩ := (Outbox.claim_eq_some _ _ _ _ _ _ _).mp taken
      refine unspoilt_of_rows unspoilt rfl fun later there => Or.inr ?_
      obtain ⟨row,stored,rfl⟩ := (Rows.mem_update _ _ _ _ _ updated later).mp there
      refine ⟨row,stored,?_⟩
      split <;> exact ⟨rfl,rfl⟩
  | crash process =>
    refine quiet trivial (fun next stepped => ?_) trivial
    obtain rfl := Option.some.inj stepped
    exact unspoilt
  | collect before limit chosen =>
    refine quiet trivial (fun next stepped => ?_) trivial
    obtain rfl := Option.some.inj stepped
    exact fun row stored => unspoilt row (List.mem_filter.mp stored).1
  | publish process instant outcome =>
    constructor
    · rintro ⟨_,spared⟩
      cases outcome with
      | acknowledged =>
        intro claimedBy now message rest running
        have stepped : step s (.publish process instant .acknowledged) = some ((s.receive message instant .acknowledged).setPass
            process (some ⟨claimedBy,now,message :: rest,some .acknowledged⟩)) := by simp only [step,running]; rfl
        exact (unspoilt_published_iff unspoilt instant .acknowledged).mp (spared _ stepped) rfl
      | lost error | refused error => trivial
    · refine fun guarded => ⟨trivial,fun next stepped => ?_⟩
      cases step_cases s next _ stepped with
      | published _ _ _ claimedBy now message rest running =>
        refine (unspoilt_published_iff unspoilt instant outcome).mpr ?_
        rintro rfl
        exact guarded claimedBy now message rest running
  | mark process =>
    constructor
    · rintro ⟨frozen,spared⟩ claimedBy now message rest answer running
      obtain ⟨rows,recorded,kept⟩ := frozen claimedBy now message rest answer running
      have stepped : step s (.mark process) = some ({ s with rows }.setPass process (Pass.remaining claimedBy now rest)) := by
        simp only [step,running,recorded]
      cases answer with
      | acknowledged => exact (frozen_published_iff sound running).mp ⟨rows,recorded,kept⟩
      | failed error =>
        intro row stored same
        exact ⟨(frozen_failed_iff sound message now error).mp ⟨rows,recorded,kept⟩ row stored same,
          (unspoilt_marked_iff unspoilt recorded).mp (spared _ stepped) error rfl row stored same⟩
    · intro guarded
      have frozen : Frozen s (.mark process) := by
        intro claimedBy now message rest answer running
        have each := guarded claimedBy now message rest answer running
        cases answer with
        | acknowledged => exact (frozen_published_iff sound running).mpr each
        | failed error => exact (frozen_failed_iff sound message now error).mpr fun row stored same => (each row stored same).1
      refine ⟨frozen,fun next stepped => ?_⟩
      cases step_cases s next _ stepped with
      | refusedMark => exact unspoilt
      | marked _ claimedBy now message rest answer rows running recorded =>
        refine (unspoilt_marked_iff unspoilt recorded).mpr ?_
        rintro error rfl row stored same
        exact (guarded claimedBy now message rest (.failed error) running row stored same).2

end Spoiling

/-- Settled rows stay as they are all along a run exactly when every step of it is guarded. -/
theorem settled_rows_stay_iff (actions : List (RelayAction κ τ)) :
    StateMachine.Along step Undisturbed initial actions ↔ StateMachine.Along step Guarded initial actions := by
  refine StateMachine.along_iff_along step (fun s => Sound s ∧ Unspoilt s) Undisturbed Guarded
    (fun s action both => undisturbed_iff both.2 both.1 action) (fun s action next both good stepped => ?_) initial actions
    ⟨initial_sound,List.forall_mem_nil _⟩
  exact ⟨both.1.step action next stepped,good.2 next stepped⟩

section Overlap

/-- Two passes hold the message; the second publishes and marks it before the first has failed. -/
def reclaimed : List (RelayAction Unit Bool) :=
  [.enqueue () 7 "cmd.content.capture.submit.v1" "{}" none 0,.commit (),.claim true "edge" 64 [] 0,
    .claim false "edge" 64 [] 30000000000,.publish false 30000000000 .acknowledged,.mark false,
    .publish true 31000000000 (.refused .notAcknowledged)]

/-- Whether the mark that the process is about to make leaves every settled row in place. -/
def marksQuietly (s : Relay Unit Bool) (process : Bool) : Bool :=
  match s.passes process with
  | some ⟨_,now,message :: _,some answer⟩ =>
    (record s.rows message.outboxId now answer).any fun rows => s.rows.all fun row => !row.settled || rows.contains row
  | _ => true

theorem marksQuietly_of_frozen (s : Relay Unit Bool) (process : Bool) (frozen : Frozen s (.mark process)) :
    marksQuietly s process = true := by
  rw [marksQuietly]
  split
  · rename_i claimedBy now message rest answer running
    obtain ⟨rows,recorded,kept⟩ := frozen claimedBy now message rest answer running
    rw [recorded,Option.any_some,List.all_eq_true]
    intro row stored
    cases settled : row.settled with
    | false => rfl
    | true => simpa using kept row stored settled
  · rfl

/-- The late failure of the first process is recorded against the published row. -/
theorem late_failure_changes_published_row :
    ¬StateMachine.Along step Undisturbed (initial : Relay Unit Bool) (reclaimed ++ [.mark true]) := by
  intro along
  have disturbed : ((StateMachine.run step initial reclaimed).map fun s : Relay Unit Bool => marksQuietly s true) =
      some false := by decide +kernel
  obtain ⟨s,reached,loud⟩ := Option.map_eq_some_iff.mp disturbed
  have frozen := (StateMachine.along_at step Undisturbed initial reclaimed (.mark true) [] along s reached).1
  rw [marksQuietly_of_frozen s true frozen] at loud
  cases loud

end Overlap

end Relay

end Ratatoskr.Eventing
