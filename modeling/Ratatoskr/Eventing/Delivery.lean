import Mathlib.Data.List.Nodup
import Ratatoskr.Eventing.Inbox

/-! Deliveries and redeliveries to any number of consumers, interleaved statement by statement. -/
set_option linter.unusedSectionVars false

namespace Ratatoskr.Eventing

open Transaction

variable {θ π ε τ : Type} {ρ : θ → Type} [DecidableEq θ] [DecidableEq τ]

/-- One delivery: the consumer's handler, the message and the instant it is given. -/
structure Delivery (ρ : θ → Type) (π ε : Type) where
  handler : Handler ρ π ε
  message : Incoming π
  now : Timestamp

namespace Delivery

def program (delivery : Delivery ρ π ε) : Tx (Row ρ) (Option ε) Outcome :=
  deliver delivery.handler delivery.message delivery.now

abbrev messageId (delivery : Delivery ρ π ε) : MessageId := delivery.message.messageId

/-- The inbox row a handled delivery leaves. -/
def handledRow (delivery : Delivery ρ π ε) (outcome : Outcome) : InboxRow :=
  { Inbox.receivedRow delivery.message delivery.now with
    processedAt := some (toOffset delivery.now)
    outcome := some outcome }

/-- Whether the CHECK constraints let the delivery claim its message at all. -/
def storable (delivery : Delivery ρ π ε) : Bool :=
  (Inbox.receivedRow delivery.message delivery.now).checks && (Inbox.receivedRow delivery.message delivery.now).storable

end Delivery

/-- Committed inbox rows are complete and stay; a delivery commits its own row or nothing. -/
def deliveryProtocol (delivery : τ → Delivery ρ π ε) : Protocol (Row ρ) (Option ε) Outcome τ where
  Invariant s := ∀ id row, s (.inl id) = some row → row.outcome.isSome
  Rely s s' := ∀ id row, s (.inl id) = some row → s' (.inl id) = some row
  Commits t outcome drafts s :=
    s (.inl (delivery t).messageId) = none ∧
    drafts (.inl (delivery t).messageId) = some (.written (some ((delivery t).handledRow outcome))) ∧
    ∀ id, id ≠ (delivery t).messageId → drafts (.inl id) = none
  Abandons t answer s := answer = none → (s (.inl (delivery t).messageId)).isSome
  Refuses _ _ := True
  rely_refl _ _ _ stored := stored
  rely_trans _ _ _ first second id row stored := second id row (first id row stored)
  commit_invariant := by
    rintro t outcome drafts s valid ⟨_,own,others⟩ id row stored
    by_cases same : id = (delivery t).messageId
    · subst same
      simp only [overlay,own] at stored
      exact Option.some.inj stored ▸ rfl
    · simp only [overlay,others id same] at stored
      exact valid id row stored
  commit_rely := by
    rintro t outcome drafts s _ ⟨absent,own,others⟩ id row stored
    by_cases same : id = (delivery t).messageId
    · subst same
      simp [absent] at stored
    · simpa [overlay,others id same] using stored
  abandon_stable := by
    intro t answer s s' kept found duplicate
    obtain ⟨row,stored⟩ := Option.isSome_iff_exists.mp (found duplicate)
    rw [kept _ row stored]
    rfl

variable (tables : Constraints ρ) (delivery : τ → Delivery ρ π ε)

/-- What remains of a delivery once its handler has answered. -/
def finishing (delivery : Delivery ρ π ε) (outcome : Outcome) : Tx (Row ρ) (Option ε) Outcome :=
  (Inbox.finish delivery.message.messageId outcome delivery.now).bind fun _ => .done outcome

theorem program_eq (delivery : Delivery ρ π ε) :
    delivery.program =
      .insert (.inl delivery.messageId) (Inbox.receivedRow delivery.message delivery.now) fun
        | true => ((delivery.handler delivery.message delivery.now).widen some).bind (finishing delivery)
        | false => .abandon none := by
  refine congrArg (Tx.insert _ _) (funext fun fresh => ?_)
  cases fresh <;> rfl

/-- The row claimed before the handler ran is the one finished after it. -/
theorem finishing_safe (t : τ) (outcome : Outcome) (drafts : Drafts (Row ρ)) (s : Store (Row ρ))
    (absent : s (.inl (delivery t).messageId) = none)
    (claimed : drafts (.inl (delivery t).messageId) =
      some (.written (some (Inbox.receivedRow (delivery t).message (delivery t).now))))
    (others : ∀ id, id ≠ (delivery t).messageId → drafts (.inl id) = none) :
    (deliveryProtocol delivery).Safe (constraints tables) t ((deliveryProtocol delivery).Commits t)
      (finishing (delivery t) outcome) drafts s := by
  have held : (drafts (.inl (delivery t).messageId)).isSome := by simp [claimed]
  have within : Within (· = .inl (delivery t).messageId) (finishing (delivery t) outcome) :=
    within_bind _ _ _ (within_bind _ _ _ (within_updateWhere (· = _) _ rfl _ _) fun _ => trivial) fun _ => trivial
  refine Protocol.Safe.of_exec within (fun key own => own ▸ held) fun s' env => ?_
  have sees : overlay drafts s' (.inl (delivery t).messageId) =
      some (Inbox.receivedRow (delivery t).message (delivery t).now) := by
    simp [overlay,claimed]
  have unstored := (env.2.2 _ held).trans absent
  simp only [finishing,Inbox.finish,Tx.bind_eq,exec_bind]
  rw [exec_updateWhere_match _ _ _ _ _ _ sees rfl]
  split
  · intro later rows outside
    refine ⟨unstored,written_of_overlay unstored ?_,fun id different => ?_⟩
    · rw [rows]
      exact Function.update_self _ _ _
    · have other : (Sum.inl id : Key θ) ≠ .inl (delivery t).messageId :=
        fun same => different (Sum.inl.inj same)
      exact (outside _ other).trans (others id different)
  · trivial

theorem deliver_safe (t : τ) (s : Store (Row ρ)) :
    (deliveryProtocol delivery).Safe (constraints tables) t ((deliveryProtocol delivery).Commits t)
      (delivery t).program Drafts.none s := by
  rw [program_eq]
  intro claimed toClaimed
  split
  · split
    · rename_i absent
      refine Protocol.Safe.bind toClaimed.1 (Protocol.Safe.confined (within_widen some _) (leaves_widen some _) ?_ ?_ ?_)
      · intro outcome later handled same _ toHandled
        refine finishing_safe tables delivery t outcome later handled ?_ ?_ fun id different => ?_
        · exact (toHandled.2.2 _ ((put_isSome _ _ _ _).mpr (Or.inl rfl))).trans absent
        · rw [same _ (by simp),put_self]
        · rw [same _ (by simp),put_of_ne _ _ _ _ fun own => different (Sum.inl.inj own)]
          rfl
      · rintro answer ended ⟨error,rfl⟩ _ duplicate
        simp at duplicate
      · exact fun _ _ => trivial
    · rename_i row stored
      intro ended toEnded _
      rw [toEnded.2.1 _ row stored]
      rfl
  · trivial

theorem deliveries_keep (t : τ) (s : Store (Row ρ)) (_ : (deliveryProtocol delivery).Invariant s) :
    (deliveryProtocol delivery).Safe (constraints tables) t ((deliveryProtocol delivery).Commits t)
      (delivery t).program Drafts.none s := deliver_safe tables delivery t s

/-- The inbox rows are those of the journal, one entry for each message id. -/
structure Recorded (delivery : τ → Delivery ρ π ε) (s : Store (Row ρ))
    (journal : List (Commit (Row ρ) Outcome τ)) : Prop where
  distinct : (journal.map fun entry => (delivery entry.transaction).messageId).Nodup
  rows : ∀ entry ∈ journal, s (.inl (delivery entry.transaction).messageId) =
    some ((delivery entry.transaction).handledRow entry.value)
  claims : ∀ entry ∈ journal, entry.drafts (.inl (delivery entry.transaction).messageId) =
    some (.written (some ((delivery entry.transaction).handledRow entry.value)))
  sources : ∀ id, (s (.inl id)).isSome → ∃ entry ∈ journal, (delivery entry.transaction).messageId = id

theorem commit_recorded (s : Store (Row ρ)) (journal : List (Commit (Row ρ) Outcome τ)) (t : τ)
    (outcome : Outcome) (drafts : Drafts (Row ρ)) (recorded : Recorded delivery s journal)
    (commits : (deliveryProtocol delivery).Commits t outcome drafts s) :
    Recorded delivery (overlay drafts s) (journal ++ [⟨t,outcome,drafts⟩]) := by
  obtain ⟨absent,own,others⟩ := commits
  have unseen (entry) (member : entry ∈ journal) :
      (delivery entry.transaction).messageId ≠ (delivery t).messageId := by
    intro same
    have row := recorded.rows entry member
    rw [same,absent] at row
    cases row
  refine ⟨?_,?_,?_,?_⟩
  · simp only [List.map_append,List.map_cons,List.map_nil,List.nodup_append,recorded.distinct,true_and]
    refine ⟨by simp,?_⟩
    simpa using unseen
  · intro entry member
    rcases List.mem_append.mp member with old | new
    · simp only [overlay,others _ (unseen entry old)]
      exact recorded.rows entry old
    · obtain rfl := List.mem_singleton.mp new
      simp [overlay,own]
  · intro entry member
    rcases List.mem_append.mp member with old | new
    · exact recorded.claims entry old
    · obtain rfl := List.mem_singleton.mp new
      exact own
  · intro id stored
    by_cases same : id = (delivery t).messageId
    · exact ⟨⟨t,outcome,drafts⟩,by simp,same.symm⟩
    · simp only [overlay,others id same] at stored
      obtain ⟨entry,member,matching⟩ := recorded.sources id stored
      exact ⟨entry,List.mem_append_left _ member,matching⟩

/-- A delivery whose handler has not run and will not: it waits, starts, is a duplicate, crashed, or
was refused because its own subject or producer breaks a CHECK. -/
inductive Unhandled (delivery : Delivery ρ π ε) : Phase (Row ρ) (Option ε) Outcome → Prop where
  | waiting : Unhandled delivery .idle
  | started : Unhandled delivery (.running delivery.program)
  | found : Unhandled delivery (.running (.abandon none))
  | duplicate : Unhandled delivery (.abandoned none)
  | crashed : Unhandled delivery .crashed
  | refused (refusal : Refusal (Row ρ)) (unstorable : delivery.storable = false) :
      Unhandled delivery (.refused refusal)

/-- The message of `t` is in the committed inbox and `t` has not got past the claim. -/
structure Seen (tables : Constraints ρ) (delivery : τ → Delivery ρ π ε) (t : τ)
    (pool : Pool (Row ρ) (Option ε) Outcome τ) : Prop where
  sound : (deliveryProtocol delivery).Sound (constraints tables) pool
  row : (pool.committed (.inl (delivery t).messageId)).isSome
  free : pool.drafts t = Drafts.none
  phase : Unhandled (delivery t) (pool.phase t)

abbrev deliveryStep (tables : Constraints ρ) (delivery : τ → Delivery ρ π ε) :=
  Pool.step (constraints tables) fun t => (delivery t).program

/-- The claim of a message that is in the inbox: refused by a CHECK, or answered as a duplicate. -/
theorem claim_found (t : τ) (pool next : Pool (Row ρ) (Option ε) Outcome τ)
    (row : (pool.committed (.inl (delivery t).messageId)).isSome) (free : pool.drafts t = Drafts.none)
    (issued : pool.issue (constraints tables) t (delivery t).program = some next) :
    (∃ refusal, (delivery t).storable = false ∧ next = pool.finish t (.refused refusal)) ∨
      next = pool.setPhase t (.running (.abandon none)) := by
  rw [program_eq,Pool.issue] at issued
  split at issued
  · simp only [Option.ite_none_left_eq_some] at issued
    obtain ⟨_,issued⟩ := issued
    obtain ⟨stored,found⟩ := Option.isSome_iff_exists.mp row
    have sees : pool.view t (.inl (delivery t).messageId) = some stored := by
      rw [Pool.view,free]
      exact found
    rw [sees] at issued
    exact Or.inr (Option.some.inj issued).symm
  · rename_i refused
    refine Or.inl ⟨_,?_,(Option.some.inj issued).symm⟩
    simpa [constraints,Delivery.storable] using refused

theorem unhandled_step (t : τ) (pool next : Pool (Row ρ) (Option ε) Outcome τ) (action : Action τ)
    (own : action.transaction = t) (row : (pool.committed (.inl (delivery t).messageId)).isSome)
    (free : pool.drafts t = Drafts.none) (unhandled : Unhandled (delivery t) (pool.phase t))
    (stepped : deliveryStep tables delivery pool action = some next) :
    next.drafts t = Drafts.none ∧ Unhandled (delivery t) (next.phase t) := by
  have finished (phase : Phase (Row ρ) (Option ε) Outcome) (ended : Unhandled (delivery t) phase) :
      (pool.finish t phase).drafts t = Drafts.none ∧ Unhandled (delivery t) ((pool.finish t phase).phase t) := by
    refine ⟨Pool.drafts_finish_self pool t phase,?_⟩
    rwa [Pool.phase_finish,Function.update_self]
  have continued (body : Tx (Row ρ) (Option ε) Outcome) (ended : Unhandled (delivery t) (.running body)) :
      (pool.setPhase t (.running body)).drafts t = Drafts.none ∧
        Unhandled (delivery t) ((pool.setPhase t (.running body)).phase t) := by
    refine ⟨free,?_⟩
    rwa [Pool.phase_setPhase,Function.update_self]
  cases action with
  | start u =>
    obtain rfl : u = t := own
    simp only [Pool.step] at stepped
    split at stepped
    · obtain rfl := Option.some.inj stepped
      exact continued _ .started
    · simp at stepped
  | crash u =>
    obtain rfl : u = t := own
    simp only [Pool.step] at stepped
    split at stepped
    · obtain rfl := Option.some.inj stepped
      exact finished _ .crashed
    · simp at stepped
  | advance u =>
    obtain rfl : u = t := own
    simp only [Pool.step] at stepped
    generalize at_ : pool.phase u = phase at stepped unhandled
    cases unhandled with
    | started =>
      rcases claim_found tables delivery u pool next row free stepped with ⟨refusal,unstorable,rfl⟩ | rfl
      · exact finished _ (.refused refusal unstorable)
      · exact continued _ .found
    | found =>
      obtain rfl := Option.some.inj stepped
      exact finished _ .duplicate
    | waiting | duplicate | crashed | refused => simp at stepped

theorem seen_step (t : τ) (pool next : Pool (Row ρ) (Option ε) Outcome τ) (action : Action τ)
    (seen : Seen tables delivery t pool) (stepped : deliveryStep tables delivery pool action = some next) :
    Seen tables delivery t next := by
  have sound := seen.sound.step (deliveries_keep tables delivery) action stepped
  have row : (next.committed (.inl (delivery t).messageId)).isSome := by
    have kept := Protocol.Keeps.rely (deliveries_keep tables delivery) pool next seen.sound [action]
      ((StateMachine.run_cons_eq_some _ _ _ _ _).mpr ⟨next,stepped,rfl⟩)
    obtain ⟨stored,found⟩ := Option.isSome_iff_exists.mp seen.row
    rw [kept _ stored found]
    rfl
  by_cases own : t = action.transaction
  · obtain ⟨free,phase⟩ :=
      unhandled_step tables delivery t pool next action own.symm seen.row seen.free seen.phase stepped
    exact ⟨sound,row,free,phase⟩
  · obtain ⟨phase,drafts⟩ := Pool.step_other _ _ pool next action t own stepped
    exact ⟨sound,row,drafts ▸ seen.free,phase ▸ seen.phase⟩

/-- What exactly-once delivery comes to, for a pool of deliveries over the rows of `store`. -/
structure ExactlyOnce (tables : Constraints ρ) (delivery : τ → Delivery ρ π ε) (store : Store (Row ρ))
    (pool : Pool (Row ρ) (Option ε) Outcome τ) : Prop where
  /-- The effects in the tables are those of the journal's commits, one after the other. -/
  effects : pool.committed = Pool.replay store pool.journal
  once : ∀ id, (pool.journal.filter fun entry => (delivery entry.transaction).messageId = id).length ≤ 1
  recorded : ∀ id, (∃ row, pool.committed (.inl id) = some row ∧ row.outcome.isSome) ↔
    ∃ entry ∈ pool.journal, (delivery entry.transaction).messageId = id
  finished : ∀ id row, pool.committed (.inl id) = some row → row.outcome.isSome
  /-- The handler's effects and the finished inbox row are in one commit. -/
  together : ∀ entry ∈ pool.journal,
    entry.drafts (.inl (delivery entry.transaction).messageId) =
      some (.written (some ((delivery entry.transaction).handledRow entry.value)))
  /-- A delivery that failed, crashed or has not ended is in no commit. -/
  unsettled : ∀ t, (∀ outcome, pool.phase t ≠ .committed outcome) →
    ∀ entry ∈ pool.journal, entry.transaction ≠ t
  /-- A delivery of a committed id that is still to come never gets to its handler. -/
  later : ∀ t, pool.phase t = .idle → (pool.committed (.inl (delivery t).messageId)).isSome →
    ∀ actions next, StateMachine.run (deliveryStep tables delivery) pool actions = some next →
      Unhandled (delivery t) (next.phase t)

/-- A message, and another one forged under its id with a producer no service has. -/
def forgedDeliveries (t : Bool) : Delivery (fun key : Empty => nomatch key) Unit Unit where
  handler _ _ := .done .applied
  message := ⟨7,"evt.ai-archive.chatgpt.operation.reported.v1",if t then "" else "ratatoskr-chatgpt",()⟩
  now := 0

abbrev noTables : Constraints (fun key : Empty => (nomatch key : Type)) := fun key => nomatch key

end Ratatoskr.Eventing
