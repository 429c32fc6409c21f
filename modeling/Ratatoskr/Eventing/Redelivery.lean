import Mathlib.Data.List.Induction
import Ratatoskr.Eventing.Conservation

/-! When a message that reached the bus without an acknowledgement is published again: the relay on
a clock, with the waits its backoff and its leases impose. -/
set_option linter.unusedSectionVars false

namespace Ratatoskr.Eventing

/-- `DUPLICATE_WINDOW` of the stream. -/
def duplicateWindowSeconds : Nat := 120

def duplicateWindow : Timestamp := duplicateWindowSeconds * 1000000000

/-- A publication with the instant of the pass that made it and the waits its row had behind it. -/
structure Receipt where
  publication : Publication
  claimedAt : Int
  waited : Nat

/-- The relay at an instant. `waited` sums up, for each row, the backoffs of its recorded failures
and a lease for every claim that lapsed. -/
structure Timed (κ τ : Type) where
  relay : Relay κ τ
  clock : Timestamp
  waited : Nat → Nat
  receipts : List Receipt

structure TimedAction (κ τ : Type) where
  instant : Timestamp
  action : RelayAction κ τ

/-- The messages a bus keeps that drops a repeated message id inside the window. -/
def busStores (sent : List Publication) : List Publication :=
  sent.foldl (fun kept publication =>
    if kept.any fun earlier => earlier.messageId == publication.messageId &&
        publication.instant < earlier.instant + duplicateWindow then kept
    else kept ++ [publication]) []

/-- When an unsettled row may be claimed. -/
def OutboxRow.dueAt (row : OutboxRow) : Int := row.claimedUntil.getD row.nextAttemptAt

namespace Timed

variable {κ τ : Type} [DecidableEq κ] [DecidableEq τ]

def initial : Timed κ τ := ⟨Relay.initial,0,fun _ => 0,[]⟩

/-- The wait that a step adds to those of a row. -/
def wait (s : Relay κ τ) (action : RelayAction κ τ) (outboxId : Nat) : Nat :=
  match action with
  | .claim _ claimedBy limit locked now =>
    if (Outbox.claim s.rows claimedBy limit locked now).isSome &&
        (Outbox.due s.rows limit locked (toOffset now)).contains outboxId &&
        s.rows.any fun row => row.outboxId == outboxId && row.claimedUntil.isSome then claimLeaseSeconds
    else 0
  | .mark process =>
    match s.passes process with
    | some ⟨_,_,message :: _,some (.failed _)⟩ =>
      if message.outboxId = outboxId then
        ((s.rows.find? fun row => row.outboxId == outboxId).map fun row => backoffSeconds row.attempts).getD 0
      else 0
    | _ => 0
  | _ => 0

/-- The receipt of a publish that reached the bus. -/
def received (s : Timed κ τ) : RelayAction κ τ → List Receipt
  | .publish process instant outcome =>
    match s.relay.passes process with
    | some ⟨_,now,message :: _,none⟩ =>
      if outcome.reached then
        [⟨⟨message.outboxId,message.messageId,instant,outcome == .acknowledged⟩,toOffset now,s.waited message.outboxId⟩]
      else []
    | _ => []
  | _ => []

/-- The clock, the waits and the receipts after an action that has brought the relay here. -/
def advance (s : Timed κ τ) (timed : TimedAction κ τ) (relay : Relay κ τ) : Timed κ τ where
  relay
  clock := timed.instant
  waited outboxId := s.waited outboxId + wait s.relay timed.action outboxId
  receipts := s.receipts ++ s.received timed.action

def step (s : Timed κ τ) (timed : TimedAction κ τ) : Option (Timed κ τ) :=
  (s.relay.step timed.action).map (s.advance timed)

/-- The condition on a step. The clock does not go back; a row that has reached the bus is claimed
again at the very instant it falls due; no pass publishes or marks after its lease; and what is
published again has not waited, with one lease, for the whole window since it reached the bus. -/
def Scheduled (s : Timed κ τ) (timed : TimedAction κ τ) : Prop :=
  s.clock ≤ timed.instant ∧
  match timed.action with
  | .claim _ _ limit locked now => now ≤ timed.instant ∧
      ∀ row ∈ s.relay.rows, row.outboxId ∈ Outbox.due s.relay.rows limit locked (toOffset now) →
        (∃ receipt ∈ s.receipts, receipt.publication.outboxId = row.outboxId) → toOffset now ≤ row.dueAt
  | .publish process instant outcome => instant = timed.instant ∧ ∀ claimedBy now message rest,
      s.relay.passes process = some ⟨claimedBy,now,message :: rest,none⟩ →
        toOffset instant < Outbox.leaseUntil now ∧
        (outcome.reached = true → ∀ receipt ∈ s.receipts, receipt.publication.outboxId = message.outboxId →
          s.waited message.outboxId + claimLeaseSeconds < receipt.waited + duplicateWindowSeconds)
  | .mark process => ∀ pass, s.relay.passes process = some pass → toOffset timed.instant < Outbox.leaseUntil pass.now
  | _ => True

instance decidableScheduled (s : Timed κ τ) (timed : TimedAction κ τ) : Decidable (Scheduled s timed) :=
  match timed with
  | ⟨instant,.claim _ _ limit locked now⟩ => inferInstanceAs (Decidable (s.clock ≤ instant ∧ now ≤ instant ∧
      ∀ row ∈ s.relay.rows, row.outboxId ∈ Outbox.due s.relay.rows limit locked (toOffset now) →
        (∃ receipt ∈ s.receipts, receipt.publication.outboxId = row.outboxId) → toOffset now ≤ row.dueAt))
  | ⟨instant,.publish process at_ outcome⟩ => decidable_of_iff (s.clock ≤ instant ∧ at_ = instant ∧
      ∀ pass ∈ s.relay.passes process, ∀ message ∈ pass.claimed.head?, pass.answer = none →
        toOffset at_ < Outbox.leaseUntil pass.now ∧
        (outcome.reached = true → ∀ receipt ∈ s.receipts, receipt.publication.outboxId = message.outboxId →
          s.waited message.outboxId + claimLeaseSeconds < receipt.waited + duplicateWindowSeconds)) <| by
    refine and_congr_right fun _ => and_congr_right fun _ => ⟨fun each claimedBy now message rest running => ?_,?_⟩
    · exact each _ running message rfl rfl
    · rintro each ⟨claimedBy,now,_ | ⟨message,rest⟩,answer⟩ running first named unanswered
      · cases named
      · obtain rfl := Option.some.inj named
        subst unanswered
        exact each claimedBy now message rest running
  | ⟨instant,.mark process⟩ => inferInstanceAs (Decidable (s.clock ≤ instant ∧
      ∀ pass ∈ s.relay.passes process, toOffset instant < Outbox.leaseUntil pass.now))
  | ⟨instant,.enqueue ..⟩ | ⟨instant,.commit ..⟩ | ⟨instant,.rollback ..⟩ | ⟨instant,.crash ..⟩ | ⟨instant,.collect ..⟩ =>
    inferInstanceAs (Decidable (s.clock ≤ instant ∧ True))

/-- Every later publication of a row comes within the window of every earlier one, and the bus
stores the message once. -/
structure WithinWindow (s : Timed κ τ) : Prop where
  soon : s.relay.sent.Pairwise fun earlier later =>
    earlier.outboxId = later.outboxId → later.instant < earlier.instant + duplicateWindow
  once : ∀ outboxId, ((busStores s.relay.sent).filter fun publication => publication.outboxId = outboxId).length ≤ 1

theorem leaseUntil_le (now : Timestamp) : Outbox.leaseUntil now ≤ toOffset now + seconds claimLeaseSeconds :=
  to_offset_add_le now (seconds claimLeaseSeconds) (by decide)

/-- Where the schedule has got to, counted from the claim behind a receipt. -/
def reach (s : Timed κ τ) (receipt : Receipt) : Int :=
  receipt.claimedAt + seconds (s.waited receipt.publication.outboxId) - seconds receipt.waited

theorem reach_advance (s : Timed κ τ) (timed : TimedAction κ τ) (relay : Relay κ τ) (receipt : Receipt) :
    s.reach receipt ≤ (s.advance timed relay).reach receipt := by
  simp only [reach,advance,seconds]
  omega

/-- The arithmetic of the window: a lease beyond a point of the schedule that lies less than the
window and a lease after the earlier publication. -/
theorem within_window (s : Timed κ τ) {earlier : Receipt} {now instant : Int} {outboxId : Nat}
    (leased : toOffset instant < toOffset now + seconds claimLeaseSeconds) (near : toOffset now ≤ s.reach earlier)
    (begun : earlier.claimedAt ≤ toOffset earlier.publication.instant)
    (soon : s.waited outboxId + claimLeaseSeconds < earlier.waited + duplicateWindowSeconds)
    (same : earlier.publication.outboxId = outboxId) :
    instant < earlier.publication.instant + duplicateWindow := by
  have fresh : instant < 1000 * toOffset instant + 1000 := (to_offset_close instant).1
  have old : 1000 * toOffset earlier.publication.instant < earlier.publication.instant + 1000 :=
    (to_offset_close earlier.publication.instant).2
  subst same
  simp only [reach,seconds,claimLeaseSeconds,duplicateWindowSeconds] at *
  change instant < earlier.publication.instant + 120000000000
  omega

/-- The pass still has its lease. -/
def Live (s : Timed κ τ) (pass : Pass) : Prop := toOffset s.clock < Outbox.leaseUntil pass.now

/-- What the schedule says of the rows and live passes of a message that has reached the bus: an
unsettled row falls due, and a live pass has begun, no later than the waits add up to. -/
structure Placed (s : Timed κ τ) (receipt : Receipt) : Prop where
  begun : receipt.claimedAt ≤ toOffset receipt.publication.instant
  row : ∀ row ∈ s.relay.rows, row.outboxId = receipt.publication.outboxId → row.publishedAt = none →
    row.deadLetteredAt = none → row.dueAt ≤ s.reach receipt + if row.claimedUntil.isSome then seconds claimLeaseSeconds else 0
  pass : ∀ process pass, s.relay.passes process = some pass → s.Live pass → ∀ message ∈ pass.claimed,
    message.outboxId = receipt.publication.outboxId → toOffset pass.now ≤ s.reach receipt

/-- What holds of the relay on a clock while it keeps to the schedule. -/
structure Timely (s : Timed κ τ) : Prop where
  sound : Relay.Sound s.relay
  mirrored : s.receipts.map Receipt.publication = s.relay.sent
  past : ∀ process pass, s.relay.passes process = some pass → pass.now ≤ s.clock
  distinct : ∀ process pass, s.relay.passes process = some pass → (pass.claimed.map ClaimedMessage.outboxId).Nodup
  /-- A live pass holds the rows of its messages. -/
  holds : ∀ process pass, s.relay.passes process = some pass → s.Live pass → ∀ message ∈ pass.claimed,
    ∀ row ∈ s.relay.rows, row.outboxId = message.outboxId →
      row.publishedAt = none ∧ row.deadLetteredAt = none ∧ row.claimedUntil = some (Outbox.leaseUntil pass.now)
  /-- No two live passes have a message of the same row. -/
  alone : ∀ process pass other pass', s.relay.passes process = some pass → s.relay.passes other = some pass' →
    s.Live pass → s.Live pass' → ∀ message ∈ pass.claimed, ∀ message' ∈ pass'.claimed,
      message.outboxId = message'.outboxId → process = other
  placed : ∀ receipt ∈ s.receipts, s.Placed receipt
  window : s.receipts.Pairwise fun earlier later => earlier.publication.outboxId = later.publication.outboxId →
    later.publication.instant < earlier.publication.instant + duplicateWindow

theorem initial_timely : Timely (initial : Timed κ τ) :=
  ⟨Relay.initial_sound,rfl,fun _ _ none_ => (by cases none_),fun _ _ none_ => (by cases none_),
    fun _ _ none_ => (by cases none_),fun _ _ _ _ none_ => (by cases none_),List.forall_mem_nil _,List.Pairwise.nil⟩

/-- Time and waits go on, and every pass was running before, with these messages and maybe more. -/
structure Onward (s next : Timed κ τ) : Prop where
  clock : s.clock ≤ next.clock
  waited : ∀ outboxId, s.waited outboxId ≤ next.waited outboxId
  passes : ∀ process pass, next.relay.passes process = some pass →
    ∃ old, s.relay.passes process = some old ∧ old.now = pass.now ∧ pass.claimed.Sublist old.claimed

section Onward

variable {s next : Timed κ τ}

theorem Onward.reach (onward : Onward s next) (receipt : Receipt) : s.reach receipt ≤ next.reach receipt := by
  have grown := onward.waited receipt.publication.outboxId
  simp only [Timed.reach,seconds]
  omega

theorem Onward.live (onward : Onward s next) {pass old : Pass} (same : old.now = pass.now) (live : next.Live pass) :
    s.Live old := by
  have late : toOffset next.clock < Outbox.leaseUntil pass.now := live
  exact (to_offset_mono onward.clock).trans_lt (same ▸ late)

variable (onward : Onward s next) (timely : Timely s)

include onward timely

theorem Onward.past (process : τ) (pass : Pass) (running : next.relay.passes process = some pass) : pass.now ≤ next.clock := by
  obtain ⟨old,ran,same,_⟩ := onward.passes process pass running
  exact same ▸ (timely.past process old ran).trans onward.clock

theorem Onward.distinct (process : τ) (pass : Pass) (running : next.relay.passes process = some pass) :
    (pass.claimed.map ClaimedMessage.outboxId).Nodup := by
  obtain ⟨old,ran,_,sub⟩ := onward.passes process pass running
  exact (sub.map _).nodup (timely.distinct process old ran)

theorem Onward.alone (process : τ) (pass : Pass) (other : τ) (pass' : Pass)
    (running : next.relay.passes process = some pass) (running' : next.relay.passes other = some pass')
    (live : next.Live pass) (live' : next.Live pass') (message : ClaimedMessage) (claimed : message ∈ pass.claimed)
    (message' : ClaimedMessage) (claimed' : message' ∈ pass'.claimed) (same : message.outboxId = message'.outboxId) :
    process = other := by
  obtain ⟨old,ran,sameNow,sub⟩ := onward.passes process pass running
  obtain ⟨old',ran',sameNow',sub'⟩ := onward.passes other pass' running'
  exact timely.alone process old other old' ran ran' (onward.live sameNow live) (onward.live sameNow' live') message
    (sub.subset claimed) message' (sub'.subset claimed') same

/-- A row as it was before still agrees with the schedule. -/
theorem Onward.row (receipt : Receipt) (member : receipt ∈ s.receipts) (row : OutboxRow) (stored : row ∈ s.relay.rows)
    (same : row.outboxId = receipt.publication.outboxId) (unpublished : row.publishedAt = none)
    (alive : row.deadLetteredAt = none) :
    row.dueAt ≤ next.reach receipt + if row.claimedUntil.isSome then seconds claimLeaseSeconds else 0 :=
  ((timely.placed receipt member).row row stored same unpublished alive).trans
    (Int.add_le_add_right (onward.reach receipt) _)

theorem Onward.pass (receipt : Receipt) (member : receipt ∈ s.receipts) (process : τ) (pass : Pass)
    (running : next.relay.passes process = some pass) (live : next.Live pass) (message : ClaimedMessage)
    (claimed : message ∈ pass.claimed) (same : message.outboxId = receipt.publication.outboxId) :
    toOffset pass.now ≤ next.reach receipt := by
  obtain ⟨old,ran,sameNow,sub⟩ := onward.passes process pass running
  have near := (timely.placed receipt member).pass process old ran (onward.live sameNow live) message (sub.subset claimed) same
  exact sameNow ▸ near.trans (onward.reach receipt)

end Onward

section Step

variable {s : Timed κ τ} (timely : Timely s)

include timely

/-- The row of a receipt has been committed. -/
theorem receipt_known (receipt : Receipt) (member : receipt ∈ s.receipts) :
    ∃ entry ∈ s.relay.journal, entry.outboxId = receipt.publication.outboxId := by
  have sent : receipt.publication ∈ s.relay.sent := timely.mirrored ▸ List.mem_map_of_mem member
  obtain ⟨entry,committed,same,_⟩ := timely.sound.sent _ sent
  exact ⟨entry,committed,same⟩

/-- A step that lets rows go, adds rows of new ids and puts receipts in their places. -/
theorem step_onward {next : Timed κ τ} (onward : Onward s next) (sound : Relay.Sound next.relay)
    (rows : ∀ row ∈ next.relay.rows, row ∈ s.relay.rows ∨ ∀ entry ∈ s.relay.journal, entry.outboxId ≠ row.outboxId)
    (more : List Receipt) (receipts : next.receipts = s.receipts ++ more)
    (mirrored : next.receipts.map Receipt.publication = next.relay.sent)
    (placed : ∀ receipt ∈ more, next.Placed receipt)
    (window : next.receipts.Pairwise fun earlier later => earlier.publication.outboxId = later.publication.outboxId →
      later.publication.instant < earlier.publication.instant + duplicateWindow) : Timely next := by
  refine ⟨sound,mirrored,onward.past timely,onward.distinct timely,?_,onward.alone timely,fun receipt member => ?_,window⟩
  · intro process pass running live message claimed row stored same
    obtain ⟨old,ran,sameNow,sub⟩ := onward.passes process pass running
    rcases rows row stored with known | new
    · exact sameNow ▸ timely.holds process old ran (onward.live sameNow live) message (sub.subset claimed) row known same
    · obtain ⟨entry,committed,sameId,_⟩ := (timely.sound.passes process old ran).known message (sub.subset claimed)
      exact absurd (sameId.trans same.symm) (new entry committed)
  · rw [receipts] at member
    rcases List.mem_append.mp member with earlier | new
    · refine ⟨(timely.placed receipt earlier).begun,fun row stored same unpublished alive => ?_,onward.pass timely receipt earlier⟩
      rcases rows row stored with known | fresh
      · exact onward.row timely receipt earlier row known same unpublished alive
      · obtain ⟨entry,committed,sameId⟩ := receipt_known timely receipt earlier
        exact absurd (sameId.trans same.symm) (fresh entry committed)
    · exact placed receipt new

/-- A claim on schedule: the passes that held its rows have lost their leases. -/
theorem claimed {process : τ} {claimedBy : String} {limit : Nat} {locked : List Nat} {now instant : Timestamp}
    {rows : List OutboxRow} {messages : List ClaimedMessage} (idle : s.relay.passes process = none)
    (taken : Outbox.claim s.relay.rows claimedBy limit locked now = some (rows,messages)) (onward : s.clock ≤ instant)
    (read : now ≤ instant)
    (prompt : ∀ row ∈ s.relay.rows, row.outboxId ∈ Outbox.due s.relay.rows limit locked (toOffset now) →
      (∃ receipt ∈ s.receipts, receipt.publication.outboxId = row.outboxId) → toOffset now ≤ row.dueAt) :
    Timely (s.advance ⟨instant,.claim process claimedBy limit locked now⟩
      ({ s.relay with rows }.setPass process (Pass.remaining claimedBy now messages))) := by
  obtain ⟨updated,made⟩ := (Outbox.claim_eq_some _ _ _ _ _ _ _).mp taken
  have sound := timely.sound.claimed taken process
  have farther (relay : Relay κ τ) := reach_advance s ⟨instant,.claim process claimedBy limit locked now⟩ relay
  have free (row : OutboxRow) (stored : row ∈ s.relay.rows)
      (chosen : row.outboxId ∈ Outbox.due s.relay.rows limit locked (toOffset now)) : Outbox.isDue (toOffset now) row = true := by
    obtain ⟨other,there,same,due⟩ := Outbox.mem_due _ _ _ _ _ chosen
    exact Rows.eq_of_key s.relay.rows OutboxRow.outboxId timely.sound.row_ids there stored same ▸ due
  -- whoever still holds a row keeps it from being due
  have spared (other : τ) (pass : Pass) (running : s.relay.passes other = some pass)
      (live : toOffset instant < Outbox.leaseUntil pass.now) (message : ClaimedMessage) (member : message ∈ pass.claimed)
      (row : OutboxRow) (stored : row ∈ s.relay.rows) (same : row.outboxId = message.outboxId) :
      row.outboxId ∉ Outbox.due s.relay.rows limit locked (toOffset now) := by
    intro chosen
    have held := (timely.holds other pass running ((to_offset_mono onward).trans_lt live) message member row stored same).2.2
    have lapsed := free row stored chosen
    simp only [Outbox.isDue,held,Option.all_some,Bool.and_eq_true,decide_eq_true_eq] at lapsed
    have clock := to_offset_mono read
    omega
  have ours (pass : Pass) (remaining : Pass.remaining claimedBy now messages = some pass) : pass.now = now ∧ pass.claimed = messages := by
    cases messages with
    | nil => cases remaining
    | cons message rest =>
      obtain rfl := Option.some.inj remaining
      exact ⟨rfl,rfl⟩
  have row_of (message : ClaimedMessage) (member : message ∈ messages) : ∃ row ∈ s.relay.rows,
      row.outboxId = message.outboxId ∧ row.outboxId ∈ Outbox.due s.relay.rows limit locked (toOffset now) := by
    rw [made] at member
    obtain ⟨row,selected,rfl⟩ := List.mem_map.mp member
    obtain ⟨stored,chosen⟩ := List.mem_filter.mp selected
    exact ⟨row,stored,rfl,by simpa using chosen⟩
  have foreign (other : τ) (own : other ≠ process) (pass : Pass)
      (running : ({ s.relay with rows }.setPass process (Pass.remaining claimedBy now messages)).passes other = some pass) :
      s.relay.passes other = some pass := (Relay.setPass_other _ _ _ _ own).symm.trans running
  have stored_of (row : OutboxRow) (stored : row ∈ rows) : row ∈ s.relay.rows ∧
        row.outboxId ∉ Outbox.due s.relay.rows limit locked (toOffset now) ∨
      ∃ old ∈ s.relay.rows, old.outboxId ∈ Outbox.due s.relay.rows limit locked (toOffset now) ∧
        row = Outbox.claimedRow claimedBy now old := by
    obtain ⟨old,known,rfl⟩ := (Rows.mem_update _ _ _ _ _ updated row).mp stored
    by_cases chosen : old.outboxId ∈ Outbox.due s.relay.rows limit locked (toOffset now)
    · exact Or.inr ⟨old,known,chosen,by simp [chosen]⟩
    · exact Or.inl (by simpa [chosen] using known)
  -- a row that has reached the bus is claimed where the schedule has got to
  have prompt_ (receipt : Receipt) (member : receipt ∈ s.receipts) (row : OutboxRow) (stored : row ∈ s.relay.rows)
      (same : row.outboxId = receipt.publication.outboxId)
      (chosen : row.outboxId ∈ Outbox.due s.relay.rows limit locked (toOffset now)) :
      toOffset now ≤ (s.advance ⟨instant,.claim process claimedBy limit locked now⟩
        ({ s.relay with rows }.setPass process (Pass.remaining claimedBy now messages))).reach receipt := by
    have due := free row stored chosen
    simp only [Outbox.isDue,Bool.and_eq_true,Option.isNone_iff_eq_none] at due
    have near := (timely.placed receipt member).row row stored same due.1.1.1 due.1.1.2
    have read_ := prompt row stored chosen ⟨receipt,member,same.symm⟩
    cases lapse : row.claimedUntil with
    | none =>
      have further := farther ({ s.relay with rows }.setPass process (Pass.remaining claimedBy now messages)) receipt
      simp only [lapse,Option.isSome_none,Bool.false_eq_true,if_false] at near
      omega
    | some until_ =>
      have waits : wait s.relay (.claim process claimedBy limit locked now) receipt.publication.outboxId = claimLeaseSeconds := by
        have lapsed : (s.relay.rows.any fun row => row.outboxId == receipt.publication.outboxId && row.claimedUntil.isSome) = true :=
          List.any_eq_true.mpr ⟨row,stored,by simp [same,lapse]⟩
        have listed := same ▸ List.contains_iff_mem.mpr chosen
        simp only [wait,taken,lapsed,listed,Option.isSome_some,Bool.and_self,if_true]
      simp only [lapse,Option.isSome_some,if_true,reach] at near
      simp only [reach,advance,waits,seconds] at near ⊢
      omega
  have same_receipts : (s.advance ⟨instant,.claim process claimedBy limit locked now⟩
      ({ s.relay with rows }.setPass process (Pass.remaining claimedBy now messages))).receipts = s.receipts := List.append_nil _
  refine ⟨sound,same_receipts ▸ timely.mirrored,fun other pass running => ?_,fun other pass running => ?_,?_,?_,
    fun receipt member => ?_,same_receipts ▸ timely.window⟩
  · by_cases own : other = process
    · subst own
      exact (ours pass ((Relay.setPass_self _ _ _).symm.trans running)).1 ▸ read
    · exact (timely.past other pass (foreign other own pass running)).trans onward
  · by_cases own : other = process
    · subst own
      rw [(ours pass ((Relay.setPass_self _ _ _).symm.trans running)).2,made,List.map_map]
      exact (List.filter_sublist.map _).nodup timely.sound.row_ids
    · exact timely.distinct other pass (foreign other own pass running)
  · intro other pass running live message member row stored same
    by_cases own : other = process
    · subst own
      obtain ⟨sameNow,sameMessages⟩ := ours pass ((Relay.setPass_self _ _ _).symm.trans running)
      obtain ⟨old,known,sameId,chosen⟩ := row_of message (sameMessages ▸ member)
      rcases stored_of row stored with ⟨_,unchosen⟩ | ⟨old',known',chosen',rfl⟩
      · exact absurd (same.trans sameId.symm ▸ chosen) unchosen
      · have due := free old' known' chosen'
        simp only [Outbox.isDue,Bool.and_eq_true,Option.isNone_iff_eq_none] at due
        exact ⟨due.1.1.1,due.1.1.2,sameNow ▸ rfl⟩
    · have ran := foreign other own pass running
      rcases stored_of row stored with ⟨known,_⟩ | ⟨old,known,chosen,rfl⟩
      · exact timely.holds other pass ran ((to_offset_mono onward).trans_lt live) message member row known same
      · exact absurd chosen (spared other pass ran live message member old known same)
  · intro first pass second pass' running running' live live' message member message' member' same
    by_cases own : first = process <;> by_cases own' : second = process
    · exact own.trans own'.symm
    · subst own
      obtain ⟨old,known,sameId,chosen⟩ := row_of message ((ours pass ((Relay.setPass_self _ _ _).symm.trans running)).2 ▸ member)
      exact absurd chosen (spared second pass' (foreign second own' pass' running') live' message' member' old known
        (sameId.trans same))
    · subst own'
      obtain ⟨old,known,sameId,chosen⟩ := row_of message' ((ours pass' ((Relay.setPass_self _ _ _).symm.trans running')).2 ▸ member')
      exact absurd chosen (spared first pass (foreign first own pass running) live message member old known
        (sameId.trans same.symm))
    · exact timely.alone first pass second pass' (foreign first own pass running) (foreign second own' pass' running')
        ((to_offset_mono onward).trans_lt live) ((to_offset_mono onward).trans_lt live') message member message' member' same
  · rw [same_receipts] at member
    refine ⟨(timely.placed receipt member).begun,fun row stored same unpublished alive => ?_,fun other pass running live message there same => ?_⟩
    · rcases stored_of row stored with ⟨known,_⟩ | ⟨old,known,chosen,rfl⟩
      · exact ((timely.placed receipt member).row row known same unpublished alive).trans
          (Int.add_le_add_right (farther _ receipt) _)
      · have start := prompt_ receipt member old known same chosen
        have lease := leaseUntil_le now
        simp only [OutboxRow.dueAt,Outbox.claimedRow,Option.getD_some,Option.isSome_some,if_true]
        exact lease.trans (Int.add_le_add_right start _)
    · by_cases own : other = process
      · subst own
        obtain ⟨sameNow,sameMessages⟩ := ours pass ((Relay.setPass_self _ _ _).symm.trans running)
        obtain ⟨old,known,sameId,chosen⟩ := row_of message (sameMessages ▸ there)
        rw [sameNow]
        exact prompt_ receipt member old known (sameId.trans same) chosen
      · exact ((timely.placed receipt member).pass other pass (foreign other own pass running)
          ((to_offset_mono onward).trans_lt live) message there same).trans (farther _ receipt)

theorem published {process : τ} {claimedBy : String} {now instant : Timestamp} {message : ClaimedMessage}
    {rest : List ClaimedMessage} (running : s.relay.passes process = some ⟨claimedBy,now,message :: rest,none⟩)
    (outcome : PublishOutcome) (onward : s.clock ≤ instant) (leased : toOffset instant < Outbox.leaseUntil now)
    (soon : outcome.reached = true → ∀ receipt ∈ s.receipts, receipt.publication.outboxId = message.outboxId →
      s.waited message.outboxId + claimLeaseSeconds < receipt.waited + duplicateWindowSeconds) :
    Timely (s.advance ⟨instant,.publish process instant outcome⟩
      ((s.relay.receive message instant outcome).setPass process (some ⟨claimedBy,now,message :: rest,some outcome.answer⟩))) := by
  have sound := timely.sound.published running instant outcome
  have onwards : Onward s (s.advance ⟨instant,.publish process instant outcome⟩
      ((s.relay.receive message instant outcome).setPass process (some ⟨claimedBy,now,message :: rest,some outcome.answer⟩))) := by
    refine ⟨onward,fun _ => Nat.le_add_right _ _,fun other pass found => ?_⟩
    by_cases own : other = process
    · subst own
      obtain rfl := Option.some.inj ((Relay.setPass_self _ _ _).symm.trans found)
      exact ⟨_,running,rfl,List.Sublist.refl _⟩
    · have kept := (Relay.setPass_other _ _ _ _ own).symm.trans found
      exact ⟨pass,by cases outcome <;> exact kept,rfl,List.Sublist.refl _⟩
  have rows : (s.relay.receive message instant outcome).rows = s.relay.rows := by cases outcome <;> rfl
  have live : s.Live ⟨claimedBy,now,message :: rest,none⟩ := (to_offset_mono onward).trans_lt leased
  refine step_onward timely onwards sound (fun row stored => Or.inl (rows ▸ stored)) _ rfl ?_ (fun receipt new => ?_) ?_
  · simp only [advance,List.map_append,timely.mirrored,received,running]
    cases outcome <;> simp [Relay.receive,Relay.setPass,PublishOutcome.reached]
  · obtain ⟨reached,rfl⟩ : outcome.reached = true ∧ receipt = ⟨⟨message.outboxId,message.messageId,instant,
        outcome == .acknowledged⟩,toOffset now,s.waited message.outboxId⟩ := by
      simp only [received,running] at new
      split at new
      · exact ⟨‹_›,List.mem_singleton.mp new⟩
      · cases new
    have here (relay : Relay κ τ) : (s.advance ⟨instant,.publish process instant outcome⟩ relay).reach
        ⟨⟨message.outboxId,message.messageId,instant,outcome == .acknowledged⟩,toOffset now,s.waited message.outboxId⟩ =
          toOffset now := by
      simp only [reach,advance,wait,Nat.add_zero]
      omega
    refine ⟨to_offset_mono ((timely.past process _ running).trans onward),fun row stored same _ _ => ?_,
      fun other pass found alive claimed member same => ?_⟩
    · have held := (timely.holds process _ running live message List.mem_cons_self row (rows ▸ stored) same).2.2
      rw [here,OutboxRow.dueAt,held]
      exact leaseUntil_le now
    · rw [here]
      obtain ⟨old,ran,sameNow,sub⟩ := onwards.passes other pass found
      have mine := timely.alone other old process _ ran running (onwards.live sameNow alive) live claimed (sub.subset member)
        message List.mem_cons_self same
      subst mine
      obtain rfl := Option.some.inj (running.symm.trans ran)
      exact (congrArg toOffset sameNow).ge
  · refine List.pairwise_append.mpr ⟨timely.window,?_,fun earlier member later new same => ?_⟩
    · simp only [received,running]
      split
      · exact List.pairwise_singleton _ _
      · exact List.Pairwise.nil
    · simp only [received,running] at new
      split at new
      · rename_i reached
        obtain rfl := List.mem_singleton.mp new
        have near := (timely.placed earlier member).pass process _ running live message List.mem_cons_self same.symm
        have begun := (timely.placed earlier member).begun
        exact within_window s (leased.trans_le (leaseUntil_le now)) near begun (soon reached earlier member same) same
      · cases new

theorem marked {process : τ} {claimedBy : String} {now instant : Timestamp} {message : ClaimedMessage}
    {rest : List ClaimedMessage} {answer : Answer} {rows : List OutboxRow}
    (running : s.relay.passes process = some ⟨claimedBy,now,message :: rest,some answer⟩)
    (recorded : Relay.record s.relay.rows message.outboxId now answer = some rows) (onward : s.clock ≤ instant)
    (leased : toOffset instant < Outbox.leaseUntil now) :
    Timely (s.advance ⟨instant,.mark process⟩ ({ s.relay with rows }.setPass process (Pass.remaining claimedBy now rest))) := by
  have sound := timely.sound.marked running recorded
  have live : s.Live ⟨claimedBy,now,message :: rest,some answer⟩ := (to_offset_mono onward).trans_lt leased
  have onwards : Onward s (s.advance ⟨instant,.mark process⟩
      ({ s.relay with rows }.setPass process (Pass.remaining claimedBy now rest))) := by
    refine ⟨onward,fun _ => Nat.le_add_right _ _,fun other pass found => ?_⟩
    by_cases own : other = process
    · subst own
      have remaining := (Relay.setPass_self _ _ _).symm.trans found
      refine ⟨_,running,?_⟩
      cases rest with
      | nil => cases remaining
      | cons following rest =>
        obtain rfl := Option.some.inj remaining
        exact ⟨rfl,List.sublist_cons_self _ _⟩
    · exact ⟨pass,(Relay.setPass_other _ _ _ _ own).symm.trans found,rfl,List.Sublist.refl _⟩
  -- a row that this statement changed is the one of its message
  have changed (row : OutboxRow) (stored : row ∈ rows) : row ∈ s.relay.rows ∧ row.outboxId ≠ message.outboxId ∨
      ∃ old ∈ s.relay.rows, old.outboxId = message.outboxId ∧ row.outboxId = message.outboxId ∧
        match answer with
        | .acknowledged => row.publishedAt = some (toOffset now)
        | .failed _ => row.claimedUntil = none ∧ row.nextAttemptAt = toOffset now + seconds (backoffSeconds old.attempts) := by
    cases answer <;>
    · obtain ⟨old,known,rfl⟩ := (Rows.mem_update _ _ _ _ _ recorded row).mp stored
      by_cases same : old.outboxId = message.outboxId
      · rw [if_pos (beq_iff_eq.mpr same)]
        exact Or.inr ⟨old,known,same,same,by simp [Outbox.publishedRow,Outbox.failedRow]⟩
      · rw [if_neg (by simpa using same)]
        exact Or.inl ⟨known,same⟩
  have same_receipts : (s.advance ⟨instant,.mark process⟩
      ({ s.relay with rows }.setPass process (Pass.remaining claimedBy now rest))).receipts = s.receipts := List.append_nil _
  refine ⟨sound,same_receipts ▸ timely.mirrored,onwards.past timely,onwards.distinct timely,?_,onwards.alone timely,
    fun receipt member => ?_,same_receipts ▸ timely.window⟩
  · intro other pass found alive claimed there row stored same
    obtain ⟨old,ran,sameNow,sub⟩ := onwards.passes other pass found
    rcases changed row stored with ⟨known,_⟩ | ⟨_,_,_,own,_⟩
    · exact sameNow ▸ timely.holds other old ran (onwards.live sameNow alive) claimed (sub.subset there) row known same
    · have mine := timely.alone other old process _ ran running (onwards.live sameNow alive) live claimed (sub.subset there)
        message List.mem_cons_self (same.symm.trans own)
      subst mine
      have unique := timely.distinct other _ running
      have remaining := (Relay.setPass_self _ _ _).symm.trans found
      have left : claimed ∈ rest := by
        cases rest with
        | nil => cases remaining
        | cons following rest =>
          obtain rfl := Option.some.inj remaining
          exact there
      exact absurd (List.mem_map_of_mem left) (same.symm.trans own ▸ (List.nodup_cons.mp unique).1)
  · rw [same_receipts] at member
    refine ⟨(timely.placed receipt member).begun,fun row stored same unpublished alive => ?_,onwards.pass timely receipt member⟩
    rcases changed row stored with ⟨known,_⟩ | ⟨old,known,sameId,own,how⟩
    · exact onwards.row timely receipt member row known same unpublished alive
    · cases answer with
      | acknowledged =>
        rw [unpublished] at how
        cases how
      | failed error =>
        obtain ⟨free,due⟩ := how
        have near := (timely.placed receipt member).pass process _ running live message List.mem_cons_self (own.symm.trans same)
        have first : (s.relay.rows.find? fun row => row.outboxId == message.outboxId) = some old :=
          sameId ▸ Rows.find_of_key s.relay.rows OutboxRow.outboxId timely.sound.row_ids old known
        have waits : wait s.relay (.mark process) message.outboxId = backoffSeconds old.attempts := by
          simp only [wait,running,if_true,first]
          rfl
        rw [OutboxRow.dueAt,free,Option.getD_none,due]
        have near : toOffset now ≤ receipt.claimedAt + seconds (s.waited message.outboxId) - seconds receipt.waited :=
          own ▸ same ▸ near
        simp only [reach,advance,← same,own,waits,seconds] at near ⊢
        simp only [Option.isSome_none,Bool.false_eq_true,if_false]
        omega

theorem step_timely (timed : TimedAction κ τ) (next : Timed κ τ) (scheduled : Scheduled s timed)
    (stepped : step s timed = some next) : Timely next := by
  obtain ⟨instant,action⟩ := timed
  obtain ⟨relay,relayed,rfl⟩ := Option.map_eq_some_iff.mp stepped
  obtain ⟨onward,scheduled⟩ := scheduled
  have sound := timely.sound.step action relay relayed
  have quiet (unsent : s.received action = [])
      (rows : ∀ row ∈ relay.rows, row ∈ s.relay.rows ∨ ∀ entry ∈ s.relay.journal, entry.outboxId ≠ row.outboxId)
      (passes : ∀ process pass, relay.passes process = some pass → s.relay.passes process = some pass)
      (sent : relay.sent = s.relay.sent) : Timely (s.advance ⟨instant,action⟩ relay) := by
    have same_receipts : (s.advance ⟨instant,action⟩ relay).receipts = s.receipts := by
      simp only [advance,unsent,List.append_nil]
    refine step_onward timely ⟨onward,fun _ => Nat.le_add_right _ _,
      fun process pass running => ⟨pass,passes process pass running,rfl,List.Sublist.refl _⟩⟩
      sound rows [] (same_receipts.trans (List.append_nil _).symm) ?_ (List.forall_mem_nil _) (same_receipts ▸ timely.window)
    rw [same_receipts,timely.mirrored]
    exact sent.symm
  have ended (process : τ) (other : τ) (pass : Pass) (running : (s.relay.setPass process none).passes other = some pass) :
      s.relay.passes other = some pass := by
    by_cases own : other = process
    · subst own
      rw [Relay.setPass_self] at running
      cases running
    · rwa [Relay.setPass_other _ _ _ _ own] at running
  cases Relay.step_cases s.relay relay action relayed with
  | refusedRow | conflict | drafted | rolledBack | refusedClaim =>
    exact quiet rfl (fun row stored => Or.inl stored) (fun _ _ running => running) rfl
  | committed transaction =>
    refine quiet rfl (fun row stored => (List.mem_append.mp stored).imp_right fun new entry committed => ?_)
      (fun _ _ running => running) rfl
    obtain ⟨draft,chosen,rfl⟩ := List.mem_map.mp new
    have apart := timely.sound.ids
    rw [List.map_append] at apart
    exact (List.nodup_append.mp apart).2.2 _ (List.mem_map_of_mem committed) _
      (List.mem_map_of_mem (List.mem_map_of_mem (List.mem_filter.mp chosen).1))
  | claimed process claimedBy limit locked now rows messages idle taken =>
    obtain ⟨read,prompt⟩ := scheduled
    exact claimed timely idle taken onward read prompt
  | published process at_ outcome claimedBy now message rest running =>
    obtain ⟨rfl,each⟩ := scheduled
    obtain ⟨leased,soon⟩ := each claimedBy now message rest running
    exact published timely running outcome onward leased soon
  | refusedMark process | crashed process =>
    exact quiet rfl (fun row stored => Or.inl stored) (ended process) rfl
  | marked process claimedBy now message rest answer rows running recorded =>
    exact marked timely running recorded onward (scheduled _ running)
  | collected before limit chosen =>
    exact quiet rfl (fun row stored => Or.inl (List.mem_filter.mp stored).1) (fun _ _ running => running) rfl

end Step

theorem run_timely (actions : List (TimedAction κ τ)) (s final : Timed κ τ) (timely : Timely s)
    (met : StateMachine.Along step Scheduled s actions) (ran : StateMachine.run step s actions = some final) :
    Timely final := by
  induction actions generalizing s with
  | nil => exact Option.some.inj ran ▸ timely
  | cons action actions ih =>
    obtain ⟨next,stepped,rest⟩ := (StateMachine.run_cons_eq_some _ _ _ _ _).mp ran
    exact ih next (step_timely timely action next met.1 stepped) (met.2 next stepped) rest

/-- What the bus keeps was sent, and of a row it keeps no second publication inside the window. -/
theorem busStores_once (sent : List Publication) (named : ∀ publication ∈ sent, ∀ other ∈ sent,
      publication.outboxId = other.outboxId → publication.messageId = other.messageId)
    (soon : sent.Pairwise fun earlier later =>
      earlier.outboxId = later.outboxId → later.instant < earlier.instant + duplicateWindow) :
    busStores sent ⊆ sent ∧
      ∀ outboxId, ((busStores sent).filter fun publication => publication.outboxId = outboxId).length ≤ 1 := by
  induction sent using List.reverseRecOn with
  | nil => exact ⟨List.Subset.refl _,fun _ => by simp [busStores]⟩
  | append_singleton earlier publication ih =>
    obtain ⟨before,_,near⟩ := List.pairwise_append.mp soon
    obtain ⟨sub,once⟩ := ih (fun one member other member' => named one (List.mem_append_left _ member) other
      (List.mem_append_left _ member')) before
    have unfolded : busStores (earlier ++ [publication]) =
        if (busStores earlier).any fun kept => kept.messageId == publication.messageId &&
            publication.instant < kept.instant + duplicateWindow then busStores earlier
        else busStores earlier ++ [publication] := by
      rw [busStores,List.foldl_append]
      rfl
    rw [unfolded]
    split
    · exact ⟨fun one member => List.mem_append_left _ (sub member),once⟩
    · rename_i missed
      refine ⟨fun one member => ?_,fun outboxId => ?_⟩
      · exact (List.mem_append.mp member).elim (fun kept => List.mem_append_left _ (sub kept)) (List.mem_append_right _)
      · rw [List.filter_append,List.length_append]
        by_cases same : publication.outboxId = outboxId
        · have none_ : ((busStores earlier).filter fun kept => kept.outboxId = outboxId) = [] := by
            refine List.filter_eq_nil_iff.mpr fun kept member => ?_
            simp only [decide_eq_true_eq]
            intro own
            have sameMessage := named kept (List.mem_append_left _ (sub member)) publication
              (List.mem_append_right _ List.mem_cons_self) (own.trans same.symm)
            have window := near kept (sub member) publication List.mem_cons_self (own.trans same.symm)
            exact missed (List.any_eq_true.mpr ⟨kept,member,by simp [sameMessage,window]⟩)
          rw [none_]
          simpa using List.length_filter_le _ [publication]
        · simpa [same] using once outboxId

/-- While the relay keeps to the schedule every repeated publication comes inside the window, and a
single failure is followed inside it exactly when at most six came before. -/
theorem republished_within_window (actions : List (TimedAction κ τ)) (s : Timed κ τ)
    (ran : StateMachine.run step initial actions = some s) (met : StateMachine.Along step Scheduled initial actions) :
    WithinWindow s ∧
      ∀ attempts < maxAttempts, backoffSeconds attempts + claimLeaseSeconds < duplicateWindowSeconds ↔ attempts ≤ 6 := by
  have timely := run_timely actions initial s initial_timely met ran
  have soon : s.relay.sent.Pairwise fun earlier later =>
      earlier.outboxId = later.outboxId → later.instant < earlier.instant + duplicateWindow := by
    rw [← timely.mirrored]
    exact List.pairwise_map.mpr timely.window
  refine ⟨⟨soon,(busStores_once s.relay.sent (fun one member other member' same => ?_) soon).2⟩,by decide⟩
  obtain ⟨entry,committed,sameId,sameMessage⟩ := timely.sound.sent one member
  obtain ⟨entry',committed',sameId',sameMessage'⟩ := timely.sound.sent other member'
  obtain rfl := Rows.eq_of_key s.relay.journal OutboxRow.outboxId timely.sound.journal_ids committed committed'
    (sameId.trans (same.trans sameId'.symm))
  exact sameMessage.symm.trans sameMessage'

section Late

/-- A pass whose publish goes like this, in one instant. -/
def passAt (seconds_ : Nat) (outcome : PublishOutcome) : List (TimedAction Unit Unit) :=
  let now : Timestamp := seconds_ * 1000000000
  [⟨now,.claim () "edge" 64 [] now⟩,⟨now,.publish () now outcome⟩,⟨now,.mark ()⟩]

/-- Seven refused publishes at their due instants; the eighth reaches the bus, but its
acknowledgement is lost; the ninth comes when it is due. -/
def lateRetry : List (TimedAction Unit Unit) :=
  [⟨0,.enqueue () 7 "cmd.content.capture.submit.v1" "{}" none 0⟩,⟨0,.commit ()⟩] ++
  [0,1,3,7,15,31,63].flatMap (fun due => passAt due (.refused .notAcknowledged)) ++
  passAt 127 (.lost .notAcknowledged) ++ passAt 255 .acknowledged

/-- No pass is late, and still the bus stores the message twice. -/
theorem retry_misses_window : ∃ s : Timed Unit Unit, StateMachine.run step initial lateRetry = some s ∧
    (busStores s.relay.sent).length = 2 ∧ ¬WithinWindow s := by
  have ran : ((StateMachine.run step initial lateRetry).map fun s : Timed Unit Unit =>
      (busStores s.relay.sent).length == 2 && (busStores s.relay.sent).all fun publication => publication.outboxId == 0) =
        some true := by decide +kernel
  obtain ⟨s,reached,stored⟩ := Option.map_eq_some_iff.mp ran
  obtain ⟨twice,same⟩ := Bool.and_eq_true_iff.mp stored
  have count : (busStores s.relay.sent).length = 2 := beq_iff_eq.mp twice
  refine ⟨s,reached,count,fun within => ?_⟩
  have once := within.once 0
  rw [List.filter_eq_self.mpr fun publication member => by simpa using List.all_eq_true.mp same publication member,count] at once
  omega

def promptRetry : List (TimedAction Unit Unit) :=
  [⟨0,.enqueue () 7 "cmd.content.capture.submit.v1" "{}" none 0⟩,⟨0,.commit ()⟩] ++
  passAt 0 (.lost .notAcknowledged) ++ passAt 1 .acknowledged

/-- A lost acknowledgement on the first publish is made up for a second later. -/
theorem prompt_retry_within_window : ∃ s : Timed Unit Unit, WithinWindow s ∧ s.relay.sent.length = 2 := by
  have met : StateMachine.Along step Scheduled initial promptRetry := by decide +kernel
  have ran : ((StateMachine.run step initial promptRetry).map fun s : Timed Unit Unit => s.relay.sent.length) = some 2 := by
    decide +kernel
  obtain ⟨s,reached,twice⟩ := Option.map_eq_some_iff.mp ran
  exact ⟨s,(republished_within_window promptRetry s reached met).1,twice⟩

end Late

end Timed

end Ratatoskr.Eventing
