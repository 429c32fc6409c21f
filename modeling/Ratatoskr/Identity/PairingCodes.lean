import Ratatoskr.Identity.Chains

/-! Pairing codes under any interleaving of creations and redemptions: a code is redeemed once, an owner
has one pending code, and a redemption that does not commit leaves nothing behind. -/
set_option linter.unusedSectionVars false

namespace Ratatoskr.Identity

open Transaction

def Granted.redeems (pairingCodeId : PairingCodeId) : Granted → Bool
  | .paired redeemed _ _ => redeemed == pairingCodeId
  | _ => false

/-- The device has the kind and the site its code pins, and the code's owner. -/
structure Device.Fits (device : Device) (code : PairingCode) : Prop where
  owner : device.userId = code.userId
  kind : ∀ pinned, code.expectedKind = some pinned → device.kind = pinned
  site : device.siteId = code.siteId

section Codes

variable {τ : Type} [DecidableEq τ]

/-- The commits that redeemed a code -/
def redemptionsOf (journal : List (Commit IdentityRow Granted τ)) (pairingCodeId : PairingCodeId) :
    List (Commit IdentityRow Granted τ) :=
  journal.filter fun entry => entry.value.redeems pairingCodeId

/-- What a commit that redeemed a code has left in the rows. -/
def Paired (value : Granted) (rows : Rows) : Prop :=
  ∀ pairingCodeId deviceId sessionId, value = .paired pairingCodeId deviceId sessionId →
    ∃ code device, rows (.pairingCode pairingCodeId) = some code ∧ code.pending = false ∧
      rows (.device deviceId) = some device ∧ device.Fits code

/-- What holds of the pairing codes of every pool. -/
structure CodesHold (job : τ → Job) (store : Rows) (pool : Pool IdentityRow Denial Granted τ) : Prop where
  once : ∀ pairingCodeId, (redemptionsOf pool.journal pairingCodeId).length ≤ 1
  pending : ∀ id other row otherRow, pool.committed (.pairingCode id) = some row →
    pool.committed (.pairingCode other) = some otherRow → row.pending = true → otherRow.pending = true →
    row.userId = otherRow.userId → id = other
  paired : ∀ entry ∈ pool.journal, Paired entry.value pool.committed
  /-- Only the commits have left something, and a redemption commits in no other way than by pairing. -/
  whole : pool.committed = Pool.replay store pool.journal
  refused : ∀ t request, job t = .pair request → (∀ value, pool.phase t ≠ .committed value) →
    ∀ entry ∈ pool.journal, entry.transaction ≠ t
  granted : ∀ t request value, job t = .pair request → pool.phase t = .committed value →
    ∃ pairingCodeId, value = .paired pairingCodeId request.deviceId request.sessionId

/-- What a redemption of the code it found answers names that code, and the device and the session it was
called with. -/
def PairRequest.Answers (r : PairRequest) (found : Option (PairingCodeId × PairingCode)) (outcome : Option Redeemed) : Prop :=
  ∀ redeemed, outcome = some redeemed → (∃ row, found = some (redeemed.pairingCodeId,row)) ∧
    redeemed.deviceId = r.deviceId ∧ redeemed.sessionId = r.sessionId

theorem redeem_returns (r : PairRequest) : ∃ rest, redeem r = (selectCode r.presented r.now).bind rest ∧
    ∀ found, Returns (r.Answers found) (rest found) := by
  refine ⟨_,rfl,fun found => ?_⟩
  simp only [Tx.bind_eq,Tx.pure_eq]
  cases found with
  | none => exact fun _ same => by cases same
  | some pair =>
    refine returns_bind_any _ _ fun refused => ?_
    cases refused with
    | true => exact fun _ same => by cases same
    | false =>
      refine returns_bind_any _ _ fun _ => returns_bind_any _ _ fun consumed => ?_
      cases consumed with
      | false => exact fun _ same => by cases same
      | true =>
        refine returns_bind_any _ _ fun _ => returns_bind_any _ _ fun _ => ?_
        rintro _ ⟨⟩
        exact ⟨⟨pair.2,rfl⟩,rfl,rfl⟩

theorem pair_returns (settings : Settings) (request : Pairing) :
    Returns (fun value => ∃ pairingCodeId, value = .paired pairingCodeId request.deviceId request.sessionId)
      (request.pair settings) := by
  rw [Pairing.pair]
  split
  · trivial
  rename_i body kind _
  obtain ⟨rest,same,answers⟩ := redeem_returns (request.request settings body kind)
  simp only [Tx.bind_eq,same,Tx.bind_assoc]
  refine returns_bind_any _ _ fun found => returns_bind _ _ (answers found) fun outcome own => ?_
  cases outcome with
  | none => trivial
  | some redeemed =>
    obtain ⟨_,device,session⟩ := own redeemed rfl
    refine returns_bind_any _ _ fun _ => ⟨redeemed.pairingCodeId,?_⟩
    rw [device,session]
    rfl

variable (settings : Settings) (job : τ → Job) {store : Rows} {pool : Pool IdentityRow Denial Granted τ}

/-- A redemption takes a code that is pending, and leaves it so no more. -/
theorem redeemed_once (valid : Consistent (tables store))
    (reached : Pool.Reachable constraints (fun t => (job t).program settings) store pool) (pairingCodeId : PairingCodeId) :
    (redemptionsOf pool.journal pairingCodeId).length ≤ 1 ∧ (redemptionsOf pool.journal pairingCodeId ≠ [] →
      ∃ code, pool.committed (.pairingCode pairingCodeId) = some code ∧ code.pending = false) := by
  refine (jobs_keep settings job).journal store valid (fun rows journal =>
    (redemptionsOf journal pairingCodeId).length ≤ 1 ∧ (redemptionsOf journal pairingCodeId ≠ [] →
      ∃ code, rows (.pairingCode pairingCodeId) = some code ∧ code.pending = false)) (by simp [redemptionsOf])
    (fun s journal t value drafts _ kept committed => ?_) pool reached
  obtain ⟨once,ended⟩ := kept
  have committed : Committed value (tables s) (tables (overlay drafts s)) := committed
  by_cases redeems : value.redeems pairingCodeId = true
  · obtain ⟨deviceId,sessionId,rfl⟩ : ∃ deviceId sessionId, value = .paired pairingCodeId deviceId sessionId := by
      cases value <;> simp_all [Granted.redeems]
    obtain ⟨_,_,after,code,_,stored,pending,_⟩ := committed.told
    -- the code was pending before, so no earlier commit redeemed it
    have none_ : redemptionsOf journal pairingCodeId = [] := by
      by_contra some_
      obtain ⟨other,there,closed⟩ := ended some_
      obtain rfl : code = other := Option.some.inj (stored.symm.trans there)
      simp [pending] at closed
    have appended : redemptionsOf (journal ++ [⟨t,.paired pairingCodeId deviceId sessionId,drafts⟩]) pairingCodeId =
        [⟨t,.paired pairingCodeId deviceId sessionId,drafts⟩] := by
      rw [redemptionsOf,List.filter_append,
        show journal.filter (fun entry => entry.value.redeems pairingCodeId) = [] from none_]
      simp [Granted.redeems]
    rw [appended]
    exact ⟨Nat.le_refl 1,fun _ => after⟩
  · have same : redemptionsOf (journal ++ [⟨t,value,drafts⟩]) pairingCodeId = redemptionsOf journal pairingCodeId := by
      simp [redemptionsOf,List.filter_append,redeems]
    rw [same]
    refine ⟨once,fun some_ => ?_⟩
    obtain ⟨code,stored,closed⟩ := ended some_
    obtain ⟨now,stored',moves⟩ := committed.advance.later.code pairingCodeId code stored
    exact ⟨now,stored',moves.ended closed⟩

theorem Paired.later {value : Granted} {rows later : Rows} (paired : Paired value rows)
    (moved : Later (tables rows) (tables later)) : Paired value later := by
  intro pairingCodeId deviceId sessionId same
  obtain ⟨code,device,stored,closed,registered,fits⟩ := paired pairingCodeId deviceId sessionId same
  obtain ⟨code',stored',moves⟩ := moved.code pairingCodeId code stored
  obtain ⟨device',registered',moves'⟩ := moved.device deviceId device registered
  refine ⟨code',device',stored',moves.ended closed,registered',?_,fun pinned expected => ?_,?_⟩
  · rw [moves'.userId,moves.userId,fits.owner]
  · rw [moves'.kind]
    exact fits.kind pinned (moves.expectedKind ▸ expected)
  · rw [moves'.siteId,moves.siteId,fits.site]

theorem paired_stays (valid : Consistent (tables store))
    (reached : Pool.Reachable constraints (fun t => (job t).program settings) store pool)
    (entry : Commit IdentityRow Granted τ) (member : entry ∈ pool.journal) : Paired entry.value pool.committed := by
  refine (jobs_keep settings job).journal store valid (fun rows journal => ∀ entry ∈ journal, Paired entry.value rows)
    (by simp) (fun s journal t value drafts _ kept committed entry member => ?_) pool reached entry member
  have committed : Committed value (tables s) (tables (overlay drafts s)) := committed
  rcases List.mem_append.mp member with old | new
  · exact (kept entry old).later committed.advance.later
  · obtain rfl := List.mem_singleton.mp new
    rintro pairingCodeId deviceId sessionId rfl
    obtain ⟨_,_,⟨after,stored,closed⟩,code,device,before,_,registered,owner,site,pinned⟩ := committed.told
    obtain ⟨now,there,moves⟩ := committed.advance.later.code pairingCodeId code before
    obtain rfl : after = now := Option.some.inj (stored.symm.trans there)
    refine ⟨after,device,stored,closed,registered,?_,fun kind expected => ?_,?_⟩
    · rw [owner,moves.userId]
    · have own : code.expectedKind = some kind := moves.expectedKind.symm.trans expected
      rw [own,Option.all_some] at pinned
      exact (eq_of_beq pinned).symm
    · rw [site,moves.siteId]

/-- The pairing codes of every pool, whatever is interleaved: each is redeemed once, each owner has one that
is pending, a redemption that does not commit leaves nothing, and one that does honours what was pinned. -/
theorem pairing_codes_hold (store : Rows) (valid : Consistent (tables store)) (pool : Pool IdentityRow Denial Granted τ)
    (reached : Pool.Reachable constraints (fun t => (job t).program settings) store pool) : CodesHold job store pool := by
  have consistent : Consistent (tables pool.committed) := ((jobs_keep settings job).sound store valid pool reached).invariant
  refine ⟨fun id => (redeemed_once settings job valid reached id).1,fun id other row otherRow stored stored' one two same => ?_,
    paired_stays settings job valid reached,Pool.committed_replay reached,fun t request own unended entry member same => ?_,
    fun t request value own ended => ?_⟩
  · have first := (consistent.indexed id row stored one).1
    have second := (consistent.indexed other otherRow stored' two).1
    rw [same,second] at first
    exact (Option.some.inj first).symm
  · exact unended entry.value (same ▸ Pool.committed_of_journal reached entry member)
  · have tends := Pool.returned (fun t value => ∀ request, job t = .pair request →
      ∃ pairingCodeId, value = .paired pairingCodeId request.deviceId request.sessionId) (fun t => ?_) reached t
    · rw [ended] at tends
      exact tends request own
    · cases job t with
      | pair request =>
        refine returns_mono _ (fun value pairs other same => ?_) (pair_returns settings request)
        cases same
        exact pairs
      | login | refresh | createCode | deleteDevice | revokeSession | revokeAll | touchSession | touchDevice | refuse =>
        exact returns_mono _ (fun _ _ _ same => by cases same) (returns_any _)

end Codes

section Sample

/-- An owner creates a code for a phone, and a device presents it. -/
def createCodeAt (now : Timestamp) : CodeCreation where
  toContext := sampleContext now 1
  principal := ⟨1,9,.browser⟩
  body := some ⟨some "mobile",none,none⟩
  owner := false
  code := sampleSettings.digestOf "code"
  pairingCodeId := 1

def pairAt (now : Timestamp) (kind : String) : Pairing where
  toContext := sampleContext now 2
  withinLimit := true
  body := ⟨64,some ⟨"code",kind,none⟩⟩
  deviceSecret := 5
  access := 6
  refresh := 7
  deviceId := 1
  sessionId := 1
  tokenId := 1

def pairingJob : Nat → Job
  | 0 => .createCode (createCodeAt 0)
  | _ => .pair (pairAt (hours 0 + 1000000) "mobile")

def pairingRun : List (Action Nat) :=
  .start 0 :: List.replicate 7 (.advance 0) ++ .start 1 :: List.replicate 13 (.advance 1)

def pairsOnce : Bool :=
  (StateMachine.run (Pool.step constraints fun t => (pairingJob t).program sampleSettings) (Pool.initial fun _ => none)
    pairingRun).any fun pool => pool.journal.any (·.value == .paired 1 1 1)

theorem pairing_codes_hold_of_pairing : ∃ (pool : Pool IdentityRow Denial Granted Nat) (entry : Commit IdentityRow Granted Nat),
    Pool.Reachable constraints (fun t => (pairingJob t).program sampleSettings) (fun _ => none) pool ∧
    entry ∈ pool.journal ∧ entry.value = .paired 1 1 1 ∧ CodesHold pairingJob (fun _ => none) pool := by
  have pairs : pairsOnce = true := by decide +kernel
  simp only [pairsOnce,Option.any_eq_true,List.any_eq_true,beq_iff_eq] at pairs
  obtain ⟨pool,ran,entry,member,paired⟩ := pairs
  exact ⟨pool,entry,⟨pairingRun,ran⟩,member,paired,
    pairing_codes_hold sampleSettings pairingJob (fun _ => none) consistent_empty pool ⟨pairingRun,ran⟩⟩

end Sample

end Ratatoskr.Identity
