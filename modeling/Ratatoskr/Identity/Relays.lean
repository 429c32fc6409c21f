import Ratatoskr.Identity.Tables
import Ratatoskr.Lib.Protocol

/-! The one-time records an OAuth callback is relayed through. A claim reads the record in the snapshot of
its statement and updates the version it locked; the code goes to one claim and is erased with it. -/
set_option linter.unusedSectionVars false

namespace Ratatoskr.Identity

open Transaction

inductive IdentityProvider where
  | telegram | gitHub | email
deriving DecidableEq

inductive CallbackOutcome where
  | code (code : String)
  | error (error : String)

/-- One row of `identity.oauth_relays` -/
structure OAuthRelay where
  provider : IdentityProvider
  claimGrant : String
  state : String
  code : Option String
  error : Option String
  receivedAt : Int
  expiresAt : Int
  claimedAt : Option Int
deriving DecidableEq

def OAuthRelay.checks (row : OAuthRelay) : Bool :=
  isDottedName row.claimGrant && lengthBetween 1 512 row.state && row.code.all (lengthBetween 1 2048) &&
  row.error.all (lengthBetween 1 200) && (row.code.isSome != row.error.isSome || row.claimedAt.isSome) &&
  row.receivedAt < row.expiresAt && row.claimedAt.all (row.receivedAt ≤ ·)

/-- What a claim hands over. -/
structure ClaimedRelay where
  provider : IdentityProvider
  state : String
  code : Option String
  error : Option String
deriving DecidableEq

/-- What a statement on the relays committed. -/
inductive Relayed where
  | received (relayId : RelayId) (row : OAuthRelay)
  | claimed (relayId : RelayId) (relay : ClaimedRelay)
  | unclaimed
  | collected (count : Nat)
deriving DecidableEq

abbrev RelayRows := Store fun _ : RelayId => OAuthRelay

/-- The CHECK constraints, and that a text column takes no NUL. -/
def relayConstraints : Constraints fun _ : RelayId => OAuthRelay := fun _ _ row =>
  row.checks && isText row.state && row.code.all isText && row.error.all isText

abbrev RelayStatement (α : Type) := Tx (fun _ : RelayId => OAuthRelay) Empty α

/-- A callback with the id it draws -/
structure Receipt where
  relayId : RelayId
  provider : IdentityProvider
  claimGrant : String
  state : String
  outcome : CallbackOutcome
  now : Timestamp
  ttl : Timestamp

def Receipt.row (receipt : Receipt) : OAuthRelay where
  provider := receipt.provider
  claimGrant := receipt.claimGrant
  state := receipt.state
  code := match receipt.outcome with
    | .code code => some code
    | .error _ => none
  error := match receipt.outcome with
    | .code _ => none
    | .error error => some error
  receivedAt := toOffset receipt.now
  expiresAt := toOffset (receipt.now + receipt.ttl)
  claimedAt := none

def receive (receipt : Receipt) : RelayStatement Relayed := do
  Tx.insertNew (ν := fun _ : RelayId => OAuthRelay) receipt.relayId receipt.row
  pure (.received receipt.relayId receipt.row)

/-- `held` is what the caller was found to hold. -/
structure Claim where
  relayId : RelayId
  held : List String
  now : Timestamp

def OAuthRelay.claimable (row : OAuthRelay) (claim : Claim) : Bool :=
  claim.held.contains row.claimGrant && row.claimedAt.isNone && toOffset claim.now < row.expiresAt

def OAuthRelay.disclosed (row : OAuthRelay) : ClaimedRelay := ⟨row.provider,row.state,row.code,row.error⟩

def OAuthRelay.claimed (row : OAuthRelay) (now : Timestamp) : OAuthRelay :=
  { row with claimedAt := some (toOffset now), code := none }

/-- The row of the snapshot is what is handed over. The update follows that row: it waits for whoever
holds it and evaluates `claimed_at is null` again on what was committed meanwhile, and a row that was
deposited since under the same id is another one. -/
def claim (request : Claim) : RelayStatement Relayed := do
  match ← Tx.select (ν := fun _ : RelayId => OAuthRelay) request.relayId with
  | none => pure .unclaimed
  | some target =>
    if target.claimable request then do
      let claimed ← Tx.updateWhere (ν := fun _ : RelayId => OAuthRelay) request.relayId
        (fun row => row.claimedAt.isNone && row == target) fun row => row.claimed request.now
      pure (if claimed then .claimed request.relayId target.disclosed else .unclaimed)
    else pure .unclaimed

/-- `delete .. where expires_at <= $1 and claimed_at is null` over the relays its scan visits. -/
def collectExpired (now : Timestamp) : List RelayId → RelayStatement Nat
  | [] => pure 0
  | relayId :: visited => do
    let gone ← Tx.deleteWhere (ν := fun _ : RelayId => OAuthRelay) relayId fun row =>
      row.expiresAt ≤ toOffset now && row.claimedAt.isNone
    let rest ← collectExpired now visited
    pure (if gone then rest + 1 else rest)

inductive RelayJob where
  | receive (receipt : Receipt)
  | claim (request : Claim)
  | collect (now : Timestamp) (visited : List RelayId)

def RelayJob.program : RelayJob → RelayStatement Relayed
  | receive receipt => Identity.receive receipt
  | claim request => Identity.claim request
  | collect now visited => do
    let count ← collectExpired now visited
    pure (.collected count)

section Commits

/-- A claimed relay holds no code. -/
def Erased (rows : RelayRows) : Prop :=
  ∀ relayId row, rows relayId = some row → row.claimedAt.isSome → row.code = none

/-- What a commit does to the relays, by its job and its answer. -/
inductive Settles (rows : RelayRows) : RelayJob → Relayed → RelayRows → Prop where
  | received (receipt : Receipt) (absent : rows receipt.relayId = none) :
      Settles rows (.receive receipt) (.received receipt.relayId receipt.row)
        (Function.update rows receipt.relayId (some receipt.row))
  | claimed (request : Claim) (row : OAuthRelay) (stored : rows request.relayId = some row)
      (claimable : row.claimable request = true) :
      Settles rows (.claim request) (.claimed request.relayId row.disclosed)
        (Function.update rows request.relayId (some (row.claimed request.now)))
  | unclaimed (request : Claim) : Settles rows (.claim request) .unclaimed rows
  | collected (now : Timestamp) (visited : List RelayId) (count : Nat) (after : RelayRows)
      (removed : ∀ relayId, after relayId = rows relayId ∨
        after relayId = none ∧ ∃ row, rows relayId = some row ∧ row.claimedAt = none) :
      Settles rows (.collect now visited) (.collected count) after

/-- A claimed relay never changes again. -/
def ClaimsStay (rows later : RelayRows) : Prop :=
  ∀ relayId row, rows relayId = some row → row.claimedAt.isSome → later relayId = some row

variable {rows after : RelayRows} {job : RelayJob} {value : Relayed}

theorem Settles.erased (settles : Settles rows job value after) (erased : Erased rows) : Erased after := by
  intro relayId row stored claimedAt
  cases settles with
  | received receipt absent =>
    by_cases same : relayId = receipt.relayId
    · subst same
      rw [Function.update_self] at stored
      obtain rfl := Option.some.inj stored
      cases claimedAt
    · exact erased relayId row ((Function.update_of_ne same _ _).symm.trans stored) claimedAt
  | claimed request old there claimable =>
    by_cases same : relayId = request.relayId
    · subst same
      rw [Function.update_self] at stored
      obtain rfl := Option.some.inj stored
      rfl
    · exact erased relayId row ((Function.update_of_ne same _ _).symm.trans stored) claimedAt
  | unclaimed => exact erased relayId row stored claimedAt
  | collected now visited count _ removed =>
    rcases removed relayId with same | ⟨gone,_⟩
    · exact erased relayId row (same ▸ stored) claimedAt
    · rw [gone] at stored
      cases stored

theorem Settles.stay (settles : Settles rows job value after) : ClaimsStay rows after := by
  intro relayId row stored claimedAt
  cases settles with
  | received receipt absent =>
    have different : relayId ≠ receipt.relayId := fun same => by
      rw [same,absent] at stored
      cases stored
    exact (Function.update_of_ne different _ _).trans stored
  | claimed request old there claimable =>
    have different : relayId ≠ request.relayId := fun same => by
      rw [same,there] at stored
      obtain rfl := Option.some.inj stored
      simp only [OAuthRelay.claimable,Bool.and_eq_true,Option.isNone_iff_eq_none] at claimable
      simp [claimable.1.2] at claimedAt
    exact (Function.update_of_ne different _ _).trans stored
  | unclaimed => exact stored
  | collected now visited count _ removed =>
    rcases removed relayId with same | ⟨_,other,there,open_⟩
    · exact same.trans stored
    · obtain rfl := Option.some.inj (stored.symm.trans there)
      simp [open_] at claimedAt

end Commits

section Protocol

variable {τ : Type} [DecidableEq τ] (job : τ → RelayJob)

def relayProtocol : Protocol (fun _ : RelayId => OAuthRelay) Empty Relayed τ where
  Invariant := Erased
  Rely := ClaimsStay
  Commits t value drafts rows := Settles rows (job t) value (overlay drafts rows)
  Abandons _ _ _ := True
  Refuses _ _ := True
  rely_refl _ _ _ stored _ := stored
  rely_trans _ _ _ first second relayId row stored claimedAt :=
    second relayId row (first relayId row stored claimedAt) claimedAt
  commit_invariant _ _ _ _ valid settles := settles.erased valid
  commit_rely _ _ _ _ _ settles := settles.stay
  abandon_stable _ _ _ _ _ _ := trivial

variable {job} {t : τ} {s : RelayRows}

theorem receive_safe (receipt : Receipt) (own : job t = .receive receipt) :
    (relayProtocol job).Safe relayConstraints t ((relayProtocol job).Commits t) (receive receipt) Drafts.none s := by
  simp only [receive,Tx.bind_eq,Tx.pure_eq]
  refine Protocol.Safe.insertKnown (Protocol.knows_nothing _ _) (by simp) (fun _ => trivial) (fun _ _ _ _ _ _ => trivial)
    fun s₁ env _ knows s₂ env' => ?_
  have absent : s₂ receipt.relayId = none := (knows.env env').of_mem receipt.relayId none (by simp)
  change Settles s₂ (job t) _ (overlay _ s₂)
  rw [own,overlay_put,overlay_none]
  exact .received receipt absent

theorem claim_safe (request : Claim) (own : job t = .claim request) :
    (relayProtocol job).Safe relayConstraints t ((relayProtocol job).Commits t) (claim request) Drafts.none s := by
  have nothing (s : RelayRows) : (relayProtocol job).Safe relayConstraints t ((relayProtocol job).Commits t)
      (.done .unclaimed) Drafts.none s := fun s' _ => by
    change Settles s' (job t) _ (overlay _ s')
    rw [own,overlay_none]
    exact .unclaimed request
  simp only [claim,Tx.bind_eq,Tx.pure_eq]
  refine Protocol.Safe.select fun s₁ env => ?_
  cases found : overlay Drafts.none s₁ request.relayId with
  | none => exact nothing s₁
  | some target =>
    by_cases claimable : target.claimable request = true
    · simp only [if_pos claimable]
      refine Protocol.Safe.updateKnown (Protocol.knows_nothing _ _) (by simp) (fun _ _ _ _ _ _ => trivial)
        (fun s₂ _ _ => nothing s₂) fun s₂ row env matched _ knows s₃ env' => ?_
      simp only [Bool.and_eq_true,beq_iff_eq] at matched
      obtain ⟨_,rfl⟩ := matched
      have stored : s₃ request.relayId = some row := (knows.env env').of_mem request.relayId _ (by simp)
      change Settles s₃ (job t) _ (overlay _ s₃)
      rw [own,overlay_put,overlay_none]
      exact .claimed request row stored claimable
    · simp only [if_neg claimable]
      exact nothing s₁

/-- What a sweep has done so far: it has removed relays that were not claimed. -/
def Removing (drafts : Drafts fun _ : RelayId => OAuthRelay) (rows : RelayRows) : Prop :=
  ∀ relayId, drafts relayId = none ∨
    drafts relayId = some (.written none) ∧ ∃ row, rows relayId = some row ∧ row.claimedAt = none

theorem Removing.env {drafts : Drafts fun _ : RelayId => OAuthRelay} {s s' : RelayRows} (removing : Removing drafts s)
    (env : (relayProtocol job).Env drafts s s') : Removing drafts s' := by
  intro relayId
  rcases removing relayId with free | ⟨written,row,stored,open_⟩
  · exact Or.inl free
  · exact Or.inr ⟨written,row,(env.2.2 relayId (by simp [written])).trans stored,open_⟩

theorem collect_safe (now : Timestamp) (visited rest : List RelayId) (own : job t = .collect now visited)
    (f : Nat → Relayed) (counts : ∀ count, ∃ total, f count = .collected total)
    (drafts : Drafts fun _ : RelayId => OAuthRelay) (removing : Removing drafts s) (valid : Erased s) :
    (relayProtocol job).Safe relayConstraints t ((relayProtocol job).Commits t)
      ((collectExpired now rest).bind fun count => .done (f count)) drafts s := by
  induction rest generalizing f drafts s with
  | nil =>
    intro s' env
    have removing := removing.env env
    obtain ⟨total,same⟩ := counts 0
    change Settles s' (job t) (f 0) (overlay drafts s')
    rw [own,same]
    refine .collected now visited total _ fun relayId => ?_
    rcases removing relayId with free | ⟨written,row,stored,open_⟩
    · exact Or.inl (overlay_free free s')
    · exact Or.inr ⟨by simp only [overlay,written],row,stored,open_⟩
  | cons relayId rest ih =>
    simp only [collectExpired,Tx.bind_eq,Tx.pure_eq,Tx.bind_assoc]
    refine Protocol.Safe.deleteWhere (fun s₁ env _ => ?_) fun s₁ row env found matched => ?_
    · exact ih _ (fun count => counts _) drafts (removing.env env) env.1
    · refine ih _ (fun count => counts _) _ (fun other => ?_) env.1
      have removing := removing.env env
      simp only [Bool.and_eq_true,Option.isNone_iff_eq_none] at matched
      by_cases same : other = relayId
      · subst same
        rcases removing other with free | ⟨written,_⟩
        · rw [overlay_free free] at found
          exact Or.inr ⟨put_self _ _ _,row,found,matched.2⟩
        · simp [overlay,written] at found
      · rw [put_of_ne _ _ _ _ same]
        exact removing other

theorem relay_jobs_keep (job : τ → RelayJob) : (relayProtocol job).Keeps relayConstraints fun t => (job t).program := by
  intro t s valid
  change (relayProtocol job).Safe relayConstraints t _ (job t).program Drafts.none s
  cases own : job t with
  | receive receipt => exact receive_safe receipt own
  | claim request => exact claim_safe request own
  | collect now visited =>
    exact collect_safe now visited visited own _ (fun count => ⟨count,rfl⟩) _ (fun _ => Or.inl rfl) valid

end Protocol

section Runs

variable {τ : Type} [DecidableEq τ] (job : τ → RelayJob) {store : RelayRows}
  {pool : Pool (fun _ : RelayId => OAuthRelay) Empty Relayed τ}

def Relayed.discloses (relayId : RelayId) : Relayed → Bool
  | .claimed other _ => other == relayId
  | _ => false

/-- The commits that handed a relay over -/
def disclosures (journal : List (Commit (fun _ : RelayId => OAuthRelay) Relayed τ)) (relayId : RelayId) :
    List (Commit (fun _ : RelayId => OAuthRelay) Relayed τ) :=
  journal.filter fun entry => entry.value.discloses relayId

/-- The row was there from the start, or a callback deposited it. -/
def Deposited (store : RelayRows) (journal : List (Commit (fun _ : RelayId => OAuthRelay) Relayed τ)) (relayId : RelayId)
    (row : OAuthRelay) : Prop :=
  store relayId = some row ∨ ∃ entry ∈ journal, entry.value = .received relayId row

/-- The claim that was answered held the grant of the deposited row, in time, and got its code. -/
structure Entitled (store : RelayRows) (journal : List (Commit (fun _ : RelayId => OAuthRelay) Relayed τ))
    (relayId : RelayId) (relay : ClaimedRelay) (request : Claim) (row : OAuthRelay) : Prop where
  asked : request.relayId = relayId
  deposited : Deposited store journal relayId row
  grant : row.claimGrant ∈ request.held
  unexpired : toOffset request.now < row.expiresAt
  disclosed : relay = row.disclosed

structure RelaysHold (store : RelayRows) (pool : Pool (fun _ : RelayId => OAuthRelay) Empty Relayed τ) : Prop where
  once : ∀ relayId, (disclosures pool.journal relayId).length ≤ 1
  erased : ∀ entry ∈ pool.journal, ∀ relayId relay, entry.value = .claimed relayId relay →
    ∃ row, pool.committed relayId = some row ∧ row.claimedAt.isSome ∧ row.code = none
  entitled : ∀ entry ∈ pool.journal, ∀ relayId relay, entry.value = .claimed relayId relay →
    ∃ request row, job entry.transaction = .claim request ∧ Entitled store pool.journal relayId relay request row

theorem Deposited.append {journal : List (Commit (fun _ : RelayId => OAuthRelay) Relayed τ)} {relayId : RelayId}
    {row : OAuthRelay} (deposited : Deposited store journal relayId row)
    (entry : Commit (fun _ : RelayId => OAuthRelay) Relayed τ) : Deposited store (journal ++ [entry]) relayId row := by
  rcases deposited with initial | ⟨earlier,member,received⟩
  · exact Or.inl initial
  · exact Or.inr ⟨earlier,List.mem_append_left _ member,received⟩

/-- A relay that is claimed has been handed over by one commit, which left it without its code. -/
theorem disclosed_once (valid : Erased store)
    (reached : Pool.Reachable relayConstraints (fun t => (job t).program) store pool) (relayId : RelayId) :
    (disclosures pool.journal relayId).length ≤ 1 ∧ (disclosures pool.journal relayId ≠ [] →
      ∃ row, pool.committed relayId = some row ∧ row.claimedAt.isSome ∧ row.code = none) := by
  refine (relay_jobs_keep job).journal store valid (fun rows journal =>
    (disclosures journal relayId).length ≤ 1 ∧ (disclosures journal relayId ≠ [] →
      ∃ row, rows relayId = some row ∧ row.claimedAt.isSome ∧ row.code = none)) (by simp [disclosures])
    (fun s journal t value drafts _ kept committed => ?_) pool reached
  obtain ⟨once,claimed⟩ := kept
  have settles : Settles s (job t) value (overlay drafts s) := committed
  by_cases discloses : value.discloses relayId = true
  · generalize overlay drafts s = after at settles ⊢
    generalize job t = task at settles
    cases settles with
    | claimed request row stored claimable =>
      obtain rfl : request.relayId = relayId := eq_of_beq discloses
      -- the relay was not claimed before, so no earlier commit handed it over
      have none_ : disclosures journal request.relayId = [] := by
        by_contra some_
        obtain ⟨other,there,taken,_⟩ := claimed some_
        obtain rfl := Option.some.inj (stored.symm.trans there)
        simp only [OAuthRelay.claimable,Bool.and_eq_true,Option.isNone_iff_eq_none] at claimable
        simp [claimable.1.2] at taken
      have appended : disclosures (journal ++ [⟨t,.claimed request.relayId row.disclosed,drafts⟩]) request.relayId =
          [⟨t,.claimed request.relayId row.disclosed,drafts⟩] := by
        rw [disclosures,List.filter_append,
          show journal.filter (fun entry => entry.value.discloses request.relayId) = [] from none_]
        simp [Relayed.discloses]
      rw [appended]
      exact ⟨Nat.le_refl 1,fun _ => ⟨_,Function.update_self _ _ _,rfl,rfl⟩⟩
    | received | unclaimed | collected => cases discloses
  · have same : disclosures (journal ++ [⟨t,value,drafts⟩]) relayId = disclosures journal relayId := by
      simp [disclosures,List.filter_append,discloses]
    rw [same]
    refine ⟨once,fun some_ => ?_⟩
    obtain ⟨row,stored,taken,erased⟩ := claimed some_
    exact ⟨row,settles.stay relayId row stored taken,taken,erased⟩

/-- What is stored and not claimed was deposited, and a claim hands over what it found stored. -/
theorem disclosed_to_entitled (valid : Erased store)
    (reached : Pool.Reachable relayConstraints (fun t => (job t).program) store pool) :
    (∀ relayId row, pool.committed relayId = some row → row.claimedAt = none → Deposited store pool.journal relayId row) ∧
    ∀ entry ∈ pool.journal, ∀ relayId relay, entry.value = .claimed relayId relay →
      ∃ request row, job entry.transaction = .claim request ∧ Entitled store pool.journal relayId relay request row := by
  refine (relay_jobs_keep job).journal store valid (fun rows journal =>
    (∀ relayId row, rows relayId = some row → row.claimedAt = none → Deposited store journal relayId row) ∧
    ∀ entry ∈ journal, ∀ relayId relay, entry.value = .claimed relayId relay →
      ∃ request row, job entry.transaction = .claim request ∧ Entitled store journal relayId relay request row)
    ⟨fun _ _ stored _ => Or.inl stored,by simp⟩ (fun s journal t value drafts _ kept committed => ?_) pool reached
  obtain ⟨deposited,entitled⟩ := kept
  have settles : Settles s (job t) value (overlay drafts s) := committed
  generalize overlay drafts s = after at settles
  generalize own : job t = task at settles
  have earlier (entry : Commit (fun _ : RelayId => OAuthRelay) Relayed τ) (member : entry ∈ journal) (relayId : RelayId)
      (relay : ClaimedRelay) (claimed : entry.value = .claimed relayId relay) : ∃ request row,
        job entry.transaction = .claim request ∧
          Entitled store (journal ++ [⟨t,value,drafts⟩]) relayId relay request row := by
    obtain ⟨request,row,asked,by_⟩ := entitled entry member relayId relay claimed
    exact ⟨request,row,asked,by_.asked,by_.deposited.append _,by_.grant,by_.unexpired,by_.disclosed⟩
  refine ⟨fun relayId row stored open_ => ?_,fun entry member relayId relay claimed => ?_⟩
  · cases settles with
    | received receipt absent =>
      by_cases same : relayId = receipt.relayId
      · subst same
        rw [Function.update_self] at stored
        obtain rfl := Option.some.inj stored
        exact Or.inr ⟨_,List.mem_append_right _ (List.mem_singleton.mpr rfl),rfl⟩
      · exact (deposited relayId row ((Function.update_of_ne same _ _).symm.trans stored) open_).append _
    | claimed request old there claimable =>
      by_cases same : relayId = request.relayId
      · subst same
        rw [Function.update_self] at stored
        obtain rfl := Option.some.inj stored
        cases open_
      · exact (deposited relayId row ((Function.update_of_ne same _ _).symm.trans stored) open_).append _
    | unclaimed => exact (deposited relayId row stored open_).append _
    | collected now visited count _ removed =>
      rcases removed relayId with same | ⟨gone,_⟩
      · exact (deposited relayId row (same.symm.trans stored) open_).append _
      · rw [gone] at stored
        cases stored
  · rcases List.mem_append.mp member with old | new
    · exact earlier entry old relayId relay claimed
    · obtain rfl := List.mem_singleton.mp new
      cases settles with
      | claimed request row stored claimable =>
        obtain ⟨rfl,rfl⟩ := Relayed.claimed.inj claimed
        simp only [OAuthRelay.claimable,Bool.and_eq_true,Option.isNone_iff_eq_none,List.contains_iff_mem,
          decide_eq_true_eq] at claimable
        exact ⟨request,row,own,rfl,(deposited _ row stored claimable.1.2).append _,claimable.1.1,claimable.2,rfl⟩
      | received | unclaimed | collected => cases claimed

/-- Whatever deposits, claims and sweeps are interleaved: a relay is handed over once, to a claim that
holds its grant, before its expiry, and its code is gone from then on. -/
theorem relays_hold (store : RelayRows) (valid : Erased store)
    (pool : Pool (fun _ : RelayId => OAuthRelay) Empty Relayed τ)
    (reached : Pool.Reachable relayConstraints (fun t => (job t).program) store pool) : RelaysHold job store pool := by
  refine ⟨fun relayId => (disclosed_once job valid reached relayId).1,fun entry member relayId relay claimed => ?_,
    (disclosed_to_entitled job valid reached).2⟩
  have listed : entry ∈ disclosures pool.journal relayId :=
    List.mem_filter.mpr ⟨member,by simp [claimed,Relayed.discloses]⟩
  exact (disclosed_once job valid reached relayId).2 (List.ne_nil_of_mem listed)

end Runs

section Sample

/-- A callback is deposited and two claims race for it. -/
def racingJob : Nat → RelayJob
  | 0 => .receive ⟨1,.gitHub,"oauth.claim.github","opaque",.code "secret",0,300000000000⟩
  | _ => .claim ⟨1,["oauth.claim.github"],1000000⟩

def racingRun : List (Action Nat) :=
  [.start 0,.advance 0,.advance 0,.start 1,.start 2,.advance 1,.advance 2,.advance 1,.advance 1,.advance 1,.advance 2,
    .advance 2]

def disclosesToOne : Bool :=
  (StateMachine.run (Pool.step relayConstraints fun t => (racingJob t).program) (Pool.initial fun _ => none)
    racingRun).any fun pool => pool.journal.map (·.value) ==
      [.received 1 ⟨.gitHub,"oauth.claim.github","opaque",some "secret",none,0,300000000,none⟩,
        .claimed 1 ⟨.gitHub,"opaque",some "secret",none⟩,.unclaimed]

theorem relays_hold_of_race : ∃ pool : Pool (fun _ : RelayId => OAuthRelay) Empty Relayed Nat,
    Pool.Reachable relayConstraints (fun t => (racingJob t).program) (fun _ => none) pool ∧
    (∃ entry ∈ pool.journal, entry.value = .claimed 1 ⟨.gitHub,"opaque",some "secret",none⟩) ∧
    RelaysHold racingJob (fun _ => none) pool := by
  have one : disclosesToOne = true := by decide +kernel
  simp only [disclosesToOne,Option.any_eq_true,beq_iff_eq] at one
  obtain ⟨pool,ran,values⟩ := one
  obtain ⟨entry,member,claimed⟩ := List.mem_map.mp (values ▸ List.mem_cons_of_mem _ List.mem_cons_self :
    Relayed.claimed 1 ⟨.gitHub,"opaque",some "secret",none⟩ ∈ pool.journal.map (·.value))
  exact ⟨pool,⟨racingRun,ran⟩,⟨entry,member,claimed⟩,
    relays_hold racingJob (fun _ => none) (fun _ _ stored => by cases stored) pool ⟨racingRun,ran⟩⟩

end Sample

end Ratatoskr.Identity
