import Ratatoskr.Identity.Relays
import Ratatoskr.Identity.Routes
import Ratatoskr.Lib.Text
import Ratatoskr.Lib.Triple

/-! The texts that a client chooses and the identity tables store: the checks of the handlers beside those of the
columns. A column takes no U+0000, which no handler looks for. -/
namespace Ratatoskr.Identity

open Transaction

section Callback

/-- The query of a callback -/
structure Callback where
  state : Option String
  code : Option String
  error : Option String

def maxState : Nat := 512
def maxCode : Nat := 2048
def maxError : Nat := 200

/-- The one outcome a callback carries, if it is within bounds. The bounds count bytes. -/
def Callback.bounded (query : Callback) : Option (String × CallbackOutcome) := do
  let state ← query.state
  if state.isEmpty || maxState < state.utf8ByteSize then none
  else
    match query.code,query.error with
    | some code,none => if !code.isEmpty && code.utf8ByteSize ≤ maxCode then some (state,.code code) else none
    | none,some error => if !error.isEmpty && error.utf8ByteSize ≤ maxError then some (state,.error error) else none
    | _,_ => none

def IdentityProvider.fromStrOpt : String → Option IdentityProvider
  | "telegram" => some .telegram
  | "github" => some .gitHub
  | "email" => some .email
  | _ => none

/-- The capability a caller must hold to claim this provider's callbacks. -/
def claimGrant : IdentityProvider → String
  | .telegram => "oauth.claim.telegram"
  | .gitHub => "oauth.claim.github"
  | .email => "oauth.claim.email"

def relayTtl : Timestamp := 300 * 1000000000

/-- A callback of the provider that the path names, with the id it draws -/
structure Redirect where
  provider : String
  query : Callback
  relayId : RelayId
  now : Timestamp

/-- `GET /v1/oauth/{provider}/callback` -/
def Redirect.callback (request : Redirect) : Tx (fun _ : RelayId => OAuthRelay) Denial Relayed :=
  match IdentityProvider.fromStrOpt request.provider with
  | none => .abandon .notFound
  | some provider =>
    match request.query.bounded with
    | none => .abandon .invalidRequest
    | some (state,outcome) =>
      (receive ⟨request.relayId,provider,claimGrant provider,state,outcome,request.now,relayTtl⟩).adapt Empty.elim id

end Callback

section Columns

/-- A bounded text column takes the text. -/
def columnTakes (most : Nat) (text : String) : Bool := lengthBetween 1 most text && isText text

/-- The columns for the texts of a client take those of the row. -/
def takesTexts : (key : IdentityTable) → IdentityRow key → Bool
  | .device _,row => row.displayName.all (columnTakes 120)
  | .pairingCode _,row => row.label.all (columnTakes 120)
  | _,_ => true

def takesRelayTexts (row : OAuthRelay) : Bool :=
  columnTakes 512 row.state && row.code.all (columnTakes 2048) && row.error.all (columnTakes 200)

variable {κ : Type} [DecidableEq κ] {ν : κ → Type}

/-- What a route promises of a request: no row that it inserts has a text the columns refuse, a healthy database
refuses none of its statements, and a bad text is answered as an invalid request. -/
structure Served (accepts : Constraints ν) (takes : (key : κ) → ν key → Bool) (healthy : Store ν → Prop) (bad : Prop)
    (route : Tx ν Denial α) : Prop where
  inserts : Inserts (fun key row => takes key row = true) route
  unrefused : ∀ store, healthy store → ∀ refusal, exec accepts route store ≠ .refused refusal
  answered : bad → ∀ store, exec accepts route store = .abandoned .invalidRequest

end Columns

section Creation

theorem to_offset_lt_add {now ttl : Timestamp} (long : 2000 ≤ ttl) : toOffset now < toOffset (now + ttl) := by
  have before := (to_offset_close now).2
  have after := (to_offset_close (now + ttl)).1
  simp only [Timestamp] at *
  omega

/-- What `pinned` makes of the kind that was read -/
def CreatePairingCode.pinnedTo (body : CreatePairingCode) (kind : Option DeviceKind) : Option (Option DeviceKind × Option String) :=
  if !isBoundedName body.label then none
  else
    match kind,body.siteId with
    | some .siteDeployer,some site => if isSiteId site then some (kind,some site) else none
    | some .siteDeployer,none => none
    | _,some _ => none
    | _,none => some (kind,none)

theorem pinned_eq_some {body : CreatePairingCode} {expectedKind : Option DeviceKind} {siteId : Option String}
    (pinned : body.pinned = some (expectedKind,siteId)) : isBoundedName body.label = true ∧
      (expectedKind == some .siteDeployer) = siteId.isSome ∧ siteId.all isSiteId = true := by
  have parsed (kind : Option DeviceKind) (rest : body.pinnedTo kind = some (expectedKind,siteId)) :
      isBoundedName body.label = true ∧ (expectedKind == some .siteDeployer) = siteId.isSome ∧ siteId.all isSiteId = true := by
    unfold CreatePairingCode.pinnedTo at rest
    split at rest
    · cases rest
    · rename_i bounded
      refine ⟨by simpa using bounded,?_⟩
      split at rest
      · split at rest
        · rename_i valid
          cases rest
          exact ⟨rfl,valid⟩
        · cases rest
      · cases rest
      · cases rest
      · rename_i other _
        cases rest
        exact ⟨by simpa using other,rfl⟩
  rw [CreatePairingCode.pinned] at pinned
  cases given : body.expectedKind with
  | none =>
    rw [given] at pinned
    exact parsed none pinned
  | some raw =>
    rw [given] at pinned
    obtain ⟨kind,_,rest⟩ := Option.bind_eq_some_iff.mp pinned
    exact parsed kind rest

/-- A name that the handlers take is not too long for its column. -/
theorem columnTakes_of_bounded {name : Option String} (bounded : isBoundedName name = true)
    (text : name.all isText = true) : name.all (columnTakes 120) = true := by
  cases name with
  | none => rfl
  | some name =>
    simp only [isBoundedName,Option.all_some,Bool.and_eq_true] at bounded text
    simp [columnTakes,bounded.1,text]

theorem text_of_columnTakes {name : Option String} {most : Nat} (taken : name.all (columnTakes most) = true) :
    name.all isText = true := by
  cases name with
  | none => rfl
  | some name =>
    simp only [Option.all_some,columnTakes,Bool.and_eq_true] at taken ⊢
    exact taken.2

theorem endPending_serves {pairingCodeId : PairingCodeId} {matching : PairingCode → Bool}
    {change : PairingCode → PairingCode} {rows : Rows} {row : PairingCode} {after : Bool → Rows → Prop}
    (stored : rows (.pairingCode pairingCodeId) = some row) (matched : (matching row && row.pending) = true)
    (taken : constraints (.pairingCode pairingCodeId) (some row) (change row) = true)
    (met : after true (Function.update (Function.update (Function.update rows (.pairingCode pairingCodeId)
      (some (change row))) (.codeHash row.codeHash) none) (.pendingCode row.userId) none)) :
    Serves constraints (endPending pairingCodeId matching change) rows after := by
  have found : (rows (.pairingCode pairingCodeId)).filter (fun row => matching row && row.pending) = some row := by
    rw [stored]
    exact Option.filter_eq_some_iff.mpr ⟨rfl,matched⟩
  refine serves_bind (fun value later => value = some row ∧ rows = later) (show _ ∧ _ from ⟨found,rfl⟩) ?_
  rintro _ _ ⟨rfl,rfl⟩
  exact serves_write (by rw [stored]; exact taken) met

/-- The rows a creation finds when nothing but its texts can be wrong: what it draws is new, and the index of the
pending codes names a pending code that is not of the future. -/
structure CodeCreation.Healthy (request : CodeCreation) (store : Rows) : Prop where
  code : store (.pairingCode request.pairingCodeId) = none
  digest : store (.codeHash request.code) = none
  event : store (.audit request.auditEventId) = none
  pending : ∀ id, store (.pendingCode request.principal.userId) = some id → ∃ row, store (.pairingCode id) = some row ∧
    row.pending = true ∧ row.userId = request.principal.userId ∧ row.createdAt ≤ toOffset request.now ∧
    constraints (.pairingCode id) none row = true

/-- The keys that a creation inserts are free. -/
structure CodeCreation.Free (request : CodeCreation) (rows : Rows) : Prop where
  code : rows (.pairingCode request.pairingCodeId) = none
  digest : rows (.codeHash request.code) = none
  event : rows (.audit request.auditEventId) = none
  owner : rows (.pendingCode request.principal.userId) = none

variable {request : CodeCreation} {store : Rows}

theorem superseded_checks {row : PairingCode} {now : Timestamp} (pending : row.pending = true)
    (past : row.createdAt ≤ toOffset now) (valid : row.checks = true) : (row.superseded now).checks = true := by
  simp only [PairingCode.pending,PairingCode.checks,PairingCode.superseded,Bool.and_eq_true,Option.isNone_iff_eq_none,
    decide_eq_true_eq] at *
  simp_all

theorem supersedePending_serves (healthy : request.Healthy store) :
    Serves constraints (supersedePending request.principal.userId request.now) store fun _ later => request.Free later := by
  refine serves_bind (fun value later => value = store (.pendingCode request.principal.userId) ∧ store = later)
    (show _ ∧ _ from ⟨rfl,rfl⟩) ?_
  rintro _ _ ⟨rfl,rfl⟩
  cases there : store (.pendingCode request.principal.userId) with
  | none => exact ⟨healthy.code,healthy.digest,healthy.event,there⟩
  | some id =>
    obtain ⟨row,stored,pending,owner,past,valid⟩ := healthy.pending id there
    simp only [constraints,Bool.and_eq_true] at valid
    have different : request.pairingCodeId ≠ id := by
      rintro rfl
      rw [healthy.code] at stored
      cases stored
    refine serves_bind (fun _ later => request.Free later) (endPending_serves stored (by simp [owner,pending]) ?_ ?_)
      fun _ _ free => free
    · simp only [constraints,superseded_checks pending past valid.1,Bool.true_and]
      exact valid.2
    · refine ⟨?_,?_,?_,?_⟩
      · simp [different,healthy.code]
      · by_cases same : request.code = row.codeHash
        · rw [Function.update_of_ne (by simp),← same]
          exact Function.update_self _ _ _
        · simp [same,healthy.digest]
      · simp [healthy.event]
      · rw [owner]
        exact Function.update_self _ _ _

theorem newCode_taken {body : CreatePairingCode} {expectedKind : Option DeviceKind} {siteId : Option String}
    (pinned : body.pinned = some (expectedKind,siteId)) (text : body.label.all isText = true) :
    constraints (.pairingCode request.pairingCodeId) none (request.newCode body expectedKind siteId).row = true := by
  obtain ⟨bounded,kind,site⟩ := pinned_eq_some pinned
  have label : body.label.all (lengthBetween 1 120) = true := by
    cases given : body.label with
    | none => rfl
    | some name =>
      simp only [given,isBoundedName,Option.all_some,Bool.and_eq_true] at bounded
      exact bounded.1
  have later : toOffset request.now < toOffset (request.now + pairingCodeTtl) := to_offset_lt_add (by decide)
  simp [constraints,PairingCode.checks,NewPairingCode.row,CodeCreation.newCode,kind,site,label,later,text]

theorem event_checks (context : Context) (actorUserId : Option UserId) (actorSessionId : Option SessionId)
    (action targetKind : String) (targetId : Option Nat) (outcome : AuditOutcome)
    (named : (lengthBetween 1 120 action && lengthBetween 1 60 targetKind) = true) :
    (context.event actorUserId actorSessionId action targetKind targetId outcome).checks = true := by
  simp only [AuditEvent.checks,Context.event,named,Bool.true_and]
  exact context.correlation.property

theorem createCode_serves {body : CreatePairingCode} {expectedKind : Option DeviceKind} {siteId : Option String}
    (healthy : request.Healthy store) (pinned : body.pinned = some (expectedKind,siteId))
    (text : body.label.all isText = true) :
    Serves constraints (createCode request.pairingCodeId (request.newCode body expectedKind siteId)) store
      fun _ later => later (.audit request.auditEventId) = none := by
  refine serves_bind (fun _ later => store = later) (show _ = _ from rfl) ?_
  rintro _ _ rfl
  refine serves_bind (fun _ later => request.Free later) (supersedePending_serves healthy) fun _ rows free => ?_
  refine serves_bind (fun _ later => later (.codeHash request.code) = none ∧
      later (.pendingCode request.principal.userId) = none ∧ later (.audit request.auditEventId) = none)
    (serves_insertNew _ _ (newCode_taken pinned text) free.code ?_) ?_
  · simp [free.digest,free.owner,free.event]
  · rintro _ rows ⟨digest,owner,event⟩
    refine serves_bind (fun _ later => later (.pendingCode request.principal.userId) = none ∧
      later (.audit request.auditEventId) = none) (serves_insertNew _ _ rfl digest ?_) ?_
    · simp [owner,event]
    · rintro _ rows ⟨owner,event⟩
      exact serves_insertNew _ _ rfl owner (by simp [event])

/-- A label that the handler or its column refuses, in a request that gets as far as its body. -/
def CodeCreation.Bad (request : CodeCreation) : Prop :=
  request.principal.kind ≠ .device ∧ ∃ body, request.body = some body ∧
    ¬(isBoundedName body.label = true ∧ body.label.all (columnTakes 120) = true)

/-- The label of a body that the handler takes holds no U+0000. -/
def CodeCreation.Plain (request : CodeCreation) : Prop :=
  request.principal.kind ≠ .device → ∀ body, request.body = some body → body.pinned.isSome = true →
    body.label.all isText = true

theorem supersedePending_inserts (allowed : (key : IdentityTable) → IdentityRow key → Prop) (userId : UserId)
    (now : Timestamp) : Inserts allowed (supersedePending userId now) := by
  refine inserts_bind _ _ _ (fun _ => trivial) fun found => ?_
  cases found with
  | none => trivial
  | some id =>
    refine inserts_bind _ _ _ (inserts_bind _ _ _ (fun _ => trivial) fun found => ?_) fun _ => trivial
    cases found <;> trivial

theorem createCode_inserts {pairingCodeId : PairingCodeId} {new : NewPairingCode}
    (taken : new.label.all (columnTakes 120) = true) :
    Inserts (fun key row => takesTexts key row = true) (createCode pairingCodeId new) := by
  refine inserts_bind _ _ _ (fun _ => trivial) fun _ => ?_
  refine inserts_bind _ _ _ (supersedePending_inserts _ _ _) fun _ => ?_
  refine inserts_bind _ _ _ (inserts_insertNew _ _ _ taken) fun _ => ?_
  exact inserts_bind _ _ _ (inserts_insertNew _ _ _ rfl) fun _ => inserts_insertNew _ _ _ rfl

/-- A creation is abandoned before its statements only. -/
theorem createCode_leaves (pairingCodeId : PairingCodeId) (new : NewPairingCode) :
    Leaves (fun _ => False) (createCode pairingCodeId new) := by
  refine leaves_bind _ _ (fun _ => trivial) fun _ => ?_
  refine leaves_bind _ _ (leaves_bind _ _ (fun _ => trivial) fun found => ?_) fun _ => ?_
  · cases found with
    | none => trivial
    | some id =>
      refine leaves_bind _ _ (leaves_bind _ _ (fun _ => trivial) fun found => ?_) fun _ => trivial
      cases found <;> trivial
  · refine leaves_bind _ _ (leaves_insertNew _ _) fun _ => ?_
    exact leaves_bind _ _ (leaves_insertNew _ _) fun _ => leaves_insertNew _ _

theorem createPairingCode_served (request : CodeCreation) :
    Served constraints takesTexts request.Healthy request.Bad request.createPairingCode ↔ request.Plain := by
  constructor
  · intro served reached body given pinned
    by_contra zero
    have bad : request.Bad := ⟨reached,body,given,fun fine => zero (text_of_columnTakes fine.2)⟩
    have answered := served.answered bad fun _ => none
    obtain ⟨⟨expectedKind,siteId⟩,pinned⟩ := Option.isSome_iff_exists.mp pinned
    rw [CodeCreation.createPairingCode,if_neg reached] at answered
    simp only [given,pinned] at answered
    split at answered
    · cases answered
    · refine exec_leaves constraints _ (fun _ => False) _ ?_ _ answered
      exact leaves_bind _ _ (createCode_leaves _ _) fun _ => leaves_bind _ _ (leaves_insertNew _ _) fun _ => trivial
  · intro plain
    refine ⟨?_,fun store healthy => ?_,?_⟩
    · rw [CodeCreation.createPairingCode]
      split
      · trivial
      rename_i reached
      split
      · trivial
      rename_i body given
      split
      · trivial
      rename_i expectedKind siteId pinned
      split
      · trivial
      have text := plain reached body given (by rw [pinned]; rfl)
      have taken := columnTakes_of_bounded (pinned_eq_some pinned).1 text
      refine inserts_bind _ _ _ (createCode_inserts taken) fun _ => ?_
      exact inserts_bind _ _ _ (inserts_insertNew _ _ _ rfl) fun _ => trivial
    · suffices serves : Serves constraints request.createPairingCode store fun _ _ => True from serves.unrefused
      rw [CodeCreation.createPairingCode]
      split
      · trivial
      rename_i reached
      split
      · trivial
      rename_i body given
      split
      · trivial
      rename_i expectedKind siteId pinned
      split
      · trivial
      have text := plain reached body given (by rw [pinned]; rfl)
      refine serves_bind _ (createCode_serves healthy pinned text) fun _ later free => ?_
      refine serves_bind (fun _ _ => True) (serves_insertNew _ _ ?_ free trivial) fun _ _ _ => trivial
      exact event_checks _ _ _ _ _ _ _ (by decide)
    · rintro ⟨reached,body,given,bad⟩ store
      have refused : body.pinned = none := by
        cases pinned : body.pinned with
        | none => rfl
        | some found =>
          obtain ⟨expectedKind,siteId⟩ := found
          have bounded := (pinned_eq_some pinned).1
          have text := plain reached body given (by rw [pinned]; rfl)
          exact absurd ⟨bounded,columnTakes_of_bounded bounded text⟩ bad
      rw [CodeCreation.createPairingCode,if_neg reached]
      simp only [given,refused]
      rfl

end Creation

section Redemption

/-- The rows a redemption finds when nothing but its name can be wrong: what it draws is new, the audience is one
of a listener, and the code that is presented is a row that its table takes and not of the future. -/
structure Pairing.Healthy (settings : Settings) (request : Pairing) (store : Rows) : Prop where
  device : store (.device request.deviceId) = none
  session : store (.session request.sessionId) = none
  link : store (.refreshToken request.refresh) = none
  event : store (.audit request.auditEventId) = none
  audience : (lengthBetween 1 120 settings.audience && !isSiteAudience settings.audience) = true
  codes : ∀ id row, store (.pairingCode id) = some row →
    constraints (.pairingCode id) none row = true ∧ row.createdAt ≤ toOffset request.now

/-- A name that the handler or its column refuses, in a request that gets as far as its name. -/
def Pairing.Bad (request : Pairing) : Prop :=
  request.withinLimit = true ∧ request.body.length ≤ 4096 ∧ ∃ body, request.body.parsed = some body ∧
    (body.code.isEmpty || 128 < body.code.utf8ByteSize) = false ∧
    ¬(isBoundedName body.displayName = true ∧ body.displayName.all (columnTakes 120) = true)

/-- The name of a body that the handler takes holds no U+0000. -/
def Pairing.Plain (request : Pairing) : Prop :=
  ∀ body kind, request.parse = .ok (body,kind) → body.displayName.all isText = true

variable {settings : Settings} {request : Pairing} {store : Rows}

theorem parse_eq_ok {body : PairDevice} {kind : DeviceKind} (parsed : request.parse = .ok (body,kind)) :
    request.withinLimit = true ∧ request.body.length ≤ 4096 ∧ request.body.parsed = some body ∧
      (body.code.isEmpty || 128 < body.code.utf8ByteSize) = false ∧ isBoundedName body.displayName = true := by
  rw [Pairing.parse] at parsed
  split at parsed
  · cases parsed
  rename_i within
  split at parsed
  · cases parsed
  rename_i short
  split at parsed
  · cases parsed
  rename_i given
  split at parsed
  · cases parsed
  rename_i presented
  split at parsed
  · cases parsed
  split at parsed
  · rename_i bounded
    cases parsed
    exact ⟨by simpa using within,Nat.not_lt.mp short,given,Bool.eq_false_iff.mpr presented,bounded⟩
  · cases parsed

theorem redeemable_eq {row : PairingCode} {presented : Digest} {now : Timestamp}
    (redeemable : row.redeemable presented now = true) : row.pending = true ∧ row.failedAttempts < 5 := by
  simp only [PairingCode.redeemable,Bool.and_eq_true,decide_eq_true_eq] at redeemable
  exact ⟨redeemable.1.1.2,redeemable.2⟩

theorem missed_checks {row : PairingCode} (more : row.failedAttempts < 5) (valid : row.checks = true) :
    row.missed.checks = true := by
  simp only [PairingCode.checks,PairingCode.missed,Bool.and_eq_true,decide_eq_true_eq] at valid ⊢
  obtain ⟨⟨⟨⟨⟨⟨⟨kind,site⟩,label⟩,lives⟩,_⟩,once⟩,superseded⟩,consumed⟩ := valid
  exact ⟨⟨⟨⟨⟨⟨⟨kind,site⟩,label⟩,decide_eq_true lives⟩,decide_eq_true more⟩,once⟩,superseded⟩,consumed⟩

theorem consumed_checks {row : PairingCode} {deviceId : DeviceId} {now : Timestamp} (pending : row.pending = true)
    (past : row.createdAt ≤ toOffset now) (valid : row.checks = true) : (row.consumed deviceId now).checks = true := by
  simp only [PairingCode.pending,PairingCode.checks,PairingCode.consumed,Bool.and_eq_true,Option.isNone_iff_eq_none,
    decide_eq_true_eq] at *
  simp_all

theorem selectCode_serves (presented : Digest) (now : Timestamp) :
    Serves constraints (selectCode presented now) store fun found later => store = later ∧
      ∀ id row, found = some (id,row) → store (.pairingCode id) = some row ∧ row.redeemable presented now = true := by
  refine serves_bind (fun value later => value = store (.codeHash presented) ∧ store = later)
    (show _ ∧ _ from ⟨rfl,rfl⟩) ?_
  rintro _ _ ⟨rfl,rfl⟩
  cases store (.codeHash presented) with
  | none => exact serves_done ⟨rfl,fun _ _ none_ => nomatch none_⟩
  | some id =>
    refine serves_bind (fun value later => value = (store (.pairingCode id)).filter
      (fun row => row.redeemable presented now) ∧ store = later) (show _ ∧ _ from ⟨rfl,rfl⟩) ?_
    rintro _ _ ⟨rfl,rfl⟩
    refine serves_done ⟨rfl,fun other row found => ?_⟩
    obtain ⟨taken,there,same⟩ := Option.map_eq_some_iff.mp found
    obtain ⟨rfl,rfl⟩ := Prod.mk.inj same
    exact Option.filter_eq_some_iff.mp there

/-- Unless the kind is refused the rows are as they were, and the kind is the one the code pins. -/
theorem kindRefused_serves {id : PairingCodeId} {row : PairingCode} (declared : DeviceKind)
    (stored : store (.pairingCode id) = some row) (more : row.failedAttempts < 5)
    (taken : constraints (.pairingCode id) none row = true) :
    Serves constraints (kindRefused id row declared) store fun refused later => refused = false →
      store = later ∧ (declared == .siteDeployer) = (row.expectedKind == some .siteDeployer) := by
  rw [kindRefused]
  cases pin : row.expectedKind with
  | none => exact serves_done fun free => ⟨rfl,by simpa using free⟩
  | some pinned =>
    dsimp only
    by_cases differs : pinned ≠ declared
    · rw [if_pos differs]
      refine serves_bind (fun _ _ => True) (serves_updateWhere _ _ _ (fun other there _ => ?_) trivial)
        fun _ _ _ => serves_done fun impossible => nomatch impossible
      obtain rfl : row = other := Option.some.inj (stored.symm.trans there)
      simp only [constraints,Bool.and_eq_true] at taken ⊢
      exact ⟨⟨missed_checks more taken.1,taken.2⟩,trivial⟩
    · rw [if_neg differs]
      obtain rfl : pinned = declared := Classical.not_not.mp differs
      exact serves_done fun _ => ⟨rfl,rfl⟩

theorem deviceRow_taken {row : PairingCode} {name : Option String} {declared : DeviceKind} (digest : Digest)
    (now : Timestamp) (id : PairingCodeId) (taken : constraints (.pairingCode id) none row = true)
    (pins : (declared == .siteDeployer) = (row.expectedKind == some .siteDeployer))
    (named : name.all (columnTakes 120) = true) (deviceId : DeviceId) :
    constraints (.device deviceId) none (NewDevice.row ⟨row.userId,declared,name,row.siteId⟩ digest now) = true := by
  simp only [constraints,PairingCode.checks,Bool.and_eq_true] at taken
  obtain ⟨⟨⟨⟨⟨⟨⟨⟨kind,site⟩,_⟩,_⟩,_⟩,_⟩,_⟩,_⟩,_⟩ := taken
  have lengths : name.all (lengthBetween 1 120) = true ∧ name.all isText = true := by
    cases name with
    | none => exact ⟨rfl,rfl⟩
    | some name => simpa [columnTakes] using named
  simp only [beq_iff_eq] at kind
  simp [constraints,Device.checks,NewDevice.row,pins,kind,site,lengths.1,lengths.2]

/-- The grant of a device, from the row of its code on -/
theorem grant_serves (r : PairRequest) (event : Nat) {id : PairingCodeId} {row : PairingCode} {rows : Rows}
    (stored : rows (.pairingCode id) = some row) (pending : row.pending = true) (past : row.createdAt ≤ toOffset r.now)
    (taken : constraints (.pairingCode id) none row = true) (device : Device)
    (registered : rows (.device r.deviceId) = some device) (fits : constraints (.device r.deviceId) none device = true)
    (session : rows (.session r.sessionId) = none) (link : rows (.refreshToken r.refreshToken) = none)
    (free : rows (.audit event) = none)
    (audience : (lengthBetween 1 120 r.audience && !isSiteAudience r.audience) = true)
    (lives : toOffset r.now < toOffset r.accessExpiresAt) (refreshes : toOffset r.now < toOffset r.refreshExpiresAt) :
    Serves constraints (do
      if ← endPending id (fun _ => true) fun row => row.consumed r.deviceId r.now then do
        createSession r.sessionId
          ⟨row.userId,.device,some r.deviceId,r.audience,some r.accessToken,r.now,r.accessExpiresAt⟩
        issueRefreshToken r.tokenId r.sessionId r.refreshToken r.now r.refreshExpiresAt
        pure (some (⟨row.userId,id,r.deviceId,r.sessionId⟩ : Redeemed))
      else pure none : Statements (Option Redeemed)) rows fun _ later => later (.audit event) = none := by
  simp only [constraints,Bool.and_eq_true] at taken
  refine serves_bind (fun ended later => later (.device r.deviceId) = some device ∧ later (.session r.sessionId) = none ∧
      later (.refreshToken r.refreshToken) = none ∧ later (.audit event) = none)
    (endPending_serves stored (by simpa using pending) ?_ ?_) ?_
  · simp only [constraints,consumed_checks pending past taken.1,Bool.true_and]
    exact taken.2
  · simp [registered,session,link,free]
  · rintro ended later ⟨registered,session,link,free⟩
    cases ended with
    | false => exact serves_done free
    | true =>
      simp only [Bool.and_eq_true,Bool.not_eq_true'] at audience
      refine serves_bind (fun _ later => later (.refreshToken r.refreshToken) = none ∧ later (.audit event) = none)
        (serves_bind (fun _ later => later (.device r.deviceId) = some device ∧
          later (.refreshToken r.refreshToken) = none ∧ later (.audit event) = none)
          (serves_insertNew _ _ ?_ session ?_) ?_) ?_
      · simp [constraints,Session.checks,NewSession.row,audience.1,audience.2,lives]
      · simp [registered,link,free]
      · rintro _ rows ⟨registered,link,free⟩
        refine serves_bind (fun found later => found = some device ∧ rows = later) (show _ ∧ _ from ⟨?_,rfl⟩) ?_
        · rw [registered]
          rfl
        · rintro _ _ ⟨rfl,rfl⟩
          refine serves_write (by rw [registered]; exact fits) (serves_done ?_)
          simp [link,free]
      · rintro _ rows ⟨link,free⟩
        refine serves_bind (fun _ later => later (.audit event) = none) (serves_insertNew _ _ ?_ link ?_) fun _ _ free =>
          serves_done free
        · simp [constraints,RefreshToken.checks,refreshLink,refreshes]
        · simp [free]

theorem redeem_serves (healthy : request.Healthy settings store) (body : PairDevice) (kind : DeviceKind)
    (named : body.displayName.all (columnTakes 120) = true) :
    Serves constraints (redeem (request.request settings body kind)) store
      fun outcome later => outcome.isSome = true → later (.audit request.auditEventId) = none := by
  refine serves_bind _ (selectCode_serves _ _) ?_
  rintro found _ ⟨rfl,selected⟩
  cases found with
  | none => exact serves_done fun impossible => nomatch impossible
  | some found =>
    obtain ⟨id,row⟩ := found
    obtain ⟨stored,redeemable⟩ := selected id row rfl
    obtain ⟨pending,more⟩ := redeemable_eq redeemable
    obtain ⟨taken,past⟩ := healthy.codes id row stored
    refine serves_bind _ (kindRefused_serves kind stored more taken) fun refused later unchanged => ?_
    cases refused with
    | true => exact serves_done fun impossible => nomatch impossible
    | false =>
      obtain ⟨rfl,pins⟩ := unchanged rfl
      have fits := deviceRow_taken request.deviceSecret request.now id taken pins named request.deviceId
      refine serves_bind (fun _ later => later = Function.update store (.device request.deviceId) (some _))
        (serves_insertNew _ _ fits healthy.device rfl) ?_
      rintro _ _ rfl
      refine Serves.weaken (grant_serves (request.request settings body kind) request.auditEventId
        (by simpa using stored) pending past taken _ (Function.update_self _ _ _) fits ?_ ?_ ?_ healthy.audience
        (to_offset_lt_add (by decide)) (to_offset_lt_add (by decide))) fun _ _ free _ => free
      · exact (Function.update_of_ne (by simp) _ _).trans healthy.session
      · exact (Function.update_of_ne (by simp) _ _).trans healthy.link
      · exact (Function.update_of_ne (by simp) _ _).trans healthy.event

theorem endPending_inserts (allowed : (key : IdentityTable) → IdentityRow key → Prop) (id : PairingCodeId)
    (matching : PairingCode → Bool) (change : PairingCode → PairingCode) :
    Inserts allowed (endPending id matching change) := by
  refine inserts_bind _ _ _ (fun _ => trivial) fun found => ?_
  cases found <;> trivial

theorem createSession_inserts (sessionId : SessionId) (new : NewSession) :
    Inserts (fun key row => takesTexts key row = true) (createSession sessionId new) := by
  refine inserts_bind _ _ _ (inserts_insertNew _ _ _ rfl) fun _ => ?_
  cases new.deviceId with
  | none => trivial
  | some deviceId =>
    refine inserts_bind _ _ _ (fun _ => trivial) fun found => ?_
    cases found <;> trivial

/-- A redemption inserts the device with its name, and no other text of the client. -/
theorem redeem_inserts {r : PairRequest} (named : r.displayName.all (columnTakes 120) = true) :
    Inserts (fun key row => takesTexts key row = true) (redeem r) := by
  refine inserts_bind _ _ _ (inserts_bind _ _ _ (fun _ => trivial) fun found => ?_) fun found => ?_
  · cases found with
    | none => trivial
    | some id => exact inserts_bind _ _ _ (fun _ => trivial) fun _ => trivial
  · cases found with
    | none => trivial
    | some found =>
      refine inserts_bind _ _ _ ?_ fun refused => ?_
      · rw [kindRefused]
        cases found.2.expectedKind with
        | none => trivial
        | some pinned =>
          dsimp only
          split
          · exact inserts_bind _ _ _ (inserts_updateWhere _ _ _ _) fun _ => trivial
          · trivial
      · cases refused with
        | true => trivial
        | false =>
          refine inserts_bind _ _ _ (inserts_insertNew _ _ _ named) fun _ => ?_
          refine inserts_bind _ _ _ (endPending_inserts _ _ _ _) fun ended => ?_
          cases ended with
          | false => trivial
          | true =>
            refine inserts_bind _ _ _ (createSession_inserts _ _) fun _ => ?_
            exact inserts_bind _ _ _ (inserts_insertNew _ _ _ rfl) fun _ => trivial

/-- No code is there to redeem. -/
theorem exec_pair_empty {body : PairDevice} {kind : DeviceKind} (parsed : request.parse = .ok (body,kind)) :
    exec constraints (request.pair settings) (fun _ => none) = .abandoned .unauthenticated := by
  rw [Pairing.pair,parsed]
  rfl

theorem pair_served (settings : Settings) (request : Pairing) :
    Served constraints takesTexts (request.Healthy settings) request.Bad (request.pair settings) ↔ request.Plain := by
  constructor
  · intro served body kind parsed
    by_contra zero
    have empty : exec constraints (request.pair settings) (fun _ => none) = .abandoned .unauthenticated :=
      exec_pair_empty parsed
    obtain ⟨within,short,given,presented,bounded⟩ := parse_eq_ok parsed
    rw [served.answered ⟨within,short,body,given,presented,fun fine => zero ?_⟩] at empty
    · cases empty
    · exact text_of_columnTakes fine.2
  · intro plain
    refine ⟨?_,fun store healthy => ?_,?_⟩
    · rw [Pairing.pair]
      split
      · trivial
      rename_i body kind parsed
      have named := columnTakes_of_bounded (parse_eq_ok parsed).2.2.2.2 (plain body kind parsed)
      refine inserts_bind _ _ _ (redeem_inserts (by exact named)) fun outcome => ?_
      cases outcome with
      | none => trivial
      | some redeemed => exact inserts_bind _ _ _ (inserts_insertNew _ _ _ rfl) fun _ => trivial
    · suffices serves : Serves constraints (request.pair settings) store fun _ _ => True from serves.unrefused
      rw [Pairing.pair]
      split
      · trivial
      rename_i body kind parsed
      have named := columnTakes_of_bounded (parse_eq_ok parsed).2.2.2.2 (plain body kind parsed)
      refine serves_bind _ (redeem_serves healthy body kind named) fun outcome later free => ?_
      cases outcome with
      | none => trivial
      | some redeemed =>
        refine serves_bind (fun _ _ => True) (serves_insertNew _ _ ?_ (free rfl) trivial) fun _ _ _ => trivial
        exact event_checks _ _ _ _ _ _ _ (by decide)
    · rintro ⟨within,short,body,given,presented,bad⟩ store
      have refused : request.parse = .error .invalidRequest := by
        cases known : DeviceKind.fromStrOpt body.kind with
        | none =>
          simp only [Pairing.parse,within,Nat.not_lt.mpr short,given,presented,known,Bool.not_true,Bool.false_eq_true,if_false]
        | some kind =>
          have parse : request.parse =
              if isBoundedName body.displayName then .ok (body,kind) else .error .invalidRequest := by
            simp only [Pairing.parse,within,Nat.not_lt.mpr short,given,presented,known,Bool.not_true,Bool.false_eq_true,
              if_false]
          by_cases bounded : isBoundedName body.displayName = true
          · rw [if_pos bounded] at parse
            exact absurd ⟨bounded,columnTakes_of_bounded bounded (plain body kind parse)⟩ bad
          · rw [parse,if_neg bounded]
      rw [Pairing.pair,refused]
      rfl

end Redemption

section Relayed

/-- The id that the callback draws is new. -/
def Redirect.Healthy (request : Redirect) (store : RelayRows) : Prop := store request.relayId = none

/-- A text of the query that the handler or its column refuses, for a provider that is served. -/
def Redirect.Bad (request : Redirect) : Prop :=
  (IdentityProvider.fromStrOpt request.provider).isSome = true ∧ (request.query.bounded = none ∨
    ¬(request.query.state.all (columnTakes 512) = true ∧ request.query.code.all (columnTakes 2048) = true ∧
      request.query.error.all (columnTakes 200) = true))

/-- The texts of a query that the handler takes hold no U+0000. -/
def Redirect.Plain (request : Redirect) : Prop :=
  (IdentityProvider.fromStrOpt request.provider).isSome = true → request.query.bounded.isSome = true →
    request.query.state.all isText = true ∧ request.query.code.all isText = true ∧ request.query.error.all isText = true

theorem lengthBetween_of_bytes {text : String} {most : Nat} (some_ : text.isEmpty = false)
    (short : text.utf8ByteSize ≤ most) : lengthBetween 1 most text = true := by
  have characters := Text.length_le_utf8ByteSize text
  have positive : 0 < text.length := by
    rw [Nat.pos_iff_ne_zero]
    intro zero
    rw [String.isEmpty_eq_false_iff] at some_
    exact some_ (String.length_eq_zero_iff.mp zero)
  simp only [lengthBetween,Bool.and_eq_true,decide_eq_true_eq]
  omega

/-- The row of a query that the handler takes has lengths that its columns take. -/
theorem bounded_eq_some {query : Callback} {state : String} {outcome : CallbackOutcome}
    (bounded : query.bounded = some (state,outcome)) : query.state = some state ∧ lengthBetween 1 512 state = true ∧
      ((∃ code, outcome = .code code ∧ query.code = some code ∧ query.error = none ∧ lengthBetween 1 2048 code = true) ∨
        ∃ error, outcome = .error error ∧ query.code = none ∧ query.error = some error ∧ lengthBetween 1 200 error = true) := by
  simp only [Callback.bounded,Option.bind_eq_bind,Option.bind_eq_some_iff] at bounded
  obtain ⟨own,given,bounded⟩ := bounded
  split at bounded
  · cases bounded
  rename_i within
  simp only [Bool.or_eq_true,decide_eq_true_eq,not_or,Bool.not_eq_true,Nat.not_lt] at within
  have stated : lengthBetween 1 512 own = true := lengthBetween_of_bytes within.1 within.2
  split at bounded
  · rename_i code coded unfailed
    split at bounded
    · rename_i fits
      simp only [Bool.and_eq_true,Bool.not_eq_true',decide_eq_true_eq] at fits
      cases bounded
      exact ⟨given,stated,Or.inl ⟨code,rfl,coded,unfailed,lengthBetween_of_bytes fits.1 fits.2⟩⟩
    · cases bounded
  · rename_i error uncoded failed
    split at bounded
    · rename_i fits
      simp only [Bool.and_eq_true,Bool.not_eq_true',decide_eq_true_eq] at fits
      cases bounded
      exact ⟨given,stated,Or.inr ⟨error,rfl,uncoded,failed,lengthBetween_of_bytes fits.1 fits.2⟩⟩
    · cases bounded
  · cases bounded

/-- The row that a redirect deposits -/
def Redirect.receipt (request : Redirect) (provider : IdentityProvider) (state : String) (outcome : CallbackOutcome) :
    Receipt :=
  ⟨request.relayId,provider,claimGrant provider,state,outcome,request.now,relayTtl⟩

/-- The columns take the texts of the query exactly when they hold no U+0000. -/
theorem takesRelayTexts_iff {request : Redirect} {provider : IdentityProvider} {state : String} {outcome : CallbackOutcome}
    (bounded : request.query.bounded = some (state,outcome)) :
    takesRelayTexts (request.receipt provider state outcome).row = true ↔ request.query.state.all isText = true ∧
      request.query.code.all isText = true ∧ request.query.error.all isText = true := by
  obtain ⟨stated,short,⟨code,rfl,coded,failed,within⟩ | ⟨error,rfl,coded,failed,within⟩⟩ := bounded_eq_some bounded
  · simp [takesRelayTexts,columnTakes,Redirect.receipt,Receipt.row,stated,coded,failed,short,within]
  · simp [takesRelayTexts,columnTakes,Redirect.receipt,Receipt.row,stated,coded,failed,short,within]

theorem receipt_taken {request : Redirect} {provider : IdentityProvider} {state : String} {outcome : CallbackOutcome}
    (bounded : request.query.bounded = some (state,outcome))
    (taken : takesRelayTexts (request.receipt provider state outcome).row = true) (relayId : RelayId) :
    relayConstraints relayId none (request.receipt provider state outcome).row = true := by
  have lives : toOffset request.now < toOffset (request.now + relayTtl) := to_offset_lt_add (by decide)
  have granted : isDottedName (claimGrant provider) = true := by cases provider <;> decide
  obtain ⟨_,_,⟨code,rfl,_,_,_⟩ | ⟨error,rfl,_,_,_⟩⟩ := bounded_eq_some bounded
  · simp [takesRelayTexts,columnTakes,Redirect.receipt,Receipt.row] at taken
    simp [relayConstraints,OAuthRelay.checks,Redirect.receipt,Receipt.row,granted,lives,taken]
  · simp [takesRelayTexts,columnTakes,Redirect.receipt,Receipt.row] at taken
    simp [relayConstraints,OAuthRelay.checks,Redirect.receipt,Receipt.row,granted,lives,taken]

theorem callback_served (request : Redirect) :
    Served relayConstraints (fun _ => takesRelayTexts) request.Healthy request.Bad request.callback ↔ request.Plain := by
  constructor
  · intro served known bounded
    by_contra zero
    obtain ⟨provider,known⟩ := Option.isSome_iff_exists.mp known
    obtain ⟨⟨state,outcome⟩,bounded⟩ := Option.isSome_iff_exists.mp bounded
    have answered := served.answered ⟨by rw [known]; rfl,Or.inr fun fine => zero ⟨text_of_columnTakes fine.1,
      text_of_columnTakes fine.2.1,text_of_columnTakes fine.2.2⟩⟩ fun _ => none
    simp only [Redirect.callback,known,bounded] at answered
    rw [exec_adapt] at answered
    cases ended : exec relayConstraints (receive (request.receipt provider state outcome)) fun _ => none with
    | abandoned answer => exact nomatch answer
    | done | refused =>
      rw [Redirect.receipt] at ended
      rw [ended] at answered
      cases answered
  · intro plain
    have deposits {provider : IdentityProvider} {state : String} {outcome : CallbackOutcome}
        (known : IdentityProvider.fromStrOpt request.provider = some provider)
        (bounded : request.query.bounded = some (state,outcome)) :
        takesRelayTexts (request.receipt provider state outcome).row = true :=
      (takesRelayTexts_iff bounded).mpr (plain (by rw [known]; rfl) (by rw [bounded]; rfl))
    refine ⟨?_,fun store healthy => ?_,?_⟩
    · rw [Redirect.callback]
      split
      · trivial
      rename_i provider known
      split
      · trivial
      rename_i state outcome bounded
      refine inserts_adapt _ _ _ _ ?_
      exact inserts_bind _ _ _ (inserts_insertNew _ _ _ (deposits known bounded)) fun _ => trivial
    · suffices serves : Serves relayConstraints request.callback store fun _ _ => True from serves.unrefused
      rw [Redirect.callback]
      split
      · trivial
      rename_i provider known
      split
      · trivial
      rename_i state outcome bounded
      have taken := receipt_taken bounded (deposits known bounded) request.relayId
      rw [Serves,exec_adapt]
      have ended : exec relayConstraints (receive (request.receipt provider state outcome)) store =
          .done (.received request.relayId (request.receipt provider state outcome).row) _ :=
        (exec_bind_done _ _ _ _ _ _).mpr ⟨(),_,(exec_insertNew_done _ _ _ _ _ _).mpr ⟨taken,healthy,rfl⟩,rfl⟩
      rw [Redirect.receipt] at ended
      rw [ended]
      trivial
    · rintro ⟨known,bad⟩ store
      obtain ⟨provider,named⟩ := Option.isSome_iff_exists.mp known
      have refused : request.query.bounded = none := by
        cases bounded : request.query.bounded with
        | none => rfl
        | some found =>
          obtain ⟨state,outcome⟩ := found
          rw [bounded] at bad
          refine absurd (bad.resolve_left (by simp)) (Classical.not_not.mpr ?_)
          obtain ⟨texts,codes,errors⟩ := plain known (by rw [bounded]; rfl)
          obtain ⟨stated,short,⟨code,_,coded,failed,within⟩ | ⟨error,_,coded,failed,within⟩⟩ := bounded_eq_some bounded
          · simp_all [columnTakes]
          · simp_all [columnTakes]
      simp only [Redirect.callback,named,refused]
      rfl

/-- The routes that store texts of a client keep their promises exactly for the requests in which the texts that
their handlers take hold no U+0000. -/
theorem texts_stored_iff (settings : Settings) :
    (∀ request : CodeCreation,
      Served constraints takesTexts request.Healthy request.Bad request.createPairingCode ↔ request.Plain) ∧
    (∀ request : Pairing,
      Served constraints takesTexts (request.Healthy settings) request.Bad (request.pair settings) ↔ request.Plain) ∧
    ∀ request : Redirect,
      Served relayConstraints (fun _ => takesRelayTexts) request.Healthy request.Bad request.callback ↔ request.Plain :=
  ⟨createPairingCode_served,pair_served settings,callback_served⟩

/-- The query `?state=%00&code=c` -/
def zeroRedirect : Redirect := ⟨"github",⟨some "\x00",some "c",none⟩,1,0⟩

def isFailure {κ : Type} {ν : κ → Type} {β α : Type} : Outcome ν β α → Bool
  | .refused _ => true
  | _ => false

/-- A state of U+0000 passes the handler and is refused by the column, on a database without fault. -/
theorem zero_state_is_refused : ∃ request : Redirect, request.query.bounded.isSome = true ∧
    request.Healthy (fun _ => none) ∧ isFailure (exec relayConstraints request.callback fun _ => none) = true ∧
    ¬Served relayConstraints (fun _ => takesRelayTexts) request.Healthy request.Bad request.callback := by
  have refused : isFailure (exec relayConstraints zeroRedirect.callback fun _ => none) = true := by decide +kernel
  have healthy : zeroRedirect.Healthy fun _ => none := rfl
  refine ⟨zeroRedirect,by decide +kernel,healthy,refused,fun served => ?_⟩
  cases ended : exec relayConstraints zeroRedirect.callback fun _ => none with
  | refused refusal => exact served.unrefused _ healthy refusal ended
  | done | abandoned =>
    rw [ended] at refused
    cases refused

end Relayed

end Ratatoskr.Identity
