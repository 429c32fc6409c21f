import Ratatoskr.Accounts.System
import Ratatoskr.Lib.Triple

/-! What the transactions of the credential routes do to the rows of a user who holds nothing that is live: none of
them becomes live again, and none comes up. -/
set_option linter.unusedSectionVars false

namespace Ratatoskr.Accounts

open Transaction Identity

section Rows

variable (first : Rows) (now : Timestamp) (mine : UserId → Prop)

/-- Since the first rows these users have been opened nothing, and they hold nothing that is live. -/
structure Spared (rows : Rows) : Prop where
  users : ∀ id, rows (.user id) = first (.user id)
  sessions : ∀ id row, rows (.session id) = some row → mine row.userId →
    isOver row now = true ∧ (first (.session id)).isSome = true
  devices : ∀ id row, rows (.device id) = some row → mine row.userId →
    row.revokedAt.isSome = true ∧ (first (.device id)).isSome = true
  pairingCodes : ∀ id row, rows (.pairingCode id) = some row → mine row.userId →
    (row.pending && toOffset now < row.expiresAt) = false
  links : ∀ hash link session, first (.refreshToken hash) = none → rows (.refreshToken hash) = some link →
    rows (.session link.sessionId) = some session → ¬mine session.userId

/-- The session, if there is one, is somebody else's. -/
def Foreign (sessionId : SessionId) (rows : Rows) : Prop :=
  ∀ session, rows (.session sessionId) = some session → ¬mine session.userId

/-- What may be written under a key. -/
def Fits (rows : Rows) : (key : IdentityTable) → IdentityRow key → Prop
  | .user _,_ => False
  | .session id,row => mine row.userId →
    isOver row now = true ∧ ∃ before, rows (.session id) = some before ∧ mine before.userId
  | .device id,row => mine row.userId →
    row.revokedAt.isSome = true ∧ ∃ before, rows (.device id) = some before ∧ mine before.userId
  | .pairingCode _,row => mine row.userId → (row.pending && toOffset now < row.expiresAt) = false
  | .refreshToken hash,row => (∃ before, rows (.refreshToken hash) = some before ∧ before.sessionId = row.sessionId) ∨
    Foreign mine row.sessionId rows
  | .revocation _,_ | .codeHash _,_ | .pendingCode _,_ | .audit _,_ => True

variable {first now mine} {rows : Rows}

theorem Spared.put (spared : Spared first now mine rows) (key : IdentityTable) (row : IdentityRow key)
    (fits : Fits now mine rows key row) : Spared first now mine (Function.update rows key (some row)) where
  users id := by
    have other : IdentityTable.user id ≠ key := by
      rintro rfl
      exact fits
    rw [Function.update_of_ne other]
    exact spared.users id
  sessions id found stored own := by
    by_cases same : IdentityTable.session id = key
    · subst same
      rw [Function.update_self] at stored
      obtain rfl := Option.some.inj stored
      obtain ⟨dead,before,there,mine⟩ := fits own
      exact ⟨dead,(spared.sessions id before there mine).2⟩
    · rw [Function.update_of_ne same] at stored
      exact spared.sessions id found stored own
  devices id found stored own := by
    by_cases same : IdentityTable.device id = key
    · subst same
      rw [Function.update_self] at stored
      obtain rfl := Option.some.inj stored
      obtain ⟨dead,before,there,mine⟩ := fits own
      exact ⟨dead,(spared.devices id before there mine).2⟩
    · rw [Function.update_of_ne same] at stored
      exact spared.devices id found stored own
  pairingCodes id found stored own := by
    by_cases same : IdentityTable.pairingCode id = key
    · subst same
      rw [Function.update_self] at stored
      obtain rfl := Option.some.inj stored
      exact fits own
    · rw [Function.update_of_ne same] at stored
      exact spared.pairingCodes id found stored own
  links hash link session absent stored opened own := by
    by_cases moved : IdentityTable.session link.sessionId = key
    · subst moved
      rw [Function.update_self] at opened
      obtain rfl := Option.some.inj opened
      obtain ⟨_,before,there,mine⟩ := fits own
      rw [Function.update_of_ne (by simp)] at stored
      exact spared.links hash link before absent stored there mine
    · rw [Function.update_of_ne moved] at opened
      by_cases same : IdentityTable.refreshToken hash = key
      · subst same
        rw [Function.update_self] at stored
        obtain rfl := Option.some.inj stored
        rcases fits with ⟨before,there,same⟩ | foreign
        · exact spared.links hash before session absent there (same ▸ opened) own
        · exact foreign session opened own
      · rw [Function.update_of_ne same] at stored
        exact spared.links hash link session absent stored opened own

theorem Spared.remove (spared : Spared first now mine rows) (key : IdentityTable) (other : ∀ id, IdentityTable.user id ≠ key) :
    Spared first now mine (Function.update rows key none) := by
  have kept : ∀ place row, Function.update rows key none place = some row → rows place = some row := by
    intro place row stored
    by_cases same : place = key
    · subst same
      rw [Function.update_self] at stored
      cases stored
    · rwa [Function.update_of_ne same] at stored
  refine ⟨fun id => ?_,fun id row stored => ?_,fun id row stored => ?_,fun id row stored => ?_,fun hash link session absent stored opened => ?_⟩
  · rw [Function.update_of_ne (other id)]
    exact spared.users id
  · exact spared.sessions id row (kept _ row stored)
  · exact spared.devices id row (kept _ row stored)
  · exact spared.pairingCodes id row (kept _ row stored)
  · exact spared.links hash link session absent (kept _ link stored) (kept _ session opened)

theorem Foreign.put {sessionId : SessionId} (foreign : Foreign mine sessionId rows) (key : IdentityTable) (row : IdentityRow key)
    (other : IdentityTable.session sessionId ≠ key) : Foreign mine sessionId (Function.update rows key (some row)) := by
  intro session stored
  rw [Function.update_of_ne other] at stored
  exact foreign session stored

end Rows

section Statements

variable {first : Rows} {now : Timestamp} {mine : UserId → Prop} {α γ : Type}

/-- The statements spare the user. -/
abbrev Spares (first : Rows) (now : Timestamp) (mine : UserId → Prop) (body : Statements α) : Prop :=
  Triple constraints (Spared first now mine) body fun _ => Spared first now mine

theorem spares_bind {body : Statements α} {f : α → Statements γ} (begun : Spares first now mine body)
    (next : ∀ value, Spares first now mine (f value)) : Spares first now mine (body.bind f) :=
  triple_bind (fun _ => Spared first now mine) begun next

theorem spares_done (value : α) : Spares first now mine (.done value) := triple_done value fun _ spared => spared

theorem spares_abandon (denial : Denial) : Spares first now mine (.abandon denial : Statements α) := triple_abandon denial

theorem spares_insertNew (key : IdentityTable) (row : IdentityRow key)
    (fits : ∀ rows, Spared first now mine rows → Fits now mine rows key row) :
    Spares first now mine (Tx.insertNew (ν := IdentityRow) key row) :=
  triple_insertNew key row fun rows spared _ => spared.put key row (fits rows spared)

theorem spares_updateWhere (key : IdentityTable) (matching : IdentityRow key → Bool)
    (change : IdentityRow key → IdentityRow key)
    (fits : ∀ rows row, Spared first now mine rows → rows key = some row → matching row = true →
      Fits now mine rows key (change row)) :
    Spares first now mine (Tx.updateWhere (ν := IdentityRow) key matching change) :=
  triple_updateWhere key matching change (fun rows row spared stored matched => spared.put key _ (fits rows row spared stored matched))
    fun _ spared => spared

theorem spares_select (key : IdentityTable) : Spares first now mine (Tx.select (ν := IdentityRow) key) :=
  triple_select key fun _ spared => spared

theorem spares_recordAudit (auditEventId : Nat) (event : AuditEvent) : Spares first now mine (recordAudit auditEventId event) :=
  spares_insertNew _ _ fun _ _ => trivial

theorem spares_recordRevocation (revocationId : RevocationId) (subjectKind : RevocationSubject) (subjectId : Nat)
    (reason : RevocationReason) (revokedBy : Option UserId) (revokedAt : Timestamp) :
    Spares first now mine (recordRevocation revocationId subjectKind subjectId reason revokedBy revokedAt) :=
  spares_insertNew _ _ fun _ _ => trivial

theorem spares_recordSessionRevocations (drawn : Nat → RevocationId) (revokedBy : UserId) (at_ : Timestamp)
    (sessionIds : List SessionId) : Spares first now mine (recordSessionRevocations drawn revokedBy at_ sessionIds) := by
  induction sessionIds with
  | nil => exact spares_done ()
  | cons sessionId rest ih => exact spares_bind (spares_recordRevocation _ _ _ _ _ _) fun _ => ih

/-- A revoked session is not live. -/
theorem spares_closing (sessionId : SessionId) (matching : Session → Bool) (revokedAt : Timestamp) :
    Spares first now mine (Tx.updateWhere (ν := IdentityRow) (.session sessionId) matching fun row => row.revoked revokedAt) :=
  spares_updateWhere _ _ _ fun _ row _ stored _ own => ⟨rfl,row,stored,own⟩

theorem spares_closeSessions (matching : Session → Bool) (revokedAt : Timestamp) (visited : List SessionId) :
    Spares first now mine (closeSessions matching revokedAt visited) := by
  induction visited with
  | nil => exact spares_done []
  | cons sessionId rest ih => exact spares_bind (spares_closing sessionId _ revokedAt) fun _ => spares_bind ih fun _ => spares_done _

theorem spares_listLiveSessionIds (owner : UserId) (at_ : Timestamp) (visited : List SessionId) :
    Spares first now mine (listLiveSessionIds owner at_ visited) := by
  induction visited with
  | nil => exact spares_done []
  | cons sessionId rest ih => exact spares_bind (spares_select _) fun _ => spares_bind ih fun _ => spares_done _

end Statements

section Openings

variable {first : Rows} {now : Timestamp} {mine : UserId → Prop}

theorem filter_any {α : Type} (found : Option α) : found.filter (fun _ => true) = found := by cases found <;> rfl

/-- A session that somebody else opens is not the user's. -/
theorem createSession_spares (sessionId : SessionId) (new : NewSession) (other : ¬mine new.userId) :
    Triple constraints (Spared first now mine) (createSession sessionId new)
      fun _ rows => Spared first now mine rows ∧ Foreign mine sessionId rows := by
  refine triple_bind (fun _ rows => Spared first now mine rows ∧ Foreign mine sessionId rows)
    (triple_insertNew _ _ fun rows spared _ => ⟨spared.put _ _ fun own => absurd own other,?_⟩) fun _ => ?_
  · intro session stored
    rw [Function.update_self] at stored
    obtain rfl := Option.some.inj stored
    exact other
  · cases new.deviceId with
    | none => exact triple_done () fun _ holds => holds
    | some deviceId =>
      refine triple_bind (fun found rows => (Spared first now mine rows ∧ Foreign mine sessionId rows) ∧
        found = rows (.device deviceId)) (triple_selectForUpdate _ _ fun rows holds => ⟨holds,filter_any _⟩) fun found => ?_
      cases found with
      | none => exact triple_refuse _ _
      | some row =>
        refine triple_write _ _ (fun rows => Spared first now mine rows ∧ Foreign mine sessionId rows)
          (fun rows holds => ?_) (triple_done () fun _ holds => holds)
        obtain ⟨⟨spared,foreign⟩,stored⟩ := holds
        exact ⟨spared.put _ _ fun own => ⟨(spared.devices deviceId row stored.symm own).1,row,stored.symm,own⟩,
          foreign.put _ _ (by simp)⟩

theorem issueRefreshToken_spares (tokenId : TokenId) (sessionId : SessionId) (digest : Digest) (issuedAt expiresAt : Timestamp) :
    Triple constraints (fun rows => Spared first now mine rows ∧ Foreign mine sessionId rows)
      (issueRefreshToken tokenId sessionId digest issuedAt expiresAt)
      fun _ rows => Spared first now mine rows ∧ Foreign mine sessionId rows :=
  triple_insertNew _ _ fun _ holds _ => ⟨holds.1.put _ _ (Or.inr holds.2),holds.2.put _ _ (by simp)⟩

theorem spared_of_foreign {sessionId : SessionId} {α : Type} {body : Statements α} (spares : Spares first now mine body) :
    Triple constraints (fun rows => Spared first now mine rows ∧ Foreign mine sessionId rows) body
      fun _ => Spared first now mine := spares.strengthen fun _ holds => holds.1

/-- The owner of a device that authenticates is not the user, whose devices are revoked. -/
theorem authenticateDevice_spares (deviceId : DeviceId) (presented : Digest) :
    Triple constraints (Spared first now mine) (authenticateDevice deviceId presented)
      fun owner rows => (∀ found, owner = some found → ¬mine found) ∧ Spared first now mine rows := by
  refine triple_bind (fun found rows => (∀ row, found = some row → ¬mine row.userId) ∧ Spared first now mine rows)
    (triple_selectForUpdate _ _ fun rows spared => ⟨fun row found own => ?_,spared⟩)
    fun found => triple_done _ fun rows holds => ⟨fun owner same => ?_,holds.2⟩
  · obtain ⟨stored,matched⟩ := Option.filter_eq_some_iff.mp found
    have revoked := (spared.devices deviceId row stored own).1
    simp only [Bool.and_eq_true,Option.isNone_iff_eq_none] at matched
    rw [matched.1] at revoked
    cases revoked
  · obtain ⟨row,there,rfl⟩ := Option.map_eq_some_iff.mp same
    exact holds.1 row there

theorem login_spares (settings : Settings) (request : Login) :
    Spares first now mine (request.openDeviceSession settings) := by
  unfold Login.openDeviceSession
  split
  · exact spares_abandon _
  · refine triple_bind _ (authenticateDevice_spares _ _) fun owner => triple_pure fun other => ?_
    cases owner with
    | none => exact spares_abandon _
    | some owner =>
      refine triple_bind _ (createSession_spares _ _ (other owner rfl)) fun _ => ?_
      refine triple_bind _ (issueRefreshToken_spares _ _ _ _ _) fun _ => spared_of_foreign ?_
      exact spares_bind (spares_recordAudit _ _) fun _ => spares_done _

theorem selectLink_spares (presented : Digest) :
    Triple constraints (Spared first now mine) (selectLink presented)
      fun found rows => Spared first now mine rows ∧ ∀ link session, found = some (link,session) →
        rows (.refreshToken presented) = some link ∧ (isOver session now = false → Foreign mine link.sessionId rows) := by
  refine triple_bind (fun found rows => Spared first now mine rows ∧ found = rows (.refreshToken presented))
    (triple_select _ fun _ spared => ⟨spared,rfl⟩) fun seen => ?_
  cases seen with
  | none => exact triple_done _ fun rows holds => ⟨holds.1,fun _ _ none_ => by cases none_⟩
  | some seen =>
    refine triple_bind (fun found rows => (Spared first now mine rows ∧ some seen = rows (.refreshToken presented)) ∧
      found = rows (.session seen.sessionId)) (triple_select _ fun _ holds => ⟨holds,rfl⟩) fun session => ?_
    cases session with
    | none => exact triple_done _ fun rows holds => ⟨holds.1.1,fun _ _ none_ => by cases none_⟩
    | some session =>
      refine triple_bind (fun found rows => ((Spared first now mine rows ∧ some seen = rows (.refreshToken presented)) ∧
        some session = rows (.session seen.sessionId)) ∧ found = rows (.refreshToken presented))
        (triple_selectForUpdate _ _ fun rows holds => ⟨holds,filter_any _⟩) fun link => triple_done _ fun rows holds => ?_
      obtain ⟨⟨⟨spared,stored⟩,opened⟩,locked⟩ := holds
      rw [locked,← stored]
      refine ⟨spared,fun link found same => ?_⟩
      cases same
      refine ⟨rfl,fun live other there own => ?_⟩
      rw [← opened] at there
      obtain rfl := Option.some.inj there
      rw [(spared.sessions _ _ opened.symm own).1] at live
      cases live

/-- A session that is renewed is live, and so not the user's. -/
theorem rotateSession_spares (r : Rotation) (same : r.now = now) : Spares first now mine (rotateSession r) := by
  subst same
  refine triple_bind _ (selectLink_spares r.presented) fun found => ?_
  cases found with
  | none => exact triple_done _ fun _ holds => holds.1
  | some pair =>
    obtain ⟨link,session⟩ := pair
    dsimp only
    split
    · refine Triple.strengthen ?_ fun _ holds => holds.1
      exact spares_bind (spares_bind (spares_closing _ _ _) fun _ => spares_recordRevocation _ _ _ _ _ _) fun _ => spares_done _
    · split
      · exact triple_done _ fun _ holds => holds.1
      · split
        · exact triple_done _ fun _ holds => holds.1
        · rename_i live
          have past : isOver session r.now = false := Bool.not_eq_true _ ▸ live
          suffices Triple constraints (fun rows => Spared first r.now mine rows ∧ Foreign mine link.sessionId rows) _ _ from
            this.strengthen fun rows holds => ⟨holds.1,(holds.2 link session rfl).2 past⟩
          refine triple_bind _ (issueRefreshToken_spares _ _ _ _ _) fun _ => ?_
          refine triple_bind (fun _ rows => Spared first r.now mine rows ∧ Foreign mine link.sessionId rows)
            (triple_updateWhere _ _ _ (fun rows row holds stored _ => ?_) fun _ holds => holds) fun _ => ?_
          · exact ⟨holds.1.put _ _ (Or.inl ⟨row,stored,rfl⟩),holds.2.put _ _ (by simp)⟩
          · refine triple_bind (fun _ => Spared first r.now mine)
              (triple_updateWhere _ _ _ (fun rows row holds stored _ => ?_) fun _ holds => holds.1) fun swapped => ?_
            · exact holds.1.put _ _ fun own => absurd own (holds.2 row stored)
            · cases swapped <;> exact triple_done _ fun _ spared => spared

theorem refresh_spares (settings : Settings) (request : Refresh) (same : request.now = now) :
    Spares first now mine (request.refresh settings) := by
  unfold Refresh.refresh
  split
  · exact spares_abandon _
  · refine spares_bind (rotateSession_spares _ same) fun outcome => ?_
    unfold Refresh.conclude
    split
    · exact spares_bind (spares_recordAudit _ _) fun _ => spares_done _
    · exact spares_bind (spares_recordAudit _ _) fun _ => spares_done _
    · exact spares_abandon _

/-- A code that is ended is pending no more. -/
theorem endPending_spares (pairingCodeId : PairingCodeId) (matching : PairingCode → Bool) (change : PairingCode → PairingCode)
    (ends : ∀ row, (change row).pending = false) : Spares first now mine (endPending pairingCodeId matching change) := by
  refine spares_bind (triple_selectForUpdate _ _ fun _ spared => spared) fun found => ?_
  cases found with
  | none => exact spares_done _
  | some row =>
    refine triple_write _ _ (Spared first now mine) (fun rows spared => spared.put _ _ fun _ => by simp [ends]) ?_
    refine triple_remove _ (Spared first now mine) (fun rows spared => spared.remove _ (by simp)) ?_
    exact triple_remove _ (Spared first now mine) (fun rows spared => spared.remove _ (by simp)) (spares_done _)

theorem createPairingCode_spares (request : CodeCreation) (other : ¬mine request.principal.userId) :
    Spares first now mine request.createPairingCode := by
  unfold CodeCreation.createPairingCode
  split
  · exact spares_abandon _
  · split
    · exact spares_abandon _
    · split
      · exact spares_abandon _
      · split
        · exact spares_abandon _
        · refine spares_bind ?_ fun _ => spares_bind (spares_recordAudit _ _) fun _ => spares_done _
          refine spares_bind (triple_selectForUpdate _ _ fun _ spared => spared) fun _ => spares_bind ?_ fun _ => ?_
          · refine spares_bind (spares_select _) fun found => ?_
            cases found with
            | none => exact spares_done _
            | some pairingCodeId => exact spares_bind (endPending_spares _ _ _ fun _ => by simp [PairingCode.superseded,PairingCode.pending]) fun _ => spares_done _
          · refine spares_bind (spares_insertNew _ _ fun _ _ own => absurd own other) fun _ => ?_
            exact spares_bind (spares_insertNew _ _ fun _ _ => trivial) fun _ => spares_insertNew _ _ fun _ _ => trivial

/-- A code that is still redeemed is somebody else's. -/
theorem selectCode_spares (presented : Digest) :
    Triple constraints (Spared first now mine) (selectCode presented now)
      fun found rows => (∀ id row, found = some (id,row) → ¬mine row.userId) ∧ Spared first now mine rows := by
  refine triple_bind _ (spares_select _) fun found => ?_
  cases found with
  | none => exact triple_done _ fun _ spared => ⟨fun _ _ none_ => by (cases none_),spared⟩
  | some pairingCodeId =>
    refine triple_bind (fun found rows => (∀ row, found = some row → ¬mine row.userId) ∧ Spared first now mine rows)
      (triple_selectForUpdate _ _ fun rows spared => ⟨fun row found own => ?_,spared⟩)
      fun found => triple_done _ fun rows holds => ⟨fun id row same => ?_,holds.2⟩
    · obtain ⟨stored,live⟩ := Option.filter_eq_some_iff.mp found
      have dead := spared.pairingCodes pairingCodeId row stored own
      simp only [PairingCode.redeemable,Bool.and_eq_true] at live
      rw [live.1.1.2,live.1.2] at dead
      cases dead
    · obtain ⟨found,there,same⟩ := Option.map_eq_some_iff.mp same
      cases same
      exact holds.1 _ there

theorem kindRefused_spares (pairingCodeId : PairingCodeId) (row : PairingCode) (declared : DeviceKind) :
    Spares first now mine (kindRefused pairingCodeId row declared) := by
  unfold kindRefused
  split
  · split
    · refine spares_bind (spares_updateWhere _ _ _ fun rows row spared stored _ own => ?_) fun _ => spares_done _
      exact spared.pairingCodes pairingCodeId row stored own
    · exact spares_done _
  · exact spares_done _

theorem redeem_spares (r : PairRequest) (same : r.now = now) : Spares first now mine (redeem r) := by
  subst same
  refine triple_bind _ (selectCode_spares _) fun found => triple_pure fun other => ?_
  cases found with
  | none => exact spares_done _
  | some pair =>
    obtain ⟨pairingCodeId,row⟩ := pair
    have other := other pairingCodeId row rfl
    refine spares_bind (kindRefused_spares _ _ _) fun refused => ?_
    split
    · exact spares_done _
    · refine spares_bind (spares_insertNew _ _ fun _ _ own => absurd own other) fun _ => ?_
      refine spares_bind (endPending_spares _ _ _ fun _ => by simp [PairingCode.consumed,PairingCode.pending]) fun ended => ?_
      split
      · refine triple_bind _ (createSession_spares _ _ other) fun _ => ?_
        exact triple_bind _ (issueRefreshToken_spares _ _ _ _ _) fun _ => spared_of_foreign (spares_done _)
      · exact spares_done _

theorem pair_spares (settings : Settings) (request : Pairing) (same : request.now = now) :
    Spares first now mine (request.pair settings) := by
  unfold Pairing.pair
  split
  · exact spares_abandon _
  · refine spares_bind (redeem_spares _ same) fun outcome => ?_
    cases outcome with
    | none => exact spares_abandon _
    | some redeemed => exact spares_bind (spares_recordAudit _ _) fun _ => spares_done _

end Openings

section Revocations

variable {first : Rows} {now : Timestamp} {mine : UserId → Prop}

theorem revokeDevice_spares (deviceId : DeviceId) (revokedAt : Timestamp) :
    Spares first now mine (revokeDevice deviceId revokedAt) := by
  refine spares_bind (spares_updateWhere _ _ _ fun _ row _ stored _ own => ⟨rfl,row,stored,own⟩) fun _ => ?_
  refine spares_bind (spares_select _) fun found => ?_
  cases found with
  | none => exact spares_done _
  | some row => exact spares_closeSessions _ _ _

theorem deleteDevice_spares (request : DeviceDeletion) : Spares first now mine request.deleteDevice := by
  refine spares_bind (spares_select _) fun found => ?_
  cases found with
  | none => exact spares_abandon _
  | some device =>
    dsimp only
    split
    · exact spares_bind (spares_recordAudit _ _) fun _ => spares_done _
    · split
      · exact spares_abandon _
      · refine spares_bind (revokeDevice_spares _ _) fun _ => spares_bind (spares_recordRevocation _ _ _ _ _ _) fun _ => ?_
        exact spares_bind (spares_recordSessionRevocations _ _ _ _) fun _ => spares_bind (spares_recordAudit _ _) fun _ => spares_done _

theorem revokeSession_spares (request : SessionDeletion) : Spares first now mine request.revokeSession := by
  refine spares_bind (spares_select _) fun found => ?_
  cases found with
  | none => exact spares_abandon _
  | some session =>
    dsimp only
    split
    · exact spares_bind (spares_recordAudit _ _) fun _ => spares_done _
    · split
      · exact spares_abandon _
      · refine spares_bind (spares_closing _ _ _) fun _ => spares_bind (spares_recordRevocation _ _ _ _ _ _) fun _ => ?_
        exact spares_bind (spares_recordAudit _ _) fun _ => spares_done _

theorem revokeAll_spares (request : Sweep) : Spares first now mine request.revokeAll := by
  refine spares_bind (spares_listLiveSessionIds _ _ _) fun _ => spares_bind (spares_closeSessions _ _ _) fun _ => ?_
  exact spares_bind (spares_recordSessionRevocations _ _ _ _) fun _ => spares_bind (spares_recordAudit _ _) fun _ => spares_done _

/-- No transaction of the credential routes opens anything for the user, but a code that is created in his name. -/
theorem job_spares (settings : Settings) (job : Job) (same : ∀ at_, jobNow job = some at_ → at_ = now)
    (other : ∀ request, job = .createCode request → ¬mine request.principal.userId) :
    Spares first now mine (job.program settings) := by
  cases job with
  | login request => exact login_spares settings request
  | refresh request => exact refresh_spares settings request (same _ rfl)
  | createCode request => exact createPairingCode_spares request (other request rfl)
  | pair request => exact pair_spares settings request (same _ rfl)
  | deleteDevice request => exact deleteDevice_spares request
  | revokeSession request => exact revokeSession_spares request
  | revokeAll request => exact revokeAll_spares request
  | touchSession sessionId at_ minInterval =>
    refine spares_bind (spares_bind (spares_updateWhere _ _ _ fun rows row spared stored _ own => ?_) fun _ => spares_done _)
      fun _ => spares_done _
    exact ⟨(spared.sessions sessionId row stored own).1,row,stored,own⟩
  | touchDevice deviceId at_ minInterval =>
    refine spares_bind (spares_bind (spares_updateWhere _ _ _ fun rows row spared stored _ own => ?_) fun _ => spares_done _)
      fun _ => spares_done _
    exact ⟨(spared.devices deviceId row stored own).1,row,stored,own⟩
  | refuse auditEventId event => exact spares_bind (spares_recordAudit _ _) fun _ => spares_done _

end Revocations

end Ratatoskr.Accounts
