import Ratatoskr.Identity.Routes

/-! What holds of the sessions, links, devices and pairing codes whatever the routes commit, and how
their rows may move. Each change a route makes is one lemma here. -/
namespace Ratatoskr.Identity

open Transaction

section Moves

/-- What may become of a stored session: the first instant of its revocation is kept. -/
structure Session.Moves (before after : Session) : Prop where
  userId : after.userId = before.userId
  kind : after.kind = before.kind
  deviceId : after.deviceId = before.deviceId
  issuedAt : after.issuedAt = before.issuedAt
  revoked : before.revokedAt.isSome → after.revokedAt = before.revokedAt

/-- A spent link never changes again. -/
structure RefreshToken.Moves (before after : RefreshToken) : Prop where
  sessionId : after.sessionId = before.sessionId
  spent : before.consumedAt.isSome → after = before

structure Device.Moves (before after : Device) : Prop where
  userId : after.userId = before.userId
  kind : after.kind = before.kind
  siteId : after.siteId = before.siteId
  revoked : before.revokedAt.isSome → after.revokedAt = before.revokedAt
  sessions : before.sessions ⊆ after.sessions

/-- Whatever is counted against a code is lost again before a commit. -/
structure PairingCode.Moves (before after : PairingCode) : Prop where
  userId : after.userId = before.userId
  codeHash : after.codeHash = before.codeHash
  expectedKind : after.expectedKind = before.expectedKind
  siteId : after.siteId = before.siteId
  attempts : after.failedAttempts = before.failedAttempts
  ended : before.pending = false → after.pending = false

theorem Session.Moves.refl (row : Session) : row.Moves row := ⟨rfl,rfl,rfl,rfl,fun _ => rfl⟩

theorem Session.Moves.trans {first second third : Session} (before : first.Moves second) (after : second.Moves third) :
    first.Moves third :=
  ⟨after.userId.trans before.userId,after.kind.trans before.kind,after.deviceId.trans before.deviceId,
    after.issuedAt.trans before.issuedAt,fun revoked =>
      (after.revoked ((before.revoked revoked).symm ▸ revoked)).trans (before.revoked revoked)⟩

theorem Session.Moves.stays_revoked {before after : Session} (moves : before.Moves after)
    (revoked : before.revokedAt.isSome) : after.revokedAt.isSome := moves.revoked revoked ▸ revoked

theorem RefreshToken.Moves.refl (row : RefreshToken) : row.Moves row := ⟨rfl,fun _ => rfl⟩

theorem RefreshToken.Moves.trans {first second third : RefreshToken} (before : first.Moves second)
    (after : second.Moves third) : first.Moves third := by
  refine ⟨after.sessionId.trans before.sessionId,fun spent => ?_⟩
  obtain rfl := before.spent spent
  exact after.spent spent

theorem Device.Moves.refl (row : Device) : row.Moves row := ⟨rfl,rfl,rfl,fun _ => rfl,List.Subset.refl _⟩

theorem Device.Moves.trans {first second third : Device} (before : first.Moves second) (after : second.Moves third) :
    first.Moves third :=
  ⟨after.userId.trans before.userId,after.kind.trans before.kind,after.siteId.trans before.siteId,fun revoked =>
    (after.revoked ((before.revoked revoked).symm ▸ revoked)).trans (before.revoked revoked),
    List.Subset.trans before.sessions after.sessions⟩

theorem PairingCode.Moves.refl (row : PairingCode) : row.Moves row := ⟨rfl,rfl,rfl,rfl,rfl,id⟩

theorem PairingCode.Moves.trans {first second third : PairingCode} (before : first.Moves second)
    (after : second.Moves third) : first.Moves third :=
  ⟨after.userId.trans before.userId,after.codeHash.trans before.codeHash,after.expectedKind.trans before.expectedKind,
    after.siteId.trans before.siteId,after.attempts.trans before.attempts,fun ended => after.ended (before.ended ended)⟩

end Moves

/-- The rows of the tables that the routes share -/
@[ext] structure Tables where
  session : SessionId → Option Session
  link : Digest → Option RefreshToken
  device : DeviceId → Option Device
  code : PairingCodeId → Option PairingCode
  codeHash : Digest → Option PairingCodeId
  pendingCode : UserId → Option PairingCodeId

/-- The link under the digest has been spent. -/
def Tables.Spent (t : Tables) (hash : Digest) : Prop := ∃ link, t.link hash = some link ∧ link.consumedAt.isSome

def tables (rows : Rows) : Tables where
  session id := rows (.session id)
  link hash := rows (.refreshToken hash)
  device id := rows (.device id)
  code id := rows (.pairingCode id)
  codeHash hash := rows (.codeHash hash)
  pendingCode userId := rows (.pendingCode userId)

section Updates

variable (rows : Rows)

@[simp] theorem tables_update_session (id : SessionId) (row : Option Session) :
    tables (Function.update rows (.session id) row) =
      { tables rows with session := Function.update (tables rows).session id row } := by
  have own := Function.update_comp_eq_of_injective' rows (fun _ _ => IdentityTable.session.inj) id row
  simp [tables,own]

@[simp] theorem tables_update_link (hash : Digest) (row : Option RefreshToken) :
    tables (Function.update rows (.refreshToken hash) row) =
      { tables rows with link := Function.update (tables rows).link hash row } := by
  have own := Function.update_comp_eq_of_injective' rows (fun _ _ => IdentityTable.refreshToken.inj) hash row
  simp [tables,own]

@[simp] theorem tables_update_device (id : DeviceId) (row : Option Device) :
    tables (Function.update rows (.device id) row) =
      { tables rows with device := Function.update (tables rows).device id row } := by
  have own := Function.update_comp_eq_of_injective' rows (fun _ _ => IdentityTable.device.inj) id row
  simp [tables,own]

@[simp] theorem tables_update_code (id : PairingCodeId) (row : Option PairingCode) :
    tables (Function.update rows (.pairingCode id) row) =
      { tables rows with code := Function.update (tables rows).code id row } := by
  have own := Function.update_comp_eq_of_injective' rows (fun _ _ => IdentityTable.pairingCode.inj) id row
  simp [tables,own]

@[simp] theorem tables_update_codeHash (hash : Digest) (row : Option PairingCodeId) :
    tables (Function.update rows (.codeHash hash) row) =
      { tables rows with codeHash := Function.update (tables rows).codeHash hash row } := by
  have own := Function.update_comp_eq_of_injective' rows (fun _ _ => IdentityTable.codeHash.inj) hash row
  simp [tables,own]

@[simp] theorem tables_update_pendingCode (userId : UserId) (row : Option PairingCodeId) :
    tables (Function.update rows (.pendingCode userId) row) =
      { tables rows with pendingCode := Function.update (tables rows).pendingCode userId row } := by
  have own := Function.update_comp_eq_of_injective' rows (fun _ _ => IdentityTable.pendingCode.inj) userId row
  simp [tables,own]

@[simp] theorem tables_update_revocation (id : RevocationId) (row : Option Revocation) :
    tables (Function.update rows (.revocation id) row) = tables rows := by
  simp [tables]

@[simp] theorem tables_update_audit (id : Nat) (row : Option AuditEvent) :
    tables (Function.update rows (.audit id) row) = tables rows := by
  simp [tables]

/-- Tables the routes share are told apart from the two they only add to. -/
def IdentityTable.shared : IdentityTable → Bool
  | .revocation _ => false
  | .audit _ => false
  | _ => true

theorem tables_congr (later : Rows) (same : ∀ key : IdentityTable, key.shared → later key = rows key) :
    tables later = tables rows := by
  simp only [tables,same _ (rfl : (IdentityTable.session _).shared = true),
    same _ (rfl : (IdentityTable.refreshToken _).shared = true),same _ (rfl : (IdentityTable.device _).shared = true),
    same _ (rfl : (IdentityTable.pairingCode _).shared = true),same _ (rfl : (IdentityTable.codeHash _).shared = true),
    same _ (rfl : (IdentityTable.pendingCode _).shared = true)]

end Updates

/-- What holds of the committed rows at every moment. -/
structure Consistent (t : Tables) : Prop where
  checked : ∀ id row, t.session id = some row → row.checks = true
  linked : ∀ hash link, t.link hash = some link → ∃ row, t.session link.sessionId = some row
  /-- A session has one unspent link at most. -/
  single : ∀ hash other link otherLink, t.link hash = some link → t.link other = some otherLink →
    link.consumedAt = none → otherLink.consumedAt = none → link.sessionId = otherLink.sessionId → hash = other
  /-- A scan by device finds its sessions, and those of a revoked device are revoked. -/
  bound : ∀ id row deviceId, t.session id = some row → row.deviceId = some deviceId →
    ∃ device, t.device deviceId = some device ∧ id ∈ device.sessions ∧ (device.revokedAt.isSome → row.revokedAt.isSome)
  scanned : ∀ deviceId device id, t.device deviceId = some device → id ∈ device.sessions → ∃ row, t.session id = some row
  /-- Both partial indexes name a pending code. -/
  indexed : ∀ id row, t.code id = some row → row.pending = true →
    t.pendingCode row.userId = some id ∧ t.codeHash row.codeHash = some id

theorem consistent_empty : Consistent (tables fun _ => none) where
  checked _ _ found := by cases found
  linked _ _ found := by cases found
  single _ _ _ _ found := by cases found
  bound _ _ _ found := by cases found
  scanned _ _ _ found := by cases found
  indexed _ _ found := by cases found

/-- The rows of the first tables are still there, moved on. -/
structure Later (before after : Tables) : Prop where
  session : ∀ id row, before.session id = some row → ∃ row', after.session id = some row' ∧ row.Moves row'
  link : ∀ hash row, before.link hash = some row → ∃ row', after.link hash = some row' ∧ row.Moves row'
  device : ∀ id row, before.device id = some row → ∃ row', after.device id = some row' ∧ row.Moves row'
  code : ∀ id row, before.code id = some row → ∃ row', after.code id = some row' ∧ row.Moves row'

theorem Later.refl (t : Tables) : Later t t :=
  ⟨fun _ row stored => ⟨row,stored,.refl row⟩,fun _ row stored => ⟨row,stored,.refl row⟩,
    fun _ row stored => ⟨row,stored,.refl row⟩,fun _ row stored => ⟨row,stored,.refl row⟩⟩

theorem Later.trans {first second third : Tables} (before : Later first second) (after : Later second third) :
    Later first third := by
  refine ⟨fun id row stored => ?_,fun hash row stored => ?_,fun id row stored => ?_,fun id row stored => ?_⟩
  · obtain ⟨row',stored',moves⟩ := before.session id row stored
    obtain ⟨row'',stored'',moves'⟩ := after.session id row' stored'
    exact ⟨row'',stored'',moves.trans moves'⟩
  · obtain ⟨row',stored',moves⟩ := before.link hash row stored
    obtain ⟨row'',stored'',moves'⟩ := after.link hash row' stored'
    exact ⟨row'',stored'',moves.trans moves'⟩
  · obtain ⟨row',stored',moves⟩ := before.device id row stored
    obtain ⟨row'',stored'',moves'⟩ := after.device id row' stored'
    exact ⟨row'',stored'',moves.trans moves'⟩
  · obtain ⟨row',stored',moves⟩ := before.code id row stored
    obtain ⟨row'',stored'',moves'⟩ := after.code id row' stored'
    exact ⟨row'',stored'',moves.trans moves'⟩

/-- A change that keeps the tables consistent and moves their rows on. -/
structure Advance (before after : Tables) : Prop where
  consistent : Consistent after
  later : Later before after

theorem Consistent.stay {t : Tables} (valid : Consistent t) : Advance t t := ⟨valid,.refl t⟩

theorem Advance.trans {first second third : Tables} (before : Advance first second) (after : Advance second third) :
    Advance first third := ⟨after.consistent,before.later.trans after.later⟩

section Changes

/-- A row written under one key moves what was there, and the other rows stay. -/
theorem moved_update {ι ρ : Type} [DecidableEq ι] {f : ι → Option ρ} {Moves : ρ → ρ → Prop} (refl : ∀ row, Moves row row)
    (id : ι) (written : ρ) (moves : ∀ row, f id = some row → Moves row written) (other : ι) (row : ρ)
    (stored : f other = some row) : ∃ after, Function.update f id (some written) other = some after ∧ Moves row after := by
  by_cases same : other = id
  · subst same
    exact ⟨written,Function.update_self _ _ _,moves row stored⟩
  · exact ⟨row,(Function.update_of_ne same _ _).trans stored,refl row⟩

/-- The row found after an update is the written one or an old one. -/
theorem update_eq_some {ι ρ : Type} [DecidableEq ι] {f : ι → Option ρ} {id other : ι} {written row : ρ}
    (found : Function.update f id (some written) other = some row) :
    other = id ∧ row = written ∨ other ≠ id ∧ f other = some row := by
  by_cases same : other = id
  · subst same
    rw [Function.update_self] at found
    exact Or.inl ⟨rfl,(Option.some.inj found).symm⟩
  · rw [Function.update_of_ne same] at found
    exact Or.inr ⟨same,found⟩

variable {t : Tables} (valid : Consistent t)

include valid

/-- Sessions move one by one: each stays, or becomes a row it may move to. -/
theorem Consistent.moveSessions (session : SessionId → Option Session)
    (moves : ∀ id, session id = t.session id ∨ ∃ row row', t.session id = some row ∧ session id = some row' ∧
      row.Moves row' ∧ row'.checks = true) : Advance t { t with session } := by
  have kept (id : SessionId) (row : Session) (stored : t.session id = some row) :
      ∃ row', session id = some row' ∧ row.Moves row' := by
    rcases moves id with same | ⟨old,row',before,after,moved,_⟩
    · exact ⟨row,same.trans stored,.refl row⟩
    · obtain rfl := Option.some.inj (stored.symm.trans before)
      exact ⟨row',after,moved⟩
  have origin (id : SessionId) (row' : Session) (stored : session id = some row') :
      ∃ row, t.session id = some row ∧ row.Moves row' ∧ row'.checks = true := by
    rcases moves id with same | ⟨row,new,before,after,moved,checks⟩
    · have before := same.symm.trans stored
      exact ⟨row',before,.refl row',valid.checked id row' before⟩
    · obtain rfl := Option.some.inj (stored.symm.trans after)
      exact ⟨row,before,moved,checks⟩
  refine ⟨⟨fun id row stored => ?_,fun hash link stored => ?_,valid.single,fun id row deviceId stored bound => ?_,
    fun deviceId device id found listed => ?_,valid.indexed⟩,⟨kept,fun _ row stored => ⟨row,stored,.refl row⟩,fun _ row stored => ⟨row,stored,.refl row⟩,
    fun _ row stored => ⟨row,stored,.refl row⟩⟩⟩
  · obtain ⟨_,_,_,checks⟩ := origin id row stored
    exact checks
  · obtain ⟨row,before⟩ := valid.linked hash link stored
    obtain ⟨row',after,_⟩ := kept _ row before
    exact ⟨row',after⟩
  · obtain ⟨old,before,moved,_⟩ := origin id row stored
    obtain ⟨device,found,listed,cascaded⟩ := valid.bound id old deviceId before (moved.deviceId ▸ bound)
    exact ⟨device,found,listed,fun revoked => moved.stays_revoked (cascaded revoked)⟩
  · obtain ⟨row,before⟩ := valid.scanned deviceId device id found listed
    obtain ⟨row',after,_⟩ := kept id row before
    exact ⟨row',after⟩

theorem Consistent.moveSession (id : SessionId) (row row' : Session) (stored : t.session id = some row)
    (moves : row.Moves row') (checks : row'.checks = true) :
    Advance t { t with session := Function.update t.session id (some row') } := by
  refine valid.moveSessions _ fun other => ?_
  by_cases same : other = id
  · subst same
    exact Or.inr ⟨row,row',stored,Function.update_self _ _ _,moves,checks⟩
  · exact Or.inl (Function.update_of_ne same _ _)

/-- A device row moves, and once it is revoked so are the sessions of its device. -/
theorem Consistent.moveDevice (id : DeviceId) (row row' : Device) (stored : t.device id = some row)
    (moves : row.Moves row') (same : row'.sessions = row.sessions) (cascades : row'.revokedAt.isSome → ∀ sessionId session,
      t.session sessionId = some session → session.deviceId = some id → session.revokedAt.isSome) :
    Advance t { t with device := Function.update t.device id (some row') } := by
  refine ⟨⟨valid.checked,valid.linked,valid.single,fun sessionId session deviceId found bound => ?_,
    fun deviceId device sessionId found listed => ?_,valid.indexed⟩,
    ⟨fun _ row stored => ⟨row,stored,.refl row⟩,fun _ row stored => ⟨row,stored,.refl row⟩,
      moved_update .refl id row' fun old before => Option.some.inj (stored.symm.trans before) ▸ moves,
      fun _ row stored => ⟨row,stored,.refl row⟩⟩⟩
  · obtain ⟨device,before,listed,cascaded⟩ := valid.bound sessionId session deviceId found bound
    by_cases own : deviceId = id
    · subst own
      obtain rfl := Option.some.inj (stored.symm.trans before)
      exact ⟨row',Function.update_self _ _ _,moves.sessions listed,
        fun revoked => cascades revoked sessionId session found bound⟩
    · exact ⟨device,(Function.update_of_ne own _ _).trans before,listed,cascaded⟩
  · rcases update_eq_some found with ⟨rfl,rfl⟩ | ⟨_,before⟩
    · exact valid.scanned deviceId row sessionId stored (same ▸ listed)
    · exact valid.scanned deviceId device sessionId before listed

theorem Consistent.addDevice (id : DeviceId) (row : Device) (absent : t.device id = none) (bare : row.sessions = []) :
    Advance t { t with device := Function.update t.device id (some row) } := by
  refine ⟨⟨valid.checked,valid.linked,valid.single,fun sessionId session deviceId found bound => ?_,
    fun deviceId device sessionId found listed => ?_,valid.indexed⟩,
    ⟨fun _ row stored => ⟨row,stored,.refl row⟩,fun _ row stored => ⟨row,stored,.refl row⟩,
      moved_update .refl id row fun old before => ?_,fun _ row stored => ⟨row,stored,.refl row⟩⟩⟩
  · obtain ⟨device,before,listed,cascaded⟩ := valid.bound sessionId session deviceId found bound
    have different : deviceId ≠ id := fun same => by
      rw [same,absent] at before
      cases before
    exact ⟨device,(Function.update_of_ne different _ _).trans before,listed,cascaded⟩
  · rcases update_eq_some found with ⟨_,rfl⟩ | ⟨_,before⟩
    · rw [bare] at listed
      cases listed
    · exact valid.scanned deviceId device sessionId before listed
  · rw [absent] at before
    cases before

/-- A device that is not revoked gets a session of its own. -/
theorem Consistent.openSession (id : SessionId) (row : Session) (deviceId : DeviceId) (device : Device)
    (absent : t.session id = none) (checks : row.checks = true) (bound : row.deviceId = some deviceId)
    (stored : t.device deviceId = some device) (unrevoked : device.revokedAt = none) :
    Advance t { t with
      session := Function.update t.session id (some row)
      device := Function.update t.device deviceId (some (device.withSession id)) } := by
  have kept (other : SessionId) (old : Session) (before : t.session other = some old) :
      Function.update t.session id (some row) other = some old := by
    refine (Function.update_of_ne (fun same => ?_) _ _).trans before
    rw [same,absent] at before
    cases before
  have moves : device.Moves (device.withSession id) := ⟨rfl,rfl,rfl,fun _ => rfl,List.subset_cons_self _ _⟩
  refine ⟨⟨fun other found stored => ?_,fun hash link stored => ?_,valid.single,fun other session otherDevice found of => ?_,
    fun otherDevice owner other found listed => ?_,valid.indexed⟩,⟨fun other old before => ⟨old,kept other old before,.refl old⟩,fun _ row stored => ⟨row,stored,.refl row⟩,
      moved_update .refl deviceId _ fun old before => Option.some.inj (stored.symm.trans before) ▸ moves,
      fun _ row stored => ⟨row,stored,.refl row⟩⟩⟩
  · rcases update_eq_some stored with ⟨_,rfl⟩ | ⟨_,before⟩
    · exact checks
    · exact valid.checked other found before
  · obtain ⟨session,before⟩ := valid.linked hash link stored
    exact ⟨session,kept _ session before⟩
  · rcases update_eq_some found with ⟨rfl,rfl⟩ | ⟨_,before⟩
    · obtain rfl := Option.some.inj (of.symm.trans bound)
      exact ⟨device.withSession other,Function.update_self _ _ _,List.mem_cons_self,fun revoked => by
        simp [Device.withSession,unrevoked] at revoked⟩
    · obtain ⟨owner,there,listed,cascaded⟩ := valid.bound other session otherDevice before of
      by_cases same : otherDevice = deviceId
      · subst same
        obtain rfl := Option.some.inj (stored.symm.trans there)
        exact ⟨device.withSession id,Function.update_self _ _ _,List.mem_cons_of_mem _ listed,cascaded⟩
      · exact ⟨owner,(Function.update_of_ne same _ _).trans there,listed,cascaded⟩
  · have old (device : Device) (there : t.device otherDevice = some device) (listed : other ∈ device.sessions) :
        ∃ session, Function.update t.session id (some row) other = some session := by
      obtain ⟨session,before⟩ := valid.scanned otherDevice device other there listed
      exact ⟨session,kept other session before⟩
    rcases update_eq_some found with ⟨rfl,rfl⟩ | ⟨_,before⟩
    · rcases List.mem_cons.mp listed with rfl | earlier
      · exact ⟨row,Function.update_self _ _ _⟩
      · exact old device stored earlier
    · exact old owner before listed

/-- The first link of a chain -/
theorem Consistent.issueLink (hash : Digest) (link : RefreshToken) (session : Session) (absent : t.link hash = none)
    (stored : t.session link.sessionId = some session)
    (first : ∀ other otherLink, t.link other = some otherLink → otherLink.sessionId ≠ link.sessionId) :
    Advance t { t with link := Function.update t.link hash (some link) } := by
  refine ⟨⟨valid.checked,fun other found there => ?_,fun one two l l' found found' unspent unspent' same => ?_,
    valid.bound,valid.scanned,valid.indexed⟩,⟨fun _ row stored => ⟨row,stored,.refl row⟩,moved_update .refl hash link fun old before => ?_,
      fun _ row stored => ⟨row,stored,.refl row⟩,fun _ row stored => ⟨row,stored,.refl row⟩⟩⟩
  · rcases update_eq_some there with ⟨_,rfl⟩ | ⟨_,before⟩
    · exact ⟨session,stored⟩
    · exact valid.linked other found before
  · rcases update_eq_some found with ⟨rfl,rfl⟩ | ⟨_,before⟩
    · rcases update_eq_some found' with ⟨rfl,rfl⟩ | ⟨_,before'⟩
      · rfl
      · exact absurd same.symm (first two l' before')
    · rcases update_eq_some found' with ⟨rfl,rfl⟩ | ⟨_,before'⟩
      · exact absurd same (first one l before)
      · exact valid.single one two l l' before before' unspent unspent' same
  · rw [absent] at before
    cases before

/-- A new session of a device with the first link of its chain -/
theorem Consistent.openChain (id : SessionId) (row : Session) (deviceId : DeviceId) (device : Device) (hash : Digest)
    (link : RefreshToken) (absent : t.session id = none) (checks : row.checks = true) (bound : row.deviceId = some deviceId)
    (stored : t.device deviceId = some device) (unrevoked : device.revokedAt = none) (unlinked : t.link hash = none)
    (chain : link.sessionId = id) :
    Advance t { t with
      session := Function.update t.session id (some row)
      device := Function.update t.device deviceId (some (device.withSession id))
      link := Function.update t.link hash (some link) } := by
  have opens := valid.openSession id row deviceId device absent checks bound stored unrevoked
  refine opens.trans (opens.consistent.issueLink hash link row unlinked ?_ fun other otherLink found same => ?_)
  · rw [chain]
    exact Function.update_self _ _ _
  · obtain ⟨session,there⟩ := valid.linked other otherLink found
    rw [same,chain,absent] at there
    cases there

/-- The next link of a chain takes the place of the one it spends. -/
theorem Consistent.rotateLink (hash replacement : Digest) (link spent next : RefreshToken)
    (stored : t.link hash = some link) (unspent : link.consumedAt = none) (absent : t.link replacement = none)
    (moves : link.Moves spent) (consumed : spent.consumedAt.isSome) (same : next.sessionId = link.sessionId) :
    Advance t { t with link := Function.update (Function.update t.link replacement (some next)) hash (some spent) } := by
  -- a link found afterwards is the spent one, the next one, or one the rotation left alone
  have origin (other : Digest) (row : RefreshToken)
      (found : Function.update (Function.update t.link replacement (some next)) hash (some spent) other = some row) :
      row = spent ∨ other = replacement ∧ row = next ∨ other ≠ hash ∧ t.link other = some row := by
    rcases update_eq_some found with ⟨_,rfl⟩ | ⟨different,later⟩
    · exact Or.inl rfl
    · rcases update_eq_some later with ⟨rfl,rfl⟩ | ⟨_,before⟩
      · exact Or.inr (Or.inl ⟨rfl,rfl⟩)
      · exact Or.inr (Or.inr ⟨different,before⟩)
  have alone (other : Digest) (row : RefreshToken) (different : other ≠ hash) (before : t.link other = some row)
      (open_ : row.consumedAt = none) : row.sessionId ≠ link.sessionId := fun equal =>
    different (valid.single other hash row link before stored open_ unspent equal)
  refine ⟨⟨valid.checked,fun other found there => ?_,fun one two l l' found found' open_ open' equal => ?_,
    valid.bound,valid.scanned,valid.indexed⟩,⟨fun _ row stored => ⟨row,stored,.refl row⟩,fun other row before => ?_,
      fun _ row stored => ⟨row,stored,.refl row⟩,fun _ row stored => ⟨row,stored,.refl row⟩⟩⟩
  · obtain ⟨session,owner⟩ := valid.linked hash link stored
    rcases origin other found there with rfl | ⟨_,rfl⟩ | ⟨_,before⟩
    · exact ⟨session,moves.sessionId ▸ owner⟩
    · exact ⟨session,same ▸ owner⟩
    · exact valid.linked other found before
  · rcases origin one l found with rfl | ⟨rfl,rfl⟩ | ⟨different,before⟩
    · simp [open_] at consumed
    · rcases origin two l' found' with rfl | ⟨rfl,_⟩ | ⟨different',before'⟩
      · simp [open'] at consumed
      · rfl
      · exact absurd (equal.symm.trans same) (alone two l' different' before' open')
    · rcases origin two l' found' with rfl | ⟨rfl,rfl⟩ | ⟨_,before'⟩
      · simp [open'] at consumed
      · exact absurd (equal.trans same) (alone one l different before open_)
      · exact valid.single one two l l' before before' open_ open' equal
  · by_cases own : other = hash
    · subst own
      obtain rfl := Option.some.inj (stored.symm.trans before)
      exact ⟨spent,Function.update_self _ _ _,moves⟩
    · have fresh : other ≠ replacement := fun equal => by
        rw [equal,absent] at before
        cases before
      exact ⟨row,((Function.update_of_ne own _ _).trans (Function.update_of_ne fresh _ _)).trans before,.refl row⟩

/-- A code that stays as pending as it was -/
theorem Consistent.moveCode (id : PairingCodeId) (row row' : PairingCode) (stored : t.code id = some row)
    (moves : row.Moves row') (same : row'.pending = row.pending) :
    Advance t { t with code := Function.update t.code id (some row') } := by
  refine ⟨⟨valid.checked,valid.linked,valid.single,valid.bound,valid.scanned,fun other found there pending => ?_⟩,
    ⟨fun _ row stored => ⟨row,stored,.refl row⟩,fun _ row stored => ⟨row,stored,.refl row⟩,
      fun _ row stored => ⟨row,stored,.refl row⟩,
      moved_update .refl id row' fun old before => Option.some.inj (stored.symm.trans before) ▸ moves⟩⟩
  rcases update_eq_some there with ⟨rfl,rfl⟩ | ⟨_,before⟩
  · rw [moves.userId,moves.codeHash]
    exact valid.indexed other row stored (same ▸ pending)
  · exact valid.indexed other found before pending

/-- A code that ends leaves both partial indexes, which named no other code. -/
theorem Consistent.endCode (id : PairingCodeId) (row row' : PairingCode) (stored : t.code id = some row)
    (pending : row.pending = true) (moves : row.Moves row') (ended : row'.pending = false) :
    Advance t { t with
      code := Function.update t.code id (some row')
      codeHash := Function.update t.codeHash row.codeHash none
      pendingCode := Function.update t.pendingCode row.userId none } := by
  refine ⟨⟨valid.checked,valid.linked,valid.single,valid.bound,valid.scanned,fun other found there still => ?_⟩,
    ⟨fun _ row stored => ⟨row,stored,.refl row⟩,fun _ row stored => ⟨row,stored,.refl row⟩,
      fun _ row stored => ⟨row,stored,.refl row⟩,
      moved_update .refl id row' fun old before => Option.some.inj (stored.symm.trans before) ▸ moves⟩⟩
  rcases update_eq_some there with ⟨rfl,rfl⟩ | ⟨different,before⟩
  · rw [ended] at still
    cases still
  · obtain ⟨byUser,byHash⟩ := valid.indexed other found before still
    obtain ⟨ownUser,ownHash⟩ := valid.indexed id row stored pending
    have users : found.userId ≠ row.userId := fun same => by
      rw [same,ownUser] at byUser
      exact different (Option.some.inj byUser).symm
    have hashes : found.codeHash ≠ row.codeHash := fun same => by
      rw [same,ownHash] at byHash
      exact different (Option.some.inj byHash).symm
    exact ⟨(Function.update_of_ne users _ _).trans byUser,(Function.update_of_ne hashes _ _).trans byHash⟩

theorem Consistent.addCode (id : PairingCodeId) (row : PairingCode) (absent : t.code id = none)
    (unused : t.codeHash row.codeHash = none) (free : t.pendingCode row.userId = none) :
    Advance t { t with
      code := Function.update t.code id (some row)
      codeHash := Function.update t.codeHash row.codeHash (some id)
      pendingCode := Function.update t.pendingCode row.userId (some id) } := by
  refine ⟨⟨valid.checked,valid.linked,valid.single,valid.bound,valid.scanned,fun other found there pending => ?_⟩,
    ⟨fun _ row stored => ⟨row,stored,.refl row⟩,fun _ row stored => ⟨row,stored,.refl row⟩,
      fun _ row stored => ⟨row,stored,.refl row⟩,moved_update .refl id row fun old before => ?_⟩⟩
  · rcases update_eq_some there with ⟨rfl,rfl⟩ | ⟨_,before⟩
    · exact ⟨Function.update_self _ _ _,Function.update_self _ _ _⟩
    · obtain ⟨byUser,byHash⟩ := valid.indexed other found before pending
      have users : found.userId ≠ row.userId := fun same => by
        rw [same,free] at byUser
        cases byUser
      have hashes : found.codeHash ≠ row.codeHash := fun same => by
        rw [same,unused] at byHash
        cases byHash
      exact ⟨(Function.update_of_ne users _ _).trans byUser,(Function.update_of_ne hashes _ _).trans byHash⟩
  · rw [absent] at before
    cases before

end Changes

end Ratatoskr.Identity
