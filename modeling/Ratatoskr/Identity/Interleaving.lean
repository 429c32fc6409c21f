import Ratatoskr.Identity.Consistency
import Ratatoskr.Lib.Protocol

/-! Logins, refreshes, pairings and revocations interleaved statement by statement: every commit keeps
the tables consistent and moves their rows on. -/
set_option linter.unusedSectionVars false

namespace Ratatoskr.Identity

open Transaction

/-- What the answer of a commit says of the tables before and after it. -/
def Granted.Says (before after : Tables) : Granted → Prop
  | .opened deviceId sessionId =>
    before.session sessionId = none ∧ (∃ device, before.device deviceId = some device ∧ device.revokedAt = none) ∧
      ∃ session, after.session sessionId = some session ∧ session.deviceId = some deviceId
  | .rotated spent sessionId =>
    (∃ link, before.link spent = some link ∧ link.consumedAt = none ∧ link.sessionId = sessionId) ∧
      (∃ link, after.link spent = some link ∧ link.consumedAt.isSome) ∧
      ∃ session, before.session sessionId = some session ∧ session.revokedAt = none
  | .replayed sessionId => ∃ session, after.session sessionId = some session ∧ session.revokedAt.isSome
  | .codeCreated _ => True
  | .paired pairingCodeId deviceId sessionId =>
    before.device deviceId = none ∧ before.session sessionId = none ∧
      (∃ code, after.code pairingCodeId = some code ∧ code.pending = false) ∧
      ∃ code device, before.code pairingCodeId = some code ∧ code.pending = true ∧
        after.device deviceId = some device ∧ device.userId = code.userId ∧ device.siteId = code.siteId ∧
        code.expectedKind.all (· == device.kind)
  | .deviceRevoked deviceId => ∃ device, after.device deviceId = some device ∧ device.revokedAt.isSome
  | .sessionsRevoked sessionIds =>
    ∀ sessionId ∈ sessionIds, ∀ session, after.session sessionId = some session → session.revokedAt.isSome
  | .denied => True
  | .touched => True

/-- A link that a commit leaves spent was spent before, or is the one a rotation answers with. -/
def SpentBy (value : Granted) (before after : Tables) : Prop :=
  ∀ hash, after.Spent hash → before.Spent hash ∨ ∃ sessionId, value = .rotated hash sessionId

structure Committed (value : Granted) (before after : Tables) : Prop where
  advance : Advance before after
  told : value.Says before after
  spends : SpentBy value before after

theorem spent_by_same (value : Granted) {before after : Tables} (same : after.link = before.link) :
    SpentBy value before after := by
  rintro hash ⟨link,stored,spent⟩
  exact Or.inl ⟨link,same ▸ stored,spent⟩

/-- Nor does the issue of a link spend one. -/
theorem spent_by_issue (value : Granted) {before after : Tables} {hash : Digest} {link : RefreshToken}
    (unspent : link.consumedAt = none) (issued : after.link = Function.update before.link hash (some link)) :
    SpentBy value before after := by
  rintro other ⟨row,stored,spent⟩
  rw [issued] at stored
  rcases update_eq_some stored with ⟨_,rfl⟩ | ⟨_,same⟩
  · simp [unspent] at spent
  · exact Or.inl ⟨row,same,spent⟩

variable {τ : Type} [DecidableEq τ]

def credentialProtocol : Protocol IdentityRow Denial Granted τ where
  Invariant rows := Consistent (tables rows)
  Rely rows later := Later (tables rows) (tables later)
  Commits _ value drafts rows := Committed value (tables rows) (tables (overlay drafts rows))
  Abandons _ _ _ := True
  Refuses _ _ := True
  rely_refl rows := Later.refl (tables rows)
  rely_trans _ _ _ := Later.trans
  commit_invariant _ _ _ _ _ committed := committed.advance.consistent
  commit_rely _ _ _ _ _ committed := committed.advance.later
  abandon_stable _ _ _ _ _ _ := trivial

section Safe

variable {t : τ} {drafts : Drafts IdentityRow} {s s' : Rows}

/-- The statements at the end of a handler, which only add to the records of what it did. -/
theorem recorded_safe (records : Statements Unit) (own : Within (fun key => key.shared = false) records) (value : Granted)
    (valid : Consistent (tables s)) (committed : ∀ s', (credentialProtocol (τ := τ)).Env drafts s s' →
      Committed value (tables s') (tables (overlay drafts s'))) :
    credentialProtocol.Safe constraints t (credentialProtocol.Commits t) (records.bind fun _ => .done value) drafts s := by
  refine Protocol.Safe.bind valid (Protocol.Safe.confined own (leaves_any records) (fun _ later s' others grown env s'' env' => ?_)
    (fun _ _ _ _ => trivial) fun _ _ => trivial)
  have same : tables (overlay later s'') = tables (overlay drafts s'') := by
    refine tables_congr _ _ fun key shared => ?_
    have equal := others key (by simp [shared])
    simp only [overlay,equal]
  have here := committed s'' (env.trans _ (env'.weaken grown))
  rwa [← same] at here

theorem within_recordAudit (auditEventId : Nat) (event : AuditEvent) :
    Within (fun key : IdentityTable => key.shared = false) (recordAudit auditEventId event) :=
  within_insertNew (ν := IdentityRow) (fun key : IdentityTable => key.shared = false) (.audit auditEventId) rfl event

theorem within_recordRevocation (revocationId : RevocationId) (subjectKind : RevocationSubject) (subjectId : Nat)
    (reason : RevocationReason) (revokedBy : Option UserId) (revokedAt : Timestamp) :
    Within (fun key : IdentityTable => key.shared = false)
      (recordRevocation revocationId subjectKind subjectId reason revokedBy revokedAt) :=
  within_insertNew (ν := IdentityRow) (fun key : IdentityTable => key.shared = false) (.revocation revocationId) rfl _

theorem within_recordSessionRevocations (drawn : Nat → RevocationId) (revokedBy : UserId) (now : Timestamp)
    (sessionIds : List SessionId) :
    Within (fun key : IdentityTable => key.shared = false) (recordSessionRevocations drawn revokedBy now sessionIds) := by
  induction sessionIds with
  | nil => trivial
  | cons sessionId rest ih => exact within_bind _ _ _ (within_recordRevocation _ _ _ _ _ _) fun _ => ih

theorem login_safe (settings : Settings) (request : Login) :
    credentialProtocol.Safe constraints t (credentialProtocol.Commits t) (request.openDeviceSession settings) Drafts.none s := by
  rw [Login.openDeviceSession]
  split
  · exact fun _ _ => trivial
  rename_i body _
  simp only [authenticateDevice,createSession,issueRefreshToken,Tx.bind_eq,Tx.bind_assoc]
  refine Protocol.Safe.lockKnown (Protocol.knows_nothing _ _) (by simp) (fun _ _ _ _ _ => trivial)
    fun s₁ device env matched knows => ?_
  simp only [Tx.pure_eq,Tx.bind,Option.map_some]
  refine Protocol.Safe.insertKnown knows (by simp) (fun _ => trivial) (fun _ _ _ _ _ _ => trivial)
    fun s₂ env checks knows => ?_
  refine Protocol.Safe.selectForUpdate (fun _ _ _ _ _ => trivial) fun s₃ row env found _ => ?_
  have knows := (knows.env env).lock (.device body.deviceId)
  have same : row = device := by
    have stored := knows.of_mem (.device body.deviceId) (some device) (by simp)
    simpa [stored] using found.symm
  subst same
  refine Protocol.Safe.writeChecked (fun _ _ => trivial) fun s₄ env _ => ?_
  refine Protocol.Safe.insertKnown ((knows.env env).put _ _) (by simp) (fun _ => trivial) (fun _ _ _ _ _ _ => trivial)
    fun s₅ env _ knows => ?_
  refine recorded_safe _ (within_recordAudit _ _) _ env.1 fun s₆ env => ?_
  have knows := knows.env env
  have device : (tables s₆).device body.deviceId = some row := knows.of_mem (.device _) _ (by simp)
  have absent : (tables s₆).session request.sessionId = none := knows.of_mem (.session _) none (by simp)
  have unlinked : (tables s₆).link request.refresh = none := knows.of_mem (.refreshToken _) none (by simp)
  simp only [Bool.and_eq_true,Option.isNone_iff_eq_none] at matched
  have advance := Consistent.openChain env.1 request.sessionId _ body.deviceId row request.refresh
    (refreshLink request.tokenId request.sessionId request.now (request.now + refreshTtl)) absent checks rfl device
    matched.1 unlinked rfl
  simp only [overlay_put,overlay_lock,overlay_none,tables_update_session,tables_update_device,tables_update_link]
  exact ⟨advance,⟨absent,⟨row,device,matched.1⟩,_,Function.update_self _ _ _,rfl⟩,spent_by_issue _ rfl rfl⟩

/-- A family is burned whatever else happens: its session ends revoked, and that is what is committed. -/
theorem replay_safe (request : Refresh) (r : Rotation) (presented : Digest) (link : RefreshToken) (userId : UserId)
    (valid : Consistent (tables s)) (stored : (tables s).link presented = some link) :
    credentialProtocol.Safe constraints t (credentialProtocol.Commits t)
      ((burnFamily r.revocationId link.sessionId r.now).bind fun _ =>
        request.conclude presented (.error (.replayed link.sessionId userId)))
      (Drafts.none.lock (.refreshToken presented)) s := by
  simp only [burnFamily,closeSession,Refresh.conclude,Refresh.audited,Tx.bind_eq,Tx.bind_assoc,Tx.pure_eq]
  have own (sessionId : SessionId) (event : AuditEvent) : Within (fun key : IdentityTable => key.shared = false)
      ((recordRevocation r.revocationId .session sessionId .suspectedCompromise none r.now).bind fun _ =>
        recordAudit request.auditEventId event) :=
    within_bind _ _ _ (within_recordRevocation _ _ _ _ _ _) fun _ => within_recordAudit _ _
  have knows := (Protocol.knows_nothing Drafts.none s).locked (Protocol.Env.refl (credentialProtocol (τ := τ)) _ valid)
    (.refreshToken presented) (some link) stored
  refine Protocol.Safe.updateKnown knows (by simp) (fun _ _ _ _ _ _ => trivial) (fun s₁ env missed => ?_)
    fun s₁ row env matched checks knows => ?_
  · rw [← Tx.bind_assoc]
    refine recorded_safe _ (own _ _) _ env.1 fun s₂ env' => ?_
    -- the session is there, so a predicate that misses it means it is revoked already
    have there : (tables s₁).link presented = some link := (knows.env env).of_mem (.refreshToken _) _ (by simp)
    obtain ⟨row,found⟩ := Consistent.linked env.1 presented link there
    have ended : row.revokedAt.isSome := by
      have found : s₁ (.session link.sessionId) = some row := found
      simpa [found,Option.isSome_iff_ne_none] using missed
    obtain ⟨row',found',moves⟩ := Later.session env'.2.1 link.sessionId row found
    simp only [overlay_lock,overlay_none]
    exact ⟨Consistent.stay env'.1,⟨row',found',moves.stays_revoked ended⟩,spent_by_same _ rfl⟩
  · rw [← Tx.bind_assoc]
    refine recorded_safe _ (own _ _) _ env.1 fun s₂ env => ?_
    have found : (tables s₂).session link.sessionId = some row := (knows.env env).of_mem (.session _) _ (by simp)
    simp only [Option.isNone_iff_eq_none] at matched
    have moves : row.Moves (row.revoked r.now) :=
      ⟨rfl,rfl,rfl,rfl,fun revoked => by simp [matched] at revoked⟩
    have advance := Consistent.moveSession env.1 link.sessionId row _ found moves checks
    simp only [overlay_put,overlay_lock,overlay_none,tables_update_session]
    exact ⟨advance,⟨_,Function.update_self _ _ _,rfl⟩,spent_by_same _ rfl⟩

/-- A select of a link ends with nothing, or with the row it now holds. -/
theorem selectLink_safe {γ : Type} {post : γ → Drafts IdentityRow → Rows → Prop} (presented : Digest)
    (f : Option (RefreshToken × Session) → Statements γ)
    (missed : ∀ s', credentialProtocol.Safe constraints t post (f none) Drafts.none s')
    (found : ∀ s' link session, Consistent (tables s') → (tables s').link presented = some link →
      credentialProtocol.Safe constraints t post (f (some (link,session))) (Drafts.none.lock (.refreshToken presented)) s') :
    credentialProtocol.Safe constraints t post ((selectLink presented).bind f) Drafts.none s := by
  simp only [selectLink,Tx.bind_eq,Tx.bind_assoc]
  refine Protocol.Safe.select fun s₁ env => ?_
  cases overlay Drafts.none s₁ (.refreshToken presented) with
  | none => exact missed s₁
  | some seen =>
    simp only [Tx.bind_assoc]
    refine Protocol.Safe.select fun s₂ env => ?_
    cases overlay Drafts.none s₂ (.session seen.sessionId) with
    | none => exact missed s₂
    | some session =>
      simp only [Tx.bind_assoc]
      refine Protocol.Safe.lockKnown (Protocol.knows_nothing _ _) (by simp) (fun s₃ _ _ => missed s₃) fun s₃ link env _ knows => ?_
      exact found s₃ link session env.1 (knows.of_mem (.refreshToken presented) _ (by simp))

/-- A rotation spends the link it holds and renews a session that is not revoked when it is written. -/
theorem rotate_safe (request : Refresh) (r : Rotation) :
    credentialProtocol.Safe constraints t (credentialProtocol.Commits t)
      ((rotateSession r).bind fun outcome => request.conclude r.presented outcome) Drafts.none s := by
  simp only [rotateSession,Tx.bind_eq,Tx.bind_assoc]
  refine selectLink_safe r.presented _ (fun _ _ _ => trivial) fun s₁ link session valid stored => ?_
  by_cases spent : link.consumedAt.isSome = true
  · simp only [if_pos spent,Tx.bind_assoc,Tx.pure_eq,Tx.bind]
    exact replay_safe request r r.presented link session.userId valid stored
  simp only [if_neg spent]
  split
  · exact fun _ _ => trivial
  split
  · exact fun _ _ => trivial
  simp only [issueRefreshToken,Tx.bind_assoc]
  have knows := (Protocol.knows_nothing Drafts.none s₁).locked (Protocol.Env.refl (credentialProtocol (τ := τ)) _ valid)
    (.refreshToken r.presented) (some link) stored
  refine Protocol.Safe.insertKnown knows (by simp) (fun _ => trivial) (fun _ _ _ _ _ _ => trivial)
    fun s₂ env _ knows => ?_
  have linked : s₂ (.refreshToken r.presented) = some link := knows.of_mem (.refreshToken r.presented) _ (by simp)
  have unused : s₂ (.refreshToken r.replacementRefresh) = none :=
    knows.of_mem (.refreshToken r.replacementRefresh) none (by simp)
  have different : IdentityTable.refreshToken r.presented ≠ .refreshToken r.replacementRefresh := fun same => by
    rw [IdentityTable.refreshToken.inj same,unused] at linked
    cases linked
  refine Protocol.Safe.updateChecked (fun _ _ _ _ _ _ => trivial) (fun s₃ env missed => ?_) fun s₃ row env found _ _ => ?_
  · have linked := (knows.env env).of_mem (.refreshToken r.presented) (some link) (by simp)
    simp [Function.update_of_ne different,linked] at missed
  have linked := (knows.env env).of_mem (.refreshToken r.presented) (some link) (by simp)
  have same : row = link := by simpa [Function.update_of_ne different,linked] using found.symm
  subst same
  refine Protocol.Safe.updateKnown ((knows.env env).put _ _) (by simp) (fun _ _ _ _ _ _ => trivial)
    (fun _ _ _ _ _ => trivial) fun s₄ session env matched checks knows => ?_
  simp only [if_true,Tx.pure_eq,Tx.bind,Refresh.conclude,Refresh.audited]
  refine recorded_safe _ (within_recordAudit _ _) _ env.1 fun s₅ env => ?_
  have knows := knows.env env
  have linked : (tables s₅).link r.presented = some row := knows.of_mem (.refreshToken _) _ (by simp)
  have unused : (tables s₅).link r.replacementRefresh = none := knows.of_mem (.refreshToken _) none (by simp)
  have stored : (tables s₅).session row.sessionId = some session := knows.of_mem (.session _) _ (by simp)
  simp only [Option.isNone_iff_eq_none] at matched
  simp only [Option.isSome_iff_ne_none,not_not] at spent
  have rotates := Consistent.rotateLink env.1 r.presented r.replacementRefresh row (row.spent r.successor r.now)
    (refreshLink r.successor row.sessionId r.now r.refreshExpiresAt) linked spent unused
    ⟨rfl,fun consumed => by simp [spent] at consumed⟩ rfl rfl
  have advance := rotates.trans (rotates.consistent.moveSession row.sessionId session
    (session.renewed r.replacementAccess r.now r.accessExpiresAt) stored ⟨rfl,rfl,rfl,rfl,fun _ => rfl⟩ checks)
  simp only [overlay_put,overlay_lock,overlay_none,tables_update_session,tables_update_link]
  refine ⟨advance,⟨⟨row,linked,spent,rfl⟩,⟨_,Function.update_self _ _ _,rfl⟩,session,stored,matched⟩,?_⟩
  rintro hash ⟨next,after,consumed⟩
  rcases update_eq_some after with ⟨rfl,_⟩ | ⟨_,later⟩
  · exact Or.inr ⟨_,rfl⟩
  · rcases update_eq_some later with ⟨_,rfl⟩ | ⟨_,same⟩
    · cases consumed
    · exact Or.inl ⟨next,same,consumed⟩

theorem refresh_safe (settings : Settings) (request : Refresh) :
    credentialProtocol.Safe constraints t (credentialProtocol.Commits t) (request.refresh settings) Drafts.none s := by
  rw [Refresh.refresh]
  split
  · exact fun _ _ => trivial
  rename_i presented _
  exact rotate_safe request (request.rotation presented)

/-- A new code goes in once its owner's pending one is out. -/
theorem insertCode_safe (request : CodeCreation) (new : NewPairingCode)
    (before : ∀ s', (credentialProtocol (τ := τ)).Env drafts s s' →
      Advance (tables s') (tables (overlay drafts s')) ∧ (tables (overlay drafts s')).link = (tables s').link)
    (event : AuditEvent) :
    credentialProtocol.Safe constraints t (credentialProtocol.Commits t)
      ((Tx.insertNew (ν := IdentityRow) (.pairingCode request.pairingCodeId) new.row).bind fun _ =>
        (Tx.insertNew (ν := IdentityRow) (.codeHash new.codeDigest) request.pairingCodeId).bind fun _ =>
          (Tx.insertNew (ν := IdentityRow) (.pendingCode new.userId) request.pairingCodeId).bind fun _ =>
            (recordAudit request.auditEventId event).bind fun _ => .done (.codeCreated request.pairingCodeId)) drafts s := by
  refine Protocol.Safe.insertSeen (Protocol.knows_nothing _ _) (fun _ => trivial) (fun _ _ _ _ _ _ => trivial)
    fun s₁ env₁ absent _ knows => ?_
  refine Protocol.Safe.insertSeen knows (fun _ => trivial) (fun _ _ _ _ _ _ => trivial) fun s₂ env₂ unused _ knows => ?_
  refine Protocol.Safe.insertSeen knows (fun _ => trivial) (fun _ _ _ _ _ _ => trivial) fun s₃ env₃ free _ knows => ?_
  refine recorded_safe _ (within_recordAudit _ _) _ env₃.1 fun s₄ env₄ => ?_
  have knows := knows.env env₄
  obtain ⟨advance,link⟩ := before s₄ (env₁.trans _ ((env₂.weaken (put_isSome_of _ _ _)).trans _
    ((env₃.weaken fun key held => put_isSome_of _ _ _ _ (put_isSome_of _ _ _ _ held)).trans _
      (env₄.weaken fun key held => put_isSome_of _ _ _ _ (put_isSome_of _ _ _ _ (put_isSome_of _ _ _ _ held))))))
  simp only [overlay_put,ne_eq,reduceCtorEq,not_false_eq_true,Function.update_of_ne] at unused free
  have absent := (overlay_congr drafts (knows.of_mem (.pairingCode _) _ (by simp))).trans absent
  have unused := (overlay_congr drafts (knows.of_mem (.codeHash _) _ (by simp))).trans unused
  have free := (overlay_congr drafts (knows.of_mem (.pendingCode _) _ (by simp))).trans free
  simp only [overlay_put,tables_update_code,tables_update_codeHash,tables_update_pendingCode]
  exact ⟨advance.trans (advance.consistent.addCode request.pairingCodeId new.row absent unused free),trivial,
    spent_by_same _ link⟩

/-- The pending code of the owner, if there is one, ends before the new one goes in. -/
theorem supersede_safe (request : CodeCreation) (new : NewPairingCode) (event : AuditEvent)
    (clear : ∀ s', overlay drafts s' = s') :
    credentialProtocol.Safe constraints t (credentialProtocol.Commits t)
      ((supersedePending new.userId new.now).bind fun _ =>
        (Tx.insertNew (ν := IdentityRow) (.pairingCode request.pairingCodeId) new.row).bind fun _ =>
          (Tx.insertNew (ν := IdentityRow) (.codeHash new.codeDigest) request.pairingCodeId).bind fun _ =>
            (Tx.insertNew (ν := IdentityRow) (.pendingCode new.userId) request.pairingCodeId).bind fun _ =>
              (recordAudit request.auditEventId event).bind fun _ => .done (.codeCreated request.pairingCodeId)) drafts s := by
  have untouched (s' : Rows) (env : (credentialProtocol (τ := τ)).Env drafts s s') :
      Advance (tables s') (tables (overlay drafts s')) ∧ (tables (overlay drafts s')).link = (tables s').link := by
    rw [clear]
    exact ⟨Consistent.stay env.1,rfl⟩
  simp only [supersedePending,endPending,Tx.bind_eq,Tx.bind_assoc]
  refine Protocol.Safe.select fun s₁ env => ?_
  cases overlay drafts s₁ (.pendingCode new.userId) with
  | none => exact insertCode_safe request new (fun s' later => untouched s' (env.trans _ later)) event
  | some pairingCodeId =>
    simp only [Tx.bind_assoc]
    refine Protocol.Safe.lockKnown (Protocol.knows_nothing _ _) (fun s' => by rw [clear]) (fun s₂ env' _ => ?_)
      fun s₂ row env' matched knows => ?_
    · exact insertCode_safe request new (fun s' later => untouched s' (env.trans _ (env'.trans _ later))) event
    refine Protocol.Safe.writeChecked (fun _ _ => trivial) fun s₃ env _ => ?_
    refine Protocol.Safe.removeSeen ((knows.env env).put _ _) fun s₄ env knows => ?_
    refine Protocol.Safe.removeSeen knows fun s₅ env knows => ?_
    refine insertCode_safe request new (fun s' later => ?_) event
    have stored : (tables s').code pairingCodeId = some row := (knows.env later).of_mem (.pairingCode _) _ (by simp)
    simp only [Bool.and_eq_true] at matched
    have ends := Consistent.endCode later.1 pairingCodeId row (row.superseded new.now) stored matched.2
      ⟨rfl,rfl,rfl,rfl,rfl,fun _ => by simp [PairingCode.superseded,PairingCode.pending]⟩
      (by simp [PairingCode.superseded,PairingCode.pending])
    simp only [overlay_put,overlay_lock,clear,tables_update_code,tables_update_codeHash,tables_update_pendingCode]
    exact ⟨ends,trivial⟩

theorem createCode_safe (request : CodeCreation) :
    credentialProtocol.Safe constraints t (credentialProtocol.Commits t) request.createPairingCode Drafts.none s := by
  rw [CodeCreation.createPairingCode]
  split
  · exact fun _ _ => trivial
  split
  · exact fun _ _ => trivial
  split
  · exact fun _ _ => trivial
  split
  · exact fun _ _ => trivial
  simp only [createCode,Tx.bind_eq,Tx.bind_assoc]
  refine Protocol.Safe.selectForUpdate (fun _ _ _ => ?_) fun _ _ _ _ _ => ?_
  · exact supersede_safe request (request.newCode _ _ _) _ fun _ => overlay_none _
  · exact supersede_safe request (request.newCode _ _ _) _ fun _ => by simp

/-- A kind that the code refuses ends the exchange without a commit. -/
theorem kindRefused_safe {γ : Type} {post : γ → Drafts IdentityRow → Rows → Prop} (pairingCodeId : PairingCodeId)
    (row : PairingCode) (declared : DeviceKind) (f : Bool → Statements γ)
    (refused : ∀ drafts s', credentialProtocol.Safe constraints t post (f true) drafts s')
    (granted : row.expectedKind.all (· == declared) = true → credentialProtocol.Safe constraints t post (f false) drafts s) :
    credentialProtocol.Safe constraints t post ((kindRefused pairingCodeId row declared).bind f) drafts s := by
  rw [kindRefused]
  cases pinned : row.expectedKind with
  | none =>
    simp only [Tx.pure_eq,Tx.bind]
    by_cases deployer : declared = .siteDeployer
    · subst deployer
      exact refused _ _
    · rw [show (declared == DeviceKind.siteDeployer) = false from beq_eq_false_iff_ne.mpr deployer]
      exact granted (by simp [pinned])
  | some kind =>
    dsimp only
    split
    · simp only [Tx.bind_eq,Tx.bind_assoc]
      exact Protocol.Safe.updateWhere (fun _ => trivial) (fun _ _ _ => refused _ _) fun _ _ _ _ _ => refused _ _
    · rename_i same
      exact granted (by simpa [pinned] using same)

/-- A redemption consumes a code that is pending when it is written, for one device with one session. -/
theorem redeem_safe (request : Pairing) (r : PairRequest) :
    credentialProtocol.Safe constraints t (credentialProtocol.Commits t)
      ((redeem r).bind fun outcome => request.conclude outcome) Drafts.none s := by
  simp only [redeem,selectCode,Tx.bind_eq,Tx.bind_assoc]
  refine Protocol.Safe.select fun s₁ env => ?_
  cases overlay Drafts.none s₁ (.codeHash r.presented) with
  | none => exact fun _ _ => trivial
  | some pairingCodeId =>
  simp only [Tx.bind_assoc]
  refine Protocol.Safe.lockKnown (Protocol.knows_nothing _ _) (by simp) (fun _ _ _ _ _ => trivial)
    fun s₂ code env redeemable knows => ?_
  simp only [Tx.pure_eq,Tx.bind,Option.map_some,Tx.bind_assoc]
  refine kindRefused_safe pairingCodeId code r.declaredKind _ (fun _ _ _ _ => trivial) fun pinned => ?_
  simp only [registerSiteDevice,endPending,createSession,issueRefreshToken,Bool.false_eq_true,if_false,Tx.bind_eq,Tx.bind_assoc]
  refine Protocol.Safe.insertKnown knows (by simp) (fun _ => trivial) (fun _ _ _ _ _ _ => trivial)
    fun s₃ env _ knows => ?_
  refine Protocol.Safe.selectForUpdate (fun _ _ _ _ _ => trivial) fun s₄ row env found _ => ?_
  have same : row = code := by
    have stored := (knows.env env).of_mem (.pairingCode pairingCodeId) (some code) (by simp)
    simpa [stored] using found.symm
  subst same
  refine Protocol.Safe.writeChecked (fun _ _ => trivial) fun s₅ env' _ => ?_
  refine Protocol.Safe.removeSeen ((((knows.env env).lock _).env env').put _ _) fun s₆ env knows => ?_
  refine Protocol.Safe.removeSeen knows fun s₇ env knows => ?_
  simp only [Tx.bind,if_true,Tx.bind_assoc]
  refine Protocol.Safe.insertKnown knows (by simp) (fun _ => trivial) (fun _ _ _ _ _ _ => trivial)
    fun s₈ env checks knows => ?_
  refine Protocol.Safe.selectForUpdate (fun _ _ _ _ _ => trivial) fun s₉ device env found _ => ?_
  simp only [overlay_put,overlay_lock,overlay_none,ne_eq,reduceCtorEq,not_false_eq_true,Function.update_of_ne,
    Function.update_self,Option.some.injEq] at found
  subst found
  refine Protocol.Safe.writeChecked (fun _ _ => trivial) fun s₁₀ env' _ => ?_
  refine Protocol.Safe.insertKnown ((((knows.env env).lock _).env env').put _ _) (by simp) (fun _ => trivial)
    (fun _ _ _ _ _ _ => trivial) fun s₁₁ env _ knows => ?_
  simp only [Pairing.conclude,Tx.bind_eq,Tx.pure_eq]
  refine recorded_safe _ (within_recordAudit _ _) _ env.1 fun s₁₂ env => ?_
  have knows := knows.env env
  have stored : (tables s₁₂).code pairingCodeId = some row := knows.of_mem (.pairingCode _) _ (by simp)
  have newDevice : (tables s₁₂).device r.deviceId = none := knows.of_mem (.device _) none (by simp)
  have newSession : (tables s₁₂).session r.sessionId = none := knows.of_mem (.session _) none (by simp)
  have newLink : (tables s₁₂).link r.refreshToken = none := knows.of_mem (.refreshToken _) none (by simp)
  have pending : row.pending = true := by
    simp only [PairingCode.redeemable,Bool.and_eq_true] at redeemable
    exact redeemable.1.1.2
  have consumed : (row.consumed r.deviceId r.now).pending = false := by simp [PairingCode.consumed,PairingCode.pending]
  have adds := Consistent.addDevice env.1 r.deviceId
    (NewDevice.row ⟨row.userId,r.declaredKind,r.displayName,row.siteId⟩ r.deviceSecret r.now) newDevice rfl
  have ends := adds.consistent.endCode pairingCodeId row (row.consumed r.deviceId r.now) stored pending
    ⟨rfl,rfl,rfl,rfl,rfl,fun _ => consumed⟩ consumed
  have opens := ends.consistent.openChain r.sessionId _ r.deviceId _ r.refreshToken
    (refreshLink r.tokenId r.sessionId r.now r.refreshExpiresAt) newSession checks rfl (Function.update_self _ _ _) rfl newLink rfl
  simp only [overlay_put,overlay_lock,overlay_none,tables_update_session,tables_update_device,tables_update_link,
    tables_update_code,tables_update_codeHash,tables_update_pendingCode]
  refine ⟨(adds.trans ends).trans opens,⟨newDevice,newSession,⟨_,Function.update_self _ _ _,consumed⟩,row,_,stored,pending,
    Function.update_self _ _ _,rfl,rfl,pinned⟩,spent_by_issue _ rfl rfl⟩

theorem pair_safe (settings : Settings) (request : Pairing) :
    credentialProtocol.Safe constraints t (credentialProtocol.Commits t) (request.pair settings) Drafts.none s := by
  rw [Pairing.pair]
  split
  · exact fun _ _ => trivial
  · exact redeem_safe request _

section Closing

variable (matching : Session → Bool) (revokedAt : Timestamp) (before : Drafts IdentityRow) (start : Rows)

/-- A transaction that closes sessions: beyond its earlier drafts it has only revoked sessions that were
not, and of those it visited the matching ones that were there at the start are revoked. -/
structure Closing (visited : List SessionId) (drafts : Drafts IdentityRow) (s : Rows) : Prop where
  later : Later (tables start) (tables s)
  others : ∀ key, (∀ id, key ≠ .session id) → drafts key = before key
  written : ∀ id, drafts (.session id) = none ∨ ∃ row, s (.session id) = some row ∧ row.revokedAt = none ∧
    (row.revoked revokedAt).checks = true ∧ drafts (.session id) = some (.written (some (row.revoked revokedAt)))
  closed : ∀ id ∈ visited, ∀ row, start (.session id) = some row → matching row = true →
    ∃ now, overlay drafts s (.session id) = some now ∧ now.revokedAt.isSome

variable {matching revokedAt before start} {visited : List SessionId}

theorem closing_nothing (bare : ∀ id, before (.session id) = none) :
    Closing matching revokedAt before start [] before start :=
  ⟨Later.refl _,fun _ _ => rfl,fun id => Or.inl (bare id),fun _ member => by cases member⟩

theorem Closing.env (closing : Closing matching revokedAt before start visited drafts s)
    (env : (credentialProtocol (τ := τ)).Env drafts s s') : Closing matching revokedAt before start visited drafts s' := by
  refine ⟨closing.later.trans env.2.1,closing.others,fun id => ?_,fun id listed row there matched => ?_⟩
  · rcases closing.written id with free | ⟨row,stored,unrevoked,checks,written⟩
    · exact Or.inl free
    · exact Or.inr ⟨row,(env.2.2 _ (by simp [written])).trans stored,unrevoked,checks,written⟩
  · obtain ⟨now,found,revoked⟩ := closing.closed id listed row there matched
    rcases closing.written id with free | ⟨old,_,_,_,written⟩
    · rw [overlay_free free] at found
      obtain ⟨moved,found',moves⟩ := Later.session env.2.1 id now found
      exact ⟨moved,(overlay_free free _).trans found',moves.stays_revoked revoked⟩
    · exact ⟨old.revoked revokedAt,by simp only [overlay,written],rfl⟩

/-- The sessions are the one thing that such a transaction moves, beside what it had written earlier. -/
theorem Closing.advance (closing : Closing matching revokedAt before start visited drafts s) (valid : Consistent (tables s)) :
    Advance (tables s) { tables s with session := fun id => overlay drafts s (.session id) } := by
  refine valid.moveSessions _ fun id => ?_
  rcases closing.written id with free | ⟨row,stored,unrevoked,checks,written⟩
  · exact Or.inl (overlay_free free s)
  · exact Or.inr ⟨row,row.revoked revokedAt,stored,by simp only [overlay,written],
      ⟨rfl,rfl,rfl,rfl,fun revoked => by simp [unrevoked] at revoked⟩,checks⟩

theorem Closing.tables_eq (closing : Closing matching revokedAt before start visited drafts s) :
    tables (overlay drafts s) =
      { tables (overlay before s) with session := fun id => overlay drafts s (.session id) } := by
  have other (key : IdentityTable) (outside : ∀ id, key ≠ .session id) : overlay drafts s key = overlay before s key := by
    simp only [overlay,closing.others key outside]
  simp only [tables]
  congr 1 <;> exact funext fun id => other _ (by simp)

/-- One visit: a session that does not match, or is revoked already, is left alone. -/
theorem Closing.visit (closing : Closing matching revokedAt before start visited drafts s)
    (fixed : ∀ row now : Session, row.Moves now → matching now = matching row) (id : SessionId)
    (missed : (overlay drafts s (.session id)).filter (fun row => matching row && row.revokedAt.isNone) = none) :
    Closing matching revokedAt before start (id :: visited) drafts s := by
  refine ⟨closing.later,closing.others,closing.written,fun other listed row there matched => ?_⟩
  rcases List.mem_cons.mp listed with rfl | earlier
  · obtain ⟨now,found,moves⟩ := closing.later.session other row there
    have found : s (.session other) = some now := found
    rcases closing.written other with free | ⟨old,_,_,_,written⟩
    · rw [overlay_free free,found] at missed
      rw [overlay_free free]
      refine ⟨now,found,?_⟩
      simpa [(fixed row now moves).trans matched,Option.isSome_iff_ne_none] using missed
    · exact ⟨old.revoked revokedAt,by simp only [overlay,written],rfl⟩
  · exact closing.closed other earlier row there matched

theorem Closing.close (closing : Closing matching revokedAt before start visited drafts s) (id : SessionId) (row : Session)
    (found : overlay drafts s (.session id) = some row) (unrevoked : row.revokedAt = none)
    (checks : (row.revoked revokedAt).checks = true) :
    Closing matching revokedAt before start (id :: visited) (drafts.put (.session id) (some (row.revoked revokedAt))) s := by
  have free : drafts (.session id) = none := by
    rcases closing.written id with free | ⟨old,_,_,_,written⟩
    · exact free
    · simp only [overlay,written,Option.some.injEq] at found
      rw [← found] at unrevoked
      cases unrevoked
  rw [overlay_free free] at found
  refine ⟨closing.later,fun key other => ?_,fun other => ?_,fun other listed old there matched => ?_⟩
  · rw [put_of_ne _ _ _ _ (other id)]
    exact closing.others key other
  · by_cases same : other = id
    · subst same
      exact Or.inr ⟨row,found,unrevoked,checks,put_self _ _ _⟩
    · rw [put_of_ne _ _ _ _ fun equal => same (IdentityTable.session.inj equal)]
      exact closing.written other
  · by_cases same : other = id
    · subst same
      exact ⟨row.revoked revokedAt,by simp,rfl⟩
    · obtain ⟨now,seen,revoked⟩ := closing.closed other ((List.mem_cons.mp listed).resolve_left same) old there matched
      refine ⟨now,?_,revoked⟩
      rw [overlay_put,Function.update_of_ne fun equal => same (IdentityTable.session.inj equal)]
      exact seen

/-- The whole statement: what it answers is what it has written. -/
theorem closeSessions_safe {γ : Type} {post : γ → Drafts IdentityRow → Rows → Prop}
    (fixed : ∀ row now : Session, row.Moves now → matching now = matching row) (rest : List SessionId)
    (f : List SessionId → Statements γ) (closing : Closing matching revokedAt before start visited drafts s)
    (valid : Consistent (tables s))
    (next : ∀ closed drafts' s', (credentialProtocol (τ := τ)).Env drafts s s' →
      (∀ key, (drafts key).isSome → (drafts' key).isSome) → (∀ id ∈ closed, (drafts' (.session id)).isSome) →
      Closing matching revokedAt before start (rest.reverse ++ visited) drafts' s' →
      credentialProtocol.Safe constraints t post (f closed) drafts' s') :
    credentialProtocol.Safe constraints t post ((closeSessions matching revokedAt rest).bind f) drafts s := by
  induction rest generalizing f visited drafts s with
  | nil => exact next [] drafts s (Protocol.Env.refl credentialProtocol _ valid) (fun _ => id) (by simp) closing
  | cons id rest ih =>
    simp only [closeSessions,Tx.bind_eq,Tx.bind_assoc]
    refine Protocol.Safe.updateChecked (fun _ _ _ _ _ _ => trivial) (fun s₁ env missed => ?_)
      fun s₁ row env found matched checks => ?_
    · refine ih _ ((closing.env env).visit fixed id missed) env.1 fun closed drafts' s' env' grown wrote closing => ?_
      refine next closed drafts' s' (env.trans _ env') grown wrote ?_
      simpa using closing
    · simp only [Bool.and_eq_true,Option.isNone_iff_eq_none] at matched
      refine ih _ ((closing.env env).close id row found matched.2 checks) env.1
        fun closed drafts' s' env' grown wrote closing => ?_
      have kept (key : IdentityTable) (held : (drafts key).isSome) := put_isSome_of drafts (.session id)
        (some (row.revoked revokedAt)) key held
      refine next (id :: closed) drafts' s' (env.trans _ (env'.weaken kept)) (fun key held => grown key (kept key held))
        (fun other member => ?_) (by simpa using closing)
      rcases List.mem_cons.mp member with rfl | later
      · exact grown _ (by simp)
      · exact wrote other later

theorem fixed_device (deviceId : DeviceId) (row now : Session) (moves : row.Moves now) :
    (now.deviceId == some deviceId) = (row.deviceId == some deviceId) := by rw [moves.deviceId]

/-- A revoked device takes the sessions bound to it along. -/
theorem revokeDevice_safe {γ : Type} {post : γ → Drafts IdentityRow → Rows → Prop} (deviceId : DeviceId)
    (revokedAt : Timestamp) (f : List SessionId → Statements γ) (device : Device)
    (there : (tables s).device deviceId = some device)
    (next : ∀ closed drafts' s', Consistent (tables s') → (∀ s'', (credentialProtocol (τ := τ)).Env drafts' s' s'' →
      Advance (tables s'') (tables (overlay drafts' s'')) ∧ (tables (overlay drafts' s'')).link = (tables s'').link ∧
        ∃ now, (tables (overlay drafts' s'')).device deviceId = some now ∧ now.revokedAt.isSome) →
      credentialProtocol.Safe constraints t post (f closed) drafts' s') :
    credentialProtocol.Safe constraints t post ((revokeDevice deviceId revokedAt).bind f) Drafts.none s := by
  simp only [revokeDevice,Tx.bind_eq,Tx.bind_assoc]
  refine Protocol.Safe.updateKnown (Protocol.knows_nothing _ _) (by simp) (fun _ _ _ _ _ _ => trivial)
    (fun s₁ env missed => ?_) fun s₁ row env matched checks knows => ?_
  · -- the device is there, so a predicate that misses it means it is revoked already
    obtain ⟨now,stored,_⟩ := Later.device env.2.1 deviceId device there
    have stored : s₁ (.device deviceId) = some now := stored
    have revoked : now.revokedAt.isSome := by simpa [stored,Option.isSome_iff_ne_none] using missed
    refine Protocol.Safe.select fun s₂ env' => ?_
    obtain ⟨here,stored',moves⟩ := Later.device env'.2.1 deviceId now stored
    have stored' : s₂ (.device deviceId) = some here := stored'
    simp only [overlay_none,stored']
    refine closeSessions_safe (fixed_device deviceId) here.sessions f (closing_nothing fun _ => rfl) env'.1
      fun closed drafts' s₃ env₃ _ _ closing => next closed drafts' s₃ env₃.1 fun s₄ env₄ => ?_
    have closing := closing.env env₄
    obtain ⟨last,found,moves'⟩ := Later.device closing.later deviceId here stored'
    rw [closing.tables_eq]
    refine ⟨closing.advance env₄.1,rfl,last,found,?_⟩
    have first := moves.revoked revoked
    rw [moves'.revoked (first ▸ revoked),first]
    exact revoked
  · refine Protocol.Safe.select fun s₂ env' => ?_
    have knows := knows.env env'
    simp only [overlay_put,overlay_none,Function.update_self]
    refine closeSessions_safe (fixed_device deviceId) (row.revoked revokedAt).sessions f
      (closing_nothing fun _ => put_of_ne _ _ _ _ (by simp)) env'.1 fun closed drafts' s₃ env₃ grown _ closing =>
        next closed drafts' s₃ env₃.1 fun s₄ env₄ => ?_
    have closing := closing.env env₄
    have stored : (tables s₂).device deviceId = some row := knows.of_mem (.device deviceId) _ (by simp)
    have held : (tables s₄).device deviceId = some row :=
      ((knows.env env₃).env (env₄.weaken grown)).of_mem (.device deviceId) _ (by simp)
    simp only [Option.isNone_iff_eq_none] at matched
    have advance := closing.advance env₄.1
    rw [closing.tables_eq]
    simp only [overlay_put,overlay_none,tables_update_device]
    refine ⟨advance.trans (advance.consistent.moveDevice deviceId row _ held
      ⟨rfl,rfl,rfl,fun revoked => by simp [matched] at revoked,List.Subset.refl _⟩ rfl fun _ sessionId session found bound => ?_),
      trivial,_,Function.update_self _ _ _,rfl⟩
    -- the scan by device finds the session, and it was there when the scan began
    obtain ⟨listed,scanned⟩ : sessionId ∈ row.sessions ∧ ∃ first, s₂ (.session sessionId) = some first := by
      obtain ⟨owner,owned,listed,_⟩ := advance.consistent.bound sessionId session deviceId found bound
      obtain rfl := Option.some.inj (owned.symm.trans held)
      exact ⟨listed,Consistent.scanned env'.1 deviceId owner sessionId stored listed⟩
    obtain ⟨first,there⟩ := scanned
    obtain ⟨middle,moved,moves⟩ := Later.session closing.later sessionId first there
    obtain ⟨now,after,moves'⟩ := advance.later.session sessionId middle moved
    obtain rfl := Option.some.inj (found.symm.trans after)
    have own : first.deviceId = some deviceId := (moves.trans moves').deviceId ▸ bound
    obtain ⟨last,closed,revoked⟩ := closing.closed sessionId (by simpa [Device.revoked] using listed) first there (by simp [own])
    obtain rfl := Option.some.inj (after.symm.trans closed)
    exact revoked

theorem deleteDevice_safe (request : DeviceDeletion) :
    credentialProtocol.Safe constraints t (credentialProtocol.Commits t) request.deleteDevice Drafts.none s := by
  simp only [DeviceDeletion.deleteDevice,Tx.bind_eq,Tx.pure_eq]
  refine Protocol.Safe.select fun s₁ env => ?_
  simp only [overlay_none]
  cases found : s₁ (.device request.deviceId) with
  | none => exact fun _ _ => trivial
  | some device =>
    dsimp only
    split
    · refine recorded_safe _ (within_recordAudit _ _) _ env.1 fun s₂ env => ?_
      exact ⟨Consistent.stay env.1,trivial,spent_by_same _ rfl⟩
    split
    · exact fun _ _ => trivial
    refine revokeDevice_safe request.deviceId request.now _ device found fun closed drafts' s₂ valid ends => ?_
    simp only [DeviceDeletion.audited,← Tx.bind_assoc]
    refine recorded_safe _ (within_bind _ _ _ (within_bind _ _ _ (within_recordRevocation _ _ _ _ _ _) fun _ =>
      within_recordSessionRevocations _ _ _ _) fun _ => within_recordAudit _ _) _ valid fun s₃ env => ?_
    obtain ⟨advance,link,revoked⟩ := ends s₃ env
    exact ⟨advance,revoked,spent_by_same _ link⟩

theorem revokeSession_safe (request : SessionDeletion) :
    credentialProtocol.Safe constraints t (credentialProtocol.Commits t) request.revokeSession Drafts.none s := by
  simp only [SessionDeletion.revokeSession,Tx.bind_eq,Tx.pure_eq]
  refine Protocol.Safe.select fun s₁ env => ?_
  simp only [overlay_none]
  cases found : s₁ (.session request.sessionId) with
  | none => exact fun _ _ => trivial
  | some session =>
    dsimp only
    split
    · refine recorded_safe _ (within_recordAudit _ _) _ env.1 fun s₂ env => ?_
      exact ⟨Consistent.stay env.1,trivial,spent_by_same _ rfl⟩
    split
    · exact fun _ _ => trivial
    have own : Within (fun key : IdentityTable => key.shared = false)
        ((recordRevocation request.revocationId .session request.sessionId .userRequest (some request.principal.userId)
          request.now).bind fun _ => request.audited .allowed) :=
      within_bind _ _ _ (within_recordRevocation _ _ _ _ _ _) fun _ => within_recordAudit _ _
    refine Protocol.Safe.updateKnown (Protocol.knows_nothing _ _) (by simp) (fun _ _ _ _ _ _ => trivial)
      (fun s₂ env' missed => ?_) fun s₂ row env' matched checks knows => ?_
    · rw [← Tx.bind_assoc]
      refine recorded_safe _ own _ env'.1 fun s₃ env'' => ?_
      obtain ⟨now,stored,_⟩ := Later.session env'.2.1 request.sessionId session found
      have stored : s₂ (.session request.sessionId) = some now := stored
      have ended : now.revokedAt.isSome := by simpa [stored,Option.isSome_iff_ne_none] using missed
      obtain ⟨last,stored',moves⟩ := Later.session env''.2.1 request.sessionId now stored
      refine ⟨Consistent.stay env''.1,fun id member row there => ?_,spent_by_same _ rfl⟩
      obtain rfl := List.mem_singleton.mp member
      obtain rfl := Option.some.inj (there.symm.trans stored')
      exact moves.stays_revoked ended
    · rw [← Tx.bind_assoc]
      refine recorded_safe _ own _ env'.1 fun s₃ env'' => ?_
      have stored : (tables s₃).session request.sessionId = some row := (knows.env env'').of_mem (.session _) _ (by simp)
      simp only [Option.isNone_iff_eq_none] at matched
      have advance := Consistent.moveSession env''.1 request.sessionId row (row.revoked request.now) stored
        ⟨rfl,rfl,rfl,rfl,fun revoked => by simp [matched] at revoked⟩ checks
      simp only [overlay_put,overlay_none,tables_update_session]
      refine ⟨advance,fun id member row there => ?_,spent_by_same _ rfl⟩
      obtain rfl := List.mem_singleton.mp member
      obtain rfl := Option.some.inj (there.symm.trans (Function.update_self _ _ _))
      rfl

theorem listLiveSessionIds_safe {γ : Type} {post : γ → Drafts IdentityRow → Rows → Prop} (userId : UserId) (now : Timestamp)
    (visited : List SessionId) (f : List SessionId → Statements γ)
    (next : ∀ live s', Consistent (tables s') → credentialProtocol.Safe constraints t post (f live) drafts s')
    (valid : Consistent (tables s)) :
    credentialProtocol.Safe constraints t post ((listLiveSessionIds userId now visited).bind f) drafts s := by
  induction visited generalizing f s with
  | nil => exact next [] s valid
  | cons id visited ih =>
    simp only [listLiveSessionIds,Tx.bind_eq,Tx.bind_assoc]
    exact Protocol.Safe.select fun s₁ env => ih _ (fun live s' valid => next _ s' valid) env.1

theorem fixed_user (userId : UserId) (row now : Session) (moves : row.Moves now) :
    (now.userId == userId) = (row.userId == userId) := by rw [moves.userId]

theorem revokeAll_safe (request : Sweep) (valid : Consistent (tables s)) :
    credentialProtocol.Safe constraints t (credentialProtocol.Commits t) request.revokeAll Drafts.none s := by
  simp only [Sweep.revokeAll,revokeAllSessionsOfUser,Tx.bind_eq,Tx.pure_eq]
  refine listLiveSessionIds_safe _ _ _ _ (fun live s₁ valid => ?_) valid
  refine closeSessions_safe (fixed_user request.principal.userId) request.visited _ (closing_nothing fun _ => rfl) valid
    fun closed drafts' s₂ env _ wrote closing => ?_
  rw [← Tx.bind_assoc]
  refine recorded_safe _ (within_bind _ _ _ (within_recordSessionRevocations _ _ _ _) fun _ => within_recordAudit _ _) _
    env.1 fun s₃ env' => ?_
  have closing := closing.env env'
  have advance := closing.advance env'.1
  rw [closing.tables_eq]
  refine ⟨advance,fun id member row there => ?_,spent_by_same _ rfl⟩
  have held := wrote id member
  rcases closing.written id with free | ⟨old,_,_,_,written⟩
  · simp [free] at held
  · have there : overlay drafts' s₃ (.session id) = some row := there
    simp only [overlay,written,Option.some.injEq] at there
    rw [← there]
    rfl

end Closing

theorem touchSession_safe (sessionId : SessionId) (now minInterval : Timestamp) :
    credentialProtocol.Safe constraints t (credentialProtocol.Commits t)
      ((touchSession sessionId now minInterval).bind fun _ => .done .touched) Drafts.none s := by
  simp only [touchSession,Tx.bind_eq,Tx.pure_eq,Tx.bind_assoc]
  refine Protocol.Safe.updateKnown (Protocol.knows_nothing _ _) (by simp) (fun _ _ _ _ _ _ => trivial)
    (fun s₁ env missed s₂ env' => ⟨Consistent.stay env'.1,trivial,spent_by_same _ rfl⟩)
    fun s₁ row env matched checks knows s₂ env' => ?_
  have stored : (tables s₂).session sessionId = some row := (knows.env env').of_mem (.session _) _ (by simp)
  have advance := Consistent.moveSession env'.1 sessionId row { row with lastSeenAt := some (toOffset now) } stored
    ⟨rfl,rfl,rfl,rfl,fun _ => rfl⟩ checks
  change Committed _ _ (tables (overlay _ s₂))
  simp only [overlay_put,overlay_none,tables_update_session]
  exact ⟨advance,trivial,spent_by_same _ rfl⟩

theorem touchDevice_safe (deviceId : DeviceId) (now minInterval : Timestamp) :
    credentialProtocol.Safe constraints t (credentialProtocol.Commits t)
      ((touchDevice deviceId now minInterval).bind fun _ => .done .touched) Drafts.none s := by
  simp only [touchDevice,Tx.bind_eq,Tx.pure_eq,Tx.bind_assoc]
  refine Protocol.Safe.updateKnown (Protocol.knows_nothing _ _) (by simp) (fun _ _ _ _ _ _ => trivial)
    (fun s₁ env missed s₂ env' => ⟨Consistent.stay env'.1,trivial,spent_by_same _ rfl⟩)
    fun s₁ row env matched checks knows s₂ env' => ?_
  have stored : (tables s₂).device deviceId = some row := (knows.env env').of_mem (.device _) _ (by simp)
  simp only [Bool.and_eq_true,Option.isNone_iff_eq_none] at matched
  have advance := Consistent.moveDevice env'.1 deviceId row { row with lastSeenAt := some (toOffset now) } stored
    ⟨rfl,rfl,rfl,fun _ => rfl,List.Subset.refl _⟩ rfl fun revoked => by simp [matched.1] at revoked
  change Committed _ _ (tables (overlay _ s₂))
  simp only [overlay_put,overlay_none,tables_update_device]
  exact ⟨advance,trivial,spent_by_same _ rfl⟩

theorem jobs_keep (settings : Settings) (job : τ → Job) :
    credentialProtocol.Keeps constraints fun t => (job t).program settings := by
  intro t s valid
  change credentialProtocol.Safe constraints t (credentialProtocol.Commits t) ((job t).program settings) Drafts.none s
  cases job t with
  | login request => exact login_safe settings request
  | refresh request => exact refresh_safe settings request
  | createCode request => exact createCode_safe request
  | pair request => exact pair_safe settings request
  | deleteDevice request => exact deleteDevice_safe request
  | revokeSession request => exact revokeSession_safe request
  | revokeAll request => exact revokeAll_safe request valid
  | touchSession sessionId now minInterval => exact touchSession_safe sessionId now minInterval
  | touchDevice deviceId now minInterval => exact touchDevice_safe deviceId now minInterval
  | refuse auditEventId event =>
    refine recorded_safe _ (within_recordAudit _ _) _ valid fun s₁ env => ?_
    exact ⟨Consistent.stay env.1,trivial,spent_by_same _ rfl⟩

end Safe

end Ratatoskr.Identity
