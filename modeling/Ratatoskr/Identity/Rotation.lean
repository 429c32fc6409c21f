import Ratatoskr.Identity.Routes

/-! When a refresh rotates the credentials of a session. Its link and its access credential are stored
on different rows, each with an expiry of its own, and both are issued anew together. -/
namespace Ratatoskr.Identity

open Transaction

/-- Every stored row passed the CHECK constraints when it was written. -/
def WellFormed (rows : Rows) : Prop := ∀ key row, rows key = some row → constraints key none row = true

theorem well_formed_empty : WellFormed fun _ => none := fun _ _ stored => by cases stored

theorem WellFormed.update {rows : Rows} (valid : WellFormed rows) (key : IdentityTable) (row : IdentityRow key)
    (accepted : constraints key none row = true) : WellFormed (Function.update rows key (some row)) := by
  intro other stored found
  by_cases same : other = key
  · subst same
    rw [Function.update_self] at found
    exact Option.some.inj found ▸ accepted
  · rw [Function.update_of_ne same] at found
    exact valid other stored found

section Checks

theorem to_offset_lt {earlier later : Int} (apart : earlier + 2000 ≤ later) : toOffset earlier < toOffset later := by
  have first := to_offset_close earlier
  have second := to_offset_close later
  omega

theorem exec_selectLink (rows : Rows) (presented : Digest) (link : RefreshToken) (session : Session)
    (linked : rows (.refreshToken presented) = some link) (stored : rows (.session link.sessionId) = some session) :
    exec constraints (selectLink presented) rows = .done (some (link,session)) rows := by
  simp [selectLink,exec_bind,linked,stored]

theorem refresh_link_checks (tokenId : TokenId) (sessionId : SessionId) (issuedAt expiresAt : Timestamp) :
    (refreshLink tokenId sessionId issuedAt expiresAt).checks = true ↔ toOffset issuedAt < toOffset expiresAt := by
  simp only [RefreshToken.checks,Bool.and_eq_true,decide_eq_true_eq]
  simp [refreshLink]

theorem spent_checks (link : RefreshToken) (successor : TokenId) (now : Timestamp) (valid : link.checks = true)
    (fresh : successor ≠ link.tokenId) : (link.spent successor now).checks = true ↔ link.issuedAt ≤ toOffset now := by
  simp only [RefreshToken.checks,Bool.and_eq_true,decide_eq_true_eq] at valid ⊢
  simp [RefreshToken.spent,valid.1.1.1,fresh]
  exact decide_eq_true_iff

theorem renewed_checks (session : Session) (token : Digest) (now expiresAt : Timestamp) (valid : session.checks = true) :
    (session.renewed token now expiresAt).checks = true ↔ session.issuedAt < toOffset expiresAt := by
  simp only [Session.checks,Bool.and_eq_true,decide_eq_true_eq] at valid ⊢
  obtain ⟨⟨⟨⟨kind,audience⟩,_⟩,revoked⟩,bound⟩ := valid
  exact ⟨fun all => all.1.1.2,fun forward => ⟨⟨⟨⟨kind,audience⟩,forward⟩,revoked⟩,bound⟩⟩

end Checks

section Rotation

variable (r : Rotation) (rows : Rows) (link : RefreshToken) (session : Session)

/-- The rows a rotation leaves: the next link, the spent one, the session with its new credential. -/
def Rotation.rotatedRows : Rows :=
  Function.update (Function.update (Function.update rows
    (.refreshToken r.replacementRefresh) (some (refreshLink r.successor link.sessionId r.now r.refreshExpiresAt)))
    (.refreshToken r.presented) (some (link.spent r.successor r.now)))
    (.session link.sessionId) (some (session.renewed r.replacementAccess r.now r.accessExpiresAt))

variable (linked : rows (.refreshToken r.presented) = some link) (stored : rows (.session link.sessionId) = some session)
  (unspent : link.consumedAt = none) (unexpired : r.now < fromOffset link.expiresAt)

include linked stored unspent unexpired

/-- Once the access credential has expired, its session refuses the link. -/
theorem exec_rotate_expired (expired : fromOffset session.expiresAt ≤ r.now) :
    exec constraints (rotateSession r) rows = .done (.error .sessionNotLive) rows := by
  have early : ¬fromOffset link.expiresAt ≤ r.now := not_le.mpr unexpired
  have ended : decide (fromOffset session.expiresAt ≤ r.now) = true := decide_eq_true expired
  simp only [rotateSession,Tx.bind_eq,exec_bind,exec_selectLink rows r.presented link session linked stored,
    Outcome.done_bind,unspent,Option.isSome_none,Bool.false_eq_true,if_false,if_neg early,ended,Bool.or_true,if_true,
    Tx.pure_eq,exec_done]

/-- Before that, it is for the CHECK constraints of the two rows to decide. -/
theorem exec_rotate_live (unrevoked : session.revokedAt = none) (live : r.now < fromOffset session.expiresAt)
    (issuable : toOffset r.now < toOffset r.refreshExpiresAt) (fresh : rows (.refreshToken r.replacementRefresh) = none) :
    exec constraints (rotateSession r) rows =
      if (link.spent r.successor r.now).checks then
        if (session.renewed r.replacementAccess r.now r.accessExpiresAt).checks then
          .done (.ok ⟨r.successor,link.sessionId,r.now,r.refreshExpiresAt⟩) (r.rotatedRows rows link session)
        else .refused ⟨.session link.sessionId,some session,session.renewed r.replacementAccess r.now r.accessExpiresAt⟩
      else .refused ⟨.refreshToken r.presented,some link,link.spent r.successor r.now⟩ := by
  have early : ¬fromOffset link.expiresAt ≤ r.now := not_le.mpr unexpired
  have open_ : decide (fromOffset session.expiresAt ≤ r.now) = false := decide_eq_false (not_le.mpr live)
  have linkKey : IdentityTable.refreshToken r.presented ≠ .refreshToken r.replacementRefresh := by
    intro same
    rw [IdentityTable.refreshToken.inj same,fresh] at linked
    cases linked
  have issues : constraints (.refreshToken r.replacementRefresh) none
      (refreshLink r.successor link.sessionId r.now r.refreshExpiresAt) = true := (refresh_link_checks _ _ _ _).mpr issuable
  simp only [rotateSession,Tx.bind_eq,exec_bind,exec_selectLink rows r.presented link session linked stored,
    Outcome.done_bind,unspent,Option.isSome_none,Bool.false_eq_true,if_false,unrevoked,if_neg early,open_,Bool.or_false,
    issueRefreshToken,exec_insertNew,issues,if_true,fresh]
  have linked : Function.update rows (.refreshToken r.replacementRefresh)
      (some (refreshLink r.successor link.sessionId r.now r.refreshExpiresAt)) (.refreshToken r.presented) = some link :=
    (Function.update_of_ne linkKey _ _).trans linked
  rw [exec_updateWhere_match (ν := IdentityRow) _ _ _ _ _ link linked (by simp)]
  simp only [constraints]
  by_cases spendable : (link.spent r.successor r.now).checks = true
  · simp only [spendable,if_true,Outcome.done_bind]
    have stored : Function.update (Function.update rows (.refreshToken r.replacementRefresh)
        (some (refreshLink r.successor link.sessionId r.now r.refreshExpiresAt)))
        (.refreshToken r.presented) (some (link.spent r.successor r.now)) (.session link.sessionId) = some session := by
      simp [stored]
    rw [exec_updateWhere_match (ν := IdentityRow) _ _ _ _ _ session stored (by simp [unrevoked])]
    simp only [constraints]
    by_cases renewable : (session.renewed r.replacementAccess r.now r.accessExpiresAt).checks = true
    · simp [renewable,Rotation.rotatedRows]
    · simp [renewable]
  · simp [spendable]

end Rotation

section Refreshing

variable (settings : Settings) (request : Refresh) (rows : Rows) (presented : Digest) (link : RefreshToken) (session : Session)

/-- A refresh that presents an unspent link before its expiry, for a device session that is not revoked. -/
structure Presents : Prop where
  readable : request.presented settings = .ok presented
  linked : rows (.refreshToken presented) = some link
  unspent : link.consumedAt = none
  unexpired : request.now < fromOffset link.expiresAt
  stored : rows (.session link.sessionId) = some session
  device : session.kind = .device
  unrevoked : session.revokedAt = none

/-- The ids and the digest a refresh draws are new. -/
structure Refresh.Fresh : Prop where
  successor : request.successor ≠ link.tokenId
  replacement : rows (.refreshToken request.replacementRefresh) = none
  audit : rows (.audit request.auditEventId) = none

/-- The rows after a refresh that succeeds -/
def Refresh.refreshedRows : Rows :=
  Function.update ((request.rotation presented).rotatedRows rows link session) (.audit request.auditEventId)
    (some (request.event none (some link.sessionId) "session.refresh" "session" (some link.sessionId) .allowed))

theorem audited_checks (sessionId : SessionId) (outcome : AuditOutcome) :
    (request.event none (some sessionId) "session.refresh" "session" (some sessionId) outcome).checks = true := by
  have named : lengthBetween 1 120 "session.refresh" = true := by decide
  have targeted : lengthBetween 1 60 "session" = true := by decide
  simp [AuditEvent.checks,Context.event,request.correlation.property,named,targeted]

theorem issued_before_expiry (now : Int) : toOffset now < toOffset (now + refreshTtl) :=
  to_offset_lt (by change now + 2000 ≤ now + 2592000000000000; omega)

theorem exec_refresh_expired (presents : Presents settings request rows presented link session)
    (expired : fromOffset session.expiresAt ≤ request.now) :
    exec constraints (request.refresh settings) rows = .abandoned .unauthenticated := by
  rw [Refresh.refresh,presents.readable]
  simp only [Tx.bind_eq,exec_bind]
  rw [exec_rotate_expired (request.rotation presented) rows link session presents.linked presents.stored
    presents.unspent presents.unexpired expired]
  rfl

/-- A device session's unspent, unexpired link rotates exactly while its access credential lives, on a
clock that does not read before the rows were issued. -/
theorem refresh_rotates_iff (presents : Presents settings request rows presented link session)
    (fresh : request.Fresh rows link) (valid : WellFormed rows) :
    exec constraints (request.refresh settings) rows =
        .done (.rotated presented link.sessionId) (request.refreshedRows rows presented link session) ↔
      request.now < fromOffset session.expiresAt ∧ link.issuedAt ≤ toOffset request.now ∧
        session.issuedAt < toOffset (request.now + deviceSessionTtl) := by
  rw [← spent_checks link request.successor request.now (valid _ _ presents.linked) fresh.successor,
    ← renewed_checks session request.replacementAccess request.now (request.now + deviceSessionTtl)
      (valid _ _ presents.stored)]
  by_cases live : request.now < fromOffset session.expiresAt
  · rw [Refresh.refresh,presents.readable]
    simp only [Tx.bind_eq,exec_bind]
    rw [exec_rotate_live (request.rotation presented) rows link session presents.linked presents.stored
      presents.unspent presents.unexpired presents.unrevoked live (issued_before_expiry request.now) fresh.replacement]
    split
    · rename_i spendable
      split
      · rename_i renewable
        have audited := audited_checks request link.sessionId .allowed
        have unaudited : (request.rotation presented).rotatedRows rows link session (.audit request.auditEventId) = none := by
          simp [Rotation.rotatedRows,fresh.audit]
        refine iff_of_true ?_ ⟨live,spendable,renewable⟩
        simp [Refresh.conclude,Refresh.audited,recordAudit,exec_bind,exec_insertNew,constraints,audited,unaudited,
          Refresh.refreshedRows]
      · rename_i refused
        exact iff_of_false (fun ended => by cases ended) fun all => refused all.2.2
    · rename_i refused
      exact iff_of_false (fun ended => by cases ended) fun all => refused all.2.1
  · rw [exec_refresh_expired settings request rows presented link session presents (not_lt.mp live)]
    exact iff_of_false (fun ended => by cases ended) fun all => live all.1

end Refreshing

section Lapsed

def sampleSettings : Settings where
  sha256 bytes := BitVec.ofNat 256 (bytes.foldl (fun value byte => value * 256 + byte.toNat) 1)
  audience := "edge"

/-- A login at the epoch: its session, which lives an hour, and its link, which lives thirty days. -/
def sampleSession : Session :=
  NewSession.row ⟨1,.device,some 1,"edge",some 7,0,deviceSessionTtl⟩

def sampleLink : RefreshToken := refreshLink 1 1 0 refreshTtl

def sampleRows : Rows :=
  Function.update (Function.update (fun _ => none) (.session 1) (some sampleSession))
    (.refreshToken (sampleSettings.digestOf "link")) (some sampleLink)

def refreshAt (now : Timestamp) : Refresh where
  correlation := ⟨"correlation:3",by decide⟩
  now := now
  auditEventId := 1
  body := ⟨24,some "link"⟩
  replacementRefresh := 8
  replacementAccess := 9
  successor := 2
  revocationId := 1

theorem sample_rows_well_formed : WellFormed sampleRows :=
  (well_formed_empty.update _ _ (by decide +kernel)).update _ _ (by decide +kernel)

theorem sample_presents (now : Timestamp) (unexpired : now < fromOffset sampleLink.expiresAt) :
    Presents sampleSettings (refreshAt now) sampleRows (sampleSettings.digestOf "link") sampleLink sampleSession where
  readable := rfl
  linked := Function.update_self _ _ _
  unspent := rfl
  unexpired := unexpired
  stored := by simp [sampleRows,sampleLink,refreshLink]
  device := rfl
  unrevoked := rfl

theorem sample_fresh (now : Timestamp) : (refreshAt now).Fresh sampleRows sampleLink where
  successor := show (2 : TokenId) ≠ 1 by decide
  replacement := show sampleRows (.refreshToken 8) = none by decide +kernel
  audit := by simp [sampleRows]

theorem young_session_rotates :
    exec constraints ((refreshAt (hours 1 - 1)).refresh sampleSettings) sampleRows =
      .done (.rotated (sampleSettings.digestOf "link") 1)
        ((refreshAt (hours 1 - 1)).refreshedRows sampleRows (sampleSettings.digestOf "link") sampleLink sampleSession) :=
  (refresh_rotates_iff _ _ _ _ _ _ (sample_presents _ (by decide)) (sample_fresh _) sample_rows_well_formed).mpr
    (by decide)

/-- Two hours after the login the link has twenty-nine days to live and is refused. -/
theorem lapsed_session_refuses_its_link :
    Presents sampleSettings (refreshAt (hours 2)) sampleRows (sampleSettings.digestOf "link") sampleLink sampleSession ∧
    (refreshAt (hours 2)).Fresh sampleRows sampleLink ∧ WellFormed sampleRows ∧
    exec constraints ((refreshAt (hours 2)).refresh sampleSettings) sampleRows = .abandoned .unauthenticated := by
  have presents := sample_presents (hours 2) (by decide)
  exact ⟨presents,sample_fresh _,sample_rows_well_formed,exec_refresh_expired _ _ _ _ _ _ presents (by decide)⟩

end Lapsed

end Ratatoskr.Identity
