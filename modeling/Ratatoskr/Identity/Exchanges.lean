import Ratatoskr.Identity.Relays
import Ratatoskr.Identity.Routes

/-! The exchange of an identity assertion for a session: who the subject is, the nonce, and the session,
in one transaction. -/
set_option linter.unusedSectionVars false

namespace Ratatoskr.Identity

open Transaction

/-- What the issuer said. -/
structure AssertionClaims where
  issuer : String
  subject : String
  audience : String
  nonce : String
  issuedAt : Timestamp
  expiresAt : Timestamp
deriving DecidableEq

/-- Why an assertion was not believed. -/
inductive AssertionRejected where
  | malformed | badSignature | unknownIssuer | wrongAudience | expired | notYetValid | unusableNonce
deriving DecidableEq

/-- One row of `identity.identities`, which is keyed by its unique provider and external id -/
structure ExternalIdentity where
  identityId : Nat
  userId : UserId
  createdAt : Int
  lastSeenAt : Option Int
deriving DecidableEq

/-- One row of `identity.identity_assertions`, which is keyed by its unique issuer and nonce -/
structure Assertion where
  assertionId : Nat
  subject : String
  audience : String
  userId : Option UserId
  issuedAt : Int
  expiresAt : Int
  redeemedAt : Option Int
deriving DecidableEq

/-- The tables an exchange reads and writes -/
inductive ExchangeTable where
  | user (userId : UserId)
  | identity (provider : IdentityProvider) (externalId : String)
  | assertion (issuer nonce : String)
  | session (sessionId : SessionId)
  | audit (auditEventId : Nat)
deriving DecidableEq

abbrev ExchangeRow : ExchangeTable → Type
  | .user _ => User
  | .identity _ _ => ExternalIdentity
  | .assertion _ _ => Assertion
  | .session _ => Session
  | .audit _ => AuditEvent

abbrev ExchangeRows := Store ExchangeRow

def Assertion.checks (issuer nonce : String) (row : Assertion) : Bool :=
  issuer == "ratatoskr-telegram" && lengthBetween 1 255 row.subject && lengthBetween 1 120 row.audience &&
  lengthBetween 16 128 nonce && row.issuedAt < row.expiresAt && row.redeemedAt.all (row.issuedAt ≤ ·)

/-- The CHECK constraints, and that a text column takes no NUL. -/
def exchangeConstraints : Constraints ExchangeRow
  | .user _,_,row => row.checks
  | .identity _ externalId,_,_ => lengthBetween 1 255 externalId && isText externalId
  | .assertion issuer nonce,_,row => row.checks issuer nonce && isText row.subject && isText row.audience && isText nonce
  | .session _,_,row => row.checks
  | .audit _,_,row => row.checks

inductive ExchangeDenial where
  | invalidRequest | unauthenticated | replayed
deriving DecidableEq

/-- What a transaction of the route committed. -/
inductive Exchanged where
  | opened (userId : UserId) (sessionId : SessionId)
  | denied
deriving DecidableEq

abbrev ExchangeStatement (α : Type) := Tx ExchangeRow ExchangeDenial α

/-- The checks on claims whose signature verified. -/
def AssertionClaims.verify (claims : AssertionClaims) (audience : String) (now : Timestamp) :
    Except AssertionRejected AssertionClaims :=
  if claims.issuer ≠ "ratatoskr-telegram" then .error .unknownIssuer
  else if claims.audience ≠ audience then .error .wrongAudience
  else if claims.expiresAt ≤ now then .error .expired
  else if now < claims.issuedAt then .error .notYetValid
  else if ¬(16 ≤ claims.nonce.utf8ByteSize ∧ claims.nonce.utf8ByteSize ≤ 128) then .error .unusableNonce
  else .ok claims

/-- An exchange with the ids it draws. `assertion` is the length of the token in a body that could be read,
and `signed` is what the signature and the readers make of it. -/
structure Exchange extends Context where
  assertion : Option Nat
  keyed : Bool
  signed : Except AssertionRejected AssertionClaims
  userId : UserId
  identityId : Nat
  assertionId : Nat
  sessionId : SessionId
  token : Digest

/-- What the handler checks before it opens the transaction. -/
def Exchange.believe (settings : Settings) (request : Exchange) : Except ExchangeDenial AssertionClaims :=
  match request.assertion with
  | none => .error .invalidRequest
  | some length =>
    if !request.keyed then .error .unauthenticated
    else if 4096 < length then .error .unauthenticated
    else
      match request.signed.bind (·.verify settings.audience request.now) with
      | .error _ => .error .unauthenticated
      | .ok claims => .ok claims

section Statements

variable (settings : Settings) (request : Exchange)

def createUser (userId : UserId) (now : Timestamp) : ExchangeStatement UserId := do
  Tx.insertNew (ν := ExchangeRow) (.user userId) ⟨"active",toOffset now,toOffset now⟩
  pure userId

/-- On a conflict the mapping already belongs to some user, and that user wins. -/
def linkExternalIdentity (identityId : Nat) (userId : UserId) (provider : IdentityProvider) (externalId : String)
    (now : Timestamp) : ExchangeStatement UserId := do
  let fresh ← Tx.insertUnlessConflict (ν := ExchangeRow) (.identity provider externalId)
    ⟨identityId,userId,toOffset now,some (toOffset now)⟩
  if fresh then pure userId
  else
    match ← Tx.selectForUpdate (ν := ExchangeRow) (.identity provider externalId) fun _ => true with
    | none => .refuse (.identity provider externalId) ⟨identityId,userId,toOffset now,some (toOffset now)⟩
    | some row => .write (.identity provider externalId) { row with lastSeenAt := some (toOffset now) } (.done row.userId)

/-- The user of a known subject, or one created on first sight, is linked to it. -/
def Exchange.resolve (subject : String) (existing : Option ExternalIdentity) : ExchangeStatement UserId := do
  let userId ← match existing with
    | some row => pure row.userId
    | none => createUser request.userId request.now
  linkExternalIdentity request.identityId userId .telegram subject request.now

def resolvePerson (subject : String) : ExchangeStatement UserId := do
  let existing ← Tx.select (ν := ExchangeRow) (.identity .telegram subject)
  request.resolve subject existing

/-- Says whether the nonce was recorded for the first time. -/
def redeemAssertion (claims : AssertionClaims) (userId : UserId) : ExchangeStatement Bool :=
  Tx.insertUnlessConflict (ν := ExchangeRow) (.assertion claims.issuer claims.nonce)
    ⟨request.assertionId,claims.subject,claims.audience,some userId,toOffset claims.issuedAt,toOffset claims.expiresAt,
      some (toOffset request.now)⟩

def Exchange.session (userId : UserId) : NewSession where
  userId := userId
  kind := .telegramMiniApp
  deviceId := none
  audience := settings.audience
  token := some request.token
  issuedAt := request.now
  expiresAt := request.now + hours 1

/-- What is done once it is settled who the subject is. -/
def Exchange.openFor (claims : AssertionClaims) (userId : UserId) : ExchangeStatement Exchanged := do
  let redeemed ← redeemAssertion request claims userId
  if redeemed then do
    Tx.insertNew (ν := ExchangeRow) (.session request.sessionId) (request.session settings userId).row
    Tx.insertNew (ν := ExchangeRow) (.audit request.auditEventId) (request.event (some userId) (some request.sessionId)
      "session.exchange_assertion" "session" (some request.sessionId) .allowed)
    pure (.opened userId request.sessionId)
  else .abandon .replayed

/-- Resolve the person, record the nonce, and open the session. -/
def Exchange.mint (claims : AssertionClaims) : ExchangeStatement Exchanged := do
  let userId ← resolvePerson request claims.subject
  request.openFor settings claims userId

/-- `POST /v1/sessions/telegram` -/
def Exchange.exchangeTelegram : ExchangeStatement Exchanged :=
  match request.believe settings with
  | .error denial => .abandon denial
  | .ok claims => request.mint settings claims

end Statements

/-- An exchange, or the record of a denial, which is written on a connection of its own. -/
inductive ExchangeJob where
  | exchange (request : Exchange)
  | refuse (auditEventId : Nat) (event : AuditEvent)

def ExchangeJob.program (settings : Settings) : ExchangeJob → ExchangeStatement Exchanged
  | exchange request => request.exchangeTelegram settings
  | refuse auditEventId event => do
    Tx.insertNew (ν := ExchangeRow) (.audit auditEventId) event
    pure .denied

/-- The claims that a transaction acts on. -/
def ExchangeJob.claims (settings : Settings) : ExchangeJob → Option AssertionClaims
  | exchange request => (request.believe settings).toOption
  | refuse _ _ => none

section Commits

/-- Every identity is linked to a stored user. -/
def Linked (rows : ExchangeRows) : Prop :=
  ∀ provider externalId row, rows (.identity provider externalId) = some row → (rows (.user row.userId)).isSome

/-- Nothing is deleted, and an identity stays with its user. -/
structure Grows (rows later : ExchangeRows) : Prop where
  user : ∀ userId, (rows (.user userId)).isSome → (later (.user userId)).isSome
  identity : ∀ provider externalId row, rows (.identity provider externalId) = some row →
    ∃ now, later (.identity provider externalId) = some now ∧ now.userId = row.userId
  assertion : ∀ issuer nonce, (rows (.assertion issuer nonce)).isSome → (later (.assertion issuer nonce)).isSome
  session : ∀ sessionId, (rows (.session sessionId)).isSome → (later (.session sessionId)).isSome

/-- The subject is linked to the user, whom the transaction may have created for it. -/
structure Links (request : Exchange) (subject : String) (userId : UserId) (drafts : Drafts ExchangeRow)
    (rows : ExchangeRows) : Prop where
  linked : ∃ row, overlay drafts rows (.identity .telegram subject) = some row ∧ row.userId = userId
  moved : ∀ row, rows (.identity .telegram subject) = some row → row.userId = userId
  known : (overlay drafts rows (.user userId)).isSome
  created : drafts (.user request.userId) = none ∨
    ∃ row, drafts (.user request.userId) = some (.written (some row))

/-- What an exchange commits: one nonce and one session, both new, for the user its subject is linked to. -/
structure Opens (request : Exchange) (claims : AssertionClaims) (userId : UserId) (drafts : Drafts ExchangeRow)
    (rows : ExchangeRows) : Prop where
  links : Links request claims.subject userId drafts rows
  unused : rows (.assertion claims.issuer claims.nonce) = none
  redeemed : ∃ row, drafts (.assertion claims.issuer claims.nonce) = some (.written (some row))
  unopened : rows (.session request.sessionId) = none
  opened : ∃ row, drafts (.session request.sessionId) = some (.written (some row))
  only : ∀ key, (drafts key).isSome → key = .user request.userId ∨ key = .identity .telegram claims.subject ∨
    key = .assertion claims.issuer claims.nonce ∨ key = .session request.sessionId ∨ key = .audit request.auditEventId

/-- What a transaction of the route commits, with its answer. -/
inductive Mints (settings : Settings) (drafts : Drafts ExchangeRow) (rows : ExchangeRows) :
    ExchangeJob → Exchanged → Prop where
  | opened (request : Exchange) (claims : AssertionClaims) (userId : UserId)
      (believed : request.believe settings = .ok claims) (opens : Opens request claims userId drafts rows) :
      Mints settings drafts rows (.exchange request) (.opened userId request.sessionId)
  | denied (auditEventId : Nat) (event : AuditEvent) (only : ∀ key, (drafts key).isSome → key = .audit auditEventId) :
      Mints settings drafts rows (.refuse auditEventId event) .denied

variable {settings : Settings} {request : Exchange} {claims : AssertionClaims} {userId : UserId}
  {drafts : Drafts ExchangeRow} {rows : ExchangeRows} {job : ExchangeJob} {value : Exchanged}

theorem Grows.refl (rows : ExchangeRows) : Grows rows rows :=
  ⟨fun _ stored => stored,fun _ _ row stored => ⟨row,stored,rfl⟩,fun _ _ stored => stored,fun _ stored => stored⟩

theorem Grows.trans {rows middle later : ExchangeRows} (first : Grows rows middle) (second : Grows middle later) :
    Grows rows later where
  user id stored := second.user id (first.user id stored)
  identity provider externalId row stored := by
    obtain ⟨now,there,same⟩ := first.identity provider externalId row stored
    obtain ⟨last,here,same'⟩ := second.identity provider externalId now there
    exact ⟨last,here,same'.trans same⟩
  assertion issuer nonce stored := second.assertion issuer nonce (first.assertion issuer nonce stored)
  session id stored := second.session id (first.session id stored)

/-- A key that a commit does not touch, or writes a row to, has a row after it if it had one before. -/
theorem overlay_keeps {key : ExchangeTable} (stored : (rows key).isSome)
    (written : drafts key = none ∨ ∃ row, drafts key = some (.written (some row))) : (overlay drafts rows key).isSome := by
  rcases written with free | ⟨row,held⟩
  · rwa [overlay_free free]
  · simp [overlay,held]

theorem Opens.free (opens : Opens request claims userId drafts rows) {key : ExchangeTable}
    (other : key ≠ .user request.userId ∧ key ≠ .identity .telegram claims.subject ∧
      key ≠ .assertion claims.issuer claims.nonce ∧ key ≠ .session request.sessionId ∧ key ≠ .audit request.auditEventId) :
    drafts key = none := by
  by_contra held
  rcases opens.only key (Option.isSome_iff_ne_none.mpr held) with same | same | same | same | same
  · exact other.1 same
  · exact other.2.1 same
  · exact other.2.2.1 same
  · exact other.2.2.2.1 same
  · exact other.2.2.2.2 same

theorem Opens.keeps_user (opens : Opens request claims userId drafts rows) (id : UserId) (stored : (rows (.user id)).isSome) :
    (overlay drafts rows (.user id)).isSome := by
  refine overlay_keeps stored ?_
  by_cases own : id = request.userId
  · exact own ▸ opens.links.created
  · exact Or.inl (opens.free (by simp [own]))

theorem Opens.grows (opens : Opens request claims userId drafts rows) : Grows rows (overlay drafts rows) where
  user := opens.keeps_user
  identity provider externalId row stored := by
    by_cases own : ExchangeTable.identity provider externalId = .identity .telegram claims.subject
    · obtain ⟨rfl,rfl⟩ := ExchangeTable.identity.inj own
      obtain ⟨now,there,rfl⟩ := opens.links.linked
      exact ⟨now,there,(opens.links.moved row stored).symm⟩
    · have free : drafts (.identity provider externalId) = none := opens.free (by simp [own])
      exact ⟨row,by rw [overlay_free free,stored],rfl⟩
  assertion issuer nonce stored := by
    refine overlay_keeps stored ?_
    by_cases own : ExchangeTable.assertion issuer nonce = .assertion claims.issuer claims.nonce
    · obtain ⟨rfl,rfl⟩ := ExchangeTable.assertion.inj own
      exact Or.inr opens.redeemed
    · exact Or.inl (opens.free (by simp [own]))
  session sessionId stored := by
    refine overlay_keeps stored ?_
    by_cases own : sessionId = request.sessionId
    · exact Or.inr (own ▸ opens.opened)
    · exact Or.inl (opens.free (by simp [own]))

theorem Opens.keeps_linked (opens : Opens request claims userId drafts rows) (linked : Linked rows) :
    Linked (overlay drafts rows) := by
  intro provider externalId row stored
  by_cases own : ExchangeTable.identity provider externalId = .identity .telegram claims.subject
  · obtain ⟨rfl,rfl⟩ := ExchangeTable.identity.inj own
    obtain ⟨now,there,rfl⟩ := opens.links.linked
    obtain rfl := Option.some.inj (stored.symm.trans there)
    exact opens.links.known
  · rw [overlay_free (opens.free (by simp [own]))] at stored
    exact opens.keeps_user _ (linked provider externalId row stored)

theorem denied_same {auditEventId : Nat} (only : ∀ key, (drafts key).isSome → key = .audit auditEventId)
    {key : ExchangeTable} (other : key ≠ .audit auditEventId) : overlay drafts rows key = rows key :=
  overlay_free (by
    by_contra held
    exact other (only key (Option.isSome_iff_ne_none.mpr held))) rows

theorem Mints.grows (mints : Mints settings drafts rows job value) : Grows rows (overlay drafts rows) := by
  cases mints with
  | opened request claims userId believed opens => exact opens.grows
  | denied auditEventId event only =>
    have same {key : ExchangeTable} (other : key ≠ .audit auditEventId) : overlay drafts rows key = rows key :=
      denied_same only other
    refine ⟨fun id stored => ?_,fun provider externalId row stored => ⟨row,?_,rfl⟩,fun issuer nonce stored => ?_,
      fun id stored => ?_⟩
    · rwa [same (by simp)]
    · rwa [same (by simp)]
    · rwa [same (by simp)]
    · rwa [same (by simp)]

theorem Mints.keeps_linked (mints : Mints settings drafts rows job value) (linked : Linked rows) :
    Linked (overlay drafts rows) := by
  cases mints with
  | opened request claims userId believed opens => exact opens.keeps_linked linked
  | denied auditEventId event only =>
    intro provider externalId row stored
    rw [denied_same only (by simp)] at stored
    rw [denied_same only (by simp)]
    exact linked provider externalId row stored

end Commits

section Safe

variable {τ : Type} [DecidableEq τ]

/-- Under a protocol that lets an exchange fail as it may -/
structure Lenient (P : Protocol ExchangeRow ExchangeDenial Exchanged τ) (t : τ) : Prop where
  abandons : ∀ denial rows, P.Abandons t denial rows
  refuses : ∀ refusal, P.Refuses t refusal

variable {P : Protocol ExchangeRow ExchangeDenial Exchanged τ} {t : τ} (lenient : Lenient P t) {γ : Type}
  {post : γ → Drafts ExchangeRow → ExchangeRows → Prop} {drafts : Drafts ExchangeRow} {s : ExchangeRows}

include lenient

theorem link_safe (identityId : Nat) (userId : UserId) (subject : String) (now : Timestamp)
    (f : UserId → ExchangeStatement γ) (free : drafts (.identity .telegram subject) = none)
    (fresh : ∀ s' row, P.Env drafts s s' → s' (.identity .telegram subject) = none → row.userId = userId →
      P.Safe exchangeConstraints t post (f userId) (drafts.put (.identity .telegram subject) (some row)) s')
    (conflict : ∀ s' stored row, P.Env drafts s s' → s' (.identity .telegram subject) = some stored →
      row.userId = stored.userId →
      P.Safe exchangeConstraints t post (f stored.userId) (drafts.put (.identity .telegram subject) (some row)) s') :
    P.Safe exchangeConstraints t post ((linkExternalIdentity identityId userId .telegram subject now).bind f) drafts s := by
  simp only [linkExternalIdentity,Tx.bind_eq,Tx.bind_assoc]
  refine Protocol.Safe.insertUnlessConflict (lenient.refuses _) (fun s₁ env absent => ?_) fun s₁ _ env _ => ?_
  · rw [overlay_free free] at absent
    exact fresh s₁ _ env absent rfl
  · simp only [Bool.false_eq_true,if_false,Tx.bind_assoc]
    refine Protocol.Safe.lockKnown (Protocol.knows_nothing _ _) (fun s' => overlay_free free s')
      (fun s₂ _ _ => fun _ _ => lenient.refuses _) fun s₂ row env' _ knows => ?_
    refine Protocol.Safe.writeChecked (fun _ _ => lenient.refuses _) fun s₃ env'' _ => ?_
    have stored := (knows.env env'').of_mem (.identity .telegram subject) (some row) (by simp)
    rw [lock_put]
    exact conflict s₃ row _ ((env.trans _ env').trans _ (env''.weaken fun key held =>
      (lock_isSome _ _ _).mpr (Or.inr held))) stored rfl

theorem openFor_safe (settings : Settings) (request : Exchange) (claims : AssertionClaims) (userId : UserId)
    {post : Exchanged → Drafts ExchangeRow → ExchangeRows → Prop}
    (free : drafts (.assertion claims.issuer claims.nonce) = none ∧ drafts (.session request.sessionId) = none)
    (done : ∀ s' assertion session event, P.Env drafts s s' → s' (.assertion claims.issuer claims.nonce) = none →
      s' (.session request.sessionId) = none → post (.opened userId request.sessionId)
        (((drafts.put (.assertion claims.issuer claims.nonce) (some assertion)).put (.session request.sessionId)
          (some session)).put (.audit request.auditEventId) (some event)) s') :
    P.Safe exchangeConstraints t post (request.openFor settings claims userId) drafts s := by
  simp only [Exchange.openFor,redeemAssertion,Tx.bind_eq]
  refine Protocol.Safe.insertUnlessConflict (lenient.refuses _) (fun s₁ env₁ absent => ?_)
    fun _ _ _ _ => fun _ _ => lenient.abandons _ _
  rw [overlay_free free.1] at absent
  have knows := (Protocol.knows_nothing drafts s).wrote env₁ (.assertion claims.issuer claims.nonce) none absent
  have free' (row : Assertion) : (drafts.put (.assertion claims.issuer claims.nonce) (some row)) (.session request.sessionId) = none := by
    rw [put_of_ne _ _ _ _ (by simp)]
    exact free.2
  refine Protocol.Safe.insertKnown (knows _) (fun s' => overlay_free (free' _) s') (fun _ => lenient.refuses _)
    (fun _ _ _ _ => fun _ _ => lenient.refuses _) fun s₂ env₂ _ knows => ?_
  refine Protocol.Safe.insertNew (fun _ => lenient.refuses _) fun s₃ env₃ _ s₄ env₄ => ?_
  have env₃₄ := env₃.trans _ (env₄.weaken fun key held => put_isSome_of _ _ _ _ held)
  have knows := knows.env env₃₄
  have env₂₄ := env₂.trans _ (env₃₄.weaken fun key held => put_isSome_of _ _ _ _ held)
  refine done s₄ _ _ _ (env₁.trans _ (env₂₄.weaken fun key held => put_isSome_of _ _ _ _ held)) ?_ ?_
  · exact knows.of_mem (.assertion claims.issuer claims.nonce) none (by simp)
  · exact knows.of_mem (.session request.sessionId) none (by simp)

end Safe

section Keeps

variable {τ : Type} [DecidableEq τ] (settings : Settings) (job : τ → ExchangeJob)

def exchangeProtocol : Protocol ExchangeRow ExchangeDenial Exchanged τ where
  Invariant := Linked
  Rely := Grows
  Commits t value drafts rows := Mints settings drafts rows (job t) value
  Abandons _ _ _ := True
  Refuses _ _ := True
  rely_refl := Grows.refl
  rely_trans _ _ _ := Grows.trans
  commit_invariant _ _ _ _ linked mints := mints.keeps_linked linked
  commit_rely _ _ _ _ _ mints := mints.grows
  abandon_stable _ _ _ _ _ _ := trivial

variable {settings} {job} {t : τ} {request : Exchange} {claims : AssertionClaims} {drafts : Drafts ExchangeRow}
  {s s' : ExchangeRows}

theorem exchange_lenient : Lenient (exchangeProtocol settings job) t := ⟨fun _ _ => trivial,fun _ => trivial⟩

/-- A stored user stays in sight whatever others commit. -/
theorem known_stays (env : (exchangeProtocol settings job).Env drafts s s') {userId : UserId}
    (known : (overlay drafts s (.user userId)).isSome) : (overlay drafts s' (.user userId)).isSome := by
  simp only [overlay] at known ⊢
  split
  · rename_i row held
    simpa [held] using known
  · rename_i unwritten
    refine env.2.1.user userId ?_
    split at known
    · rename_i row held
      exact absurd held (unwritten row)
    · exact known

theorem put_user_keeps (userId : UserId) (row : User) {other : UserId} (stored : (overlay drafts s (.user other)).isSome) :
    (overlay (drafts.put (.user userId) (some row)) s (.user other)).isSome := by
  rw [overlay_put]
  by_cases own : other = userId
  · subst own
    simp
  · rwa [Function.update_of_ne (by simpa using own)]

/-- What is linked stays so while the identity is held. -/
theorem Links.env {subject : String} {userId : UserId} (links : Links request subject userId drafts s)
    (held : (drafts (.identity .telegram subject)).isSome) (env : (exchangeProtocol settings job).Env drafts s s') :
    Links request subject userId drafts s' where
  linked := by
    rw [env.overlay_eq _ held]
    exact links.linked
  moved row stored := links.moved row ((env.2.2 _ held).symm.trans stored)
  known := known_stays env links.known
  created := links.created

theorem openFor_mints (own : job t = .exchange request) (believed : request.believe settings = .ok claims) (userId : UserId)
    (links : Links request claims.subject userId drafts s) (held : (drafts (.identity .telegram claims.subject)).isSome)
    (only : ∀ key, (drafts key).isSome → key = .user request.userId ∨ key = .identity .telegram claims.subject) :
    (exchangeProtocol settings job).Safe exchangeConstraints t ((exchangeProtocol settings job).Commits t)
      (request.openFor settings claims userId) drafts s := by
  have free {key : ExchangeTable} (other : key ≠ .user request.userId ∧ key ≠ .identity .telegram claims.subject) :
      drafts key = none := by
    by_contra held
    rcases only key (Option.isSome_iff_ne_none.mpr held) with same | same
    · exact other.1 same
    · exact other.2 same
  refine openFor_safe exchange_lenient settings request claims userId ⟨free (by simp),free (by simp)⟩
    fun s' assertion session event env unused unopened => ?_
  have links := links.env held env
  change Mints settings _ s' (job t) _
  rw [own]
  refine .opened request claims userId believed ⟨⟨?_,links.moved,?_,?_⟩,unused,⟨assertion,?_⟩,unopened,⟨session,?_⟩,
    fun key kept => ?_⟩
  · simpa using links.linked
  · simpa using links.known
  · simpa [Drafts.put] using links.created
  · simp [Drafts.put]
  · simp [Drafts.put]
  · rcases (put_isSome _ _ _ _).mp kept with same | kept
    · exact Or.inr (Or.inr (Or.inr (Or.inr same)))
    rcases (put_isSome _ _ _ _).mp kept with same | kept
    · exact Or.inr (Or.inr (Or.inr (Or.inl same)))
    rcases (put_isSome _ _ _ _).mp kept with same | kept
    · exact Or.inr (Or.inr (Or.inl same))
    rcases only key kept with same | same
    · exact Or.inl same
    · exact Or.inr (Or.inl same)

theorem mint_mints (own : job t = .exchange request) (believed : request.believe settings = .ok claims) :
    (exchangeProtocol settings job).Safe exchangeConstraints t ((exchangeProtocol settings job).Commits t)
      (request.mint settings claims) Drafts.none s := by
  have own_written (row : ExternalIdentity) (drafts : Drafts ExchangeRow) :
      ((drafts.put (.identity .telegram claims.subject) (some row)) (.identity .telegram claims.subject)).isSome := by simp
  simp only [Exchange.mint,resolvePerson,Exchange.resolve,Tx.bind_eq,Tx.bind_assoc]
  refine Protocol.Safe.select fun s₁ env₁ => ?_
  rw [overlay_none]
  cases stored : s₁ (.identity .telegram claims.subject) with
  | some found =>
    have linked := env₁.1 _ _ found stored
    simp only [Tx.pure_eq,Tx.bind]
    refine link_safe exchange_lenient _ _ _ _ _ rfl (fun s₂ row env₂ absent _ => ?_) fun s₂ there row env₂ stored same => ?_
    · obtain ⟨now,there,_⟩ := env₂.2.1.identity _ _ found stored
      rw [absent] at there
      cases there
    · have linked := env₂.1 _ _ there stored
      refine openFor_mints own believed _ ⟨⟨row,by simp,same⟩,fun other here => ?_,?_,Or.inl rfl⟩ (own_written _ _) fun key held => ?_
      · rw [stored] at here
        exact congrArg ExternalIdentity.userId (Option.some.inj here).symm
      · simpa using linked
      · rcases (put_isSome _ _ _ _).mp held with same | none_
        · exact Or.inr same
        · cases none_
  | none =>
    simp only [createUser,Tx.bind_eq,Tx.bind_assoc]
    refine Protocol.Safe.insertNew (fun _ => trivial) fun s₂ env₂ _ => ?_
    simp only [Tx.pure_eq,Tx.bind]
    refine link_safe exchange_lenient _ _ _ _ _ (by rw [put_of_ne _ _ _ _ (by simp)]; rfl)
      (fun s₃ row env₃ absent same => ?_) fun s₃ there row env₃ stored same => ?_
    · refine openFor_mints own believed _ ⟨⟨row,by simp,same⟩,fun other here => ?_,by simp,Or.inr ⟨⟨"active",toOffset request.now,toOffset request.now⟩,?_⟩⟩ (own_written _ _)
        fun key held => ?_
      · rw [absent] at here
        cases here
      · rw [put_of_ne _ _ _ _ (by simp),put_self]
      · rcases (put_isSome _ _ _ _).mp held with same | held
        · exact Or.inr same
        rcases (put_isSome _ _ _ _).mp held with same | none_
        · exact Or.inl same
        · cases none_
    · have linked := env₃.1 _ _ there stored
      refine openFor_mints own believed _ ⟨⟨row,by simp,same⟩,fun other here => ?_,?_,Or.inr ⟨⟨"active",toOffset request.now,toOffset request.now⟩,?_⟩⟩ (own_written _ _)
        fun key held => ?_
      · rw [stored] at here
        exact congrArg ExternalIdentity.userId (Option.some.inj here).symm
      · rw [overlay_put,Function.update_of_ne (by simp)]
        exact put_user_keeps _ _ linked
      · rw [put_of_ne _ _ _ _ (by simp),put_self]
      · rcases (put_isSome _ _ _ _).mp held with same | held
        · exact Or.inr same
        rcases (put_isSome _ _ _ _).mp held with same | none_
        · exact Or.inl same
        · cases none_

theorem exchanges_keep (job : τ → ExchangeJob) :
    (exchangeProtocol settings job).Keeps exchangeConstraints fun t => (job t).program settings := by
  intro t s valid
  cases own : job t with
  | exchange request =>
    simp only [own,ExchangeJob.program,Exchange.exchangeTelegram]
    cases believed : request.believe settings with
    | error denial => exact fun _ _ => trivial
    | ok claims => exact mint_mints own believed
  | refuse auditEventId event =>
    simp only [own,ExchangeJob.program,Tx.bind_eq]
    refine Protocol.Safe.insertNew (fun _ => trivial) fun s₁ _ _ s₂ _ => ?_
    change Mints settings _ s₂ (job t) _
    rw [own]
    refine .denied auditEventId event fun key held => ?_
    rcases (put_isSome _ _ _ _).mp held with same | none_
    · exact same
    · cases none_

end Keeps

end Ratatoskr.Identity
