import Ratatoskr.Accounts.Spared
import Ratatoskr.Identity.FirstSight
import Ratatoskr.Sites.Codes

/-! No path asks for the status of a user. A barred user is shut out exactly because he holds nothing that is live,
which no transaction changes. -/
set_option linter.unusedSectionVars false

namespace Ratatoskr.Accounts

open Transaction Identity Sites

open PublicApi (SiteId)

section Exchanges

variable {first : ExchangeRows} {mine : UserId → Prop}

/-- Since the first rows these users, who exist, have been linked to nobody and opened nothing. -/
structure Unlinked (first : ExchangeRows) (mine : UserId → Prop) (rows : ExchangeRows) : Prop where
  known : ∀ id, mine id → (rows (.user id)).isSome = true
  users : ∀ id, rows (.user id) = first (.user id) ∨ ∃ row, rows (.user id) = some row ∧ row.status = "active"
  identities : ∀ provider externalId row, rows (.identity provider externalId) = some row → ¬mine row.userId
  sessions : ∀ id row, rows (.session id) = some row → mine row.userId → first (.session id) = some row

/-- What may be written under a key. -/
def Suits (mine : UserId → Prop) (rows : ExchangeRows) : (key : ExchangeTable) → ExchangeRow key → Prop
  | .user id,row => rows (.user id) = none ∧ row.status = "active"
  | .identity _ _,row => ¬mine row.userId
  | .session _,row => ¬mine row.userId
  | .assertion _ _,_ | .audit _,_ => True

theorem Unlinked.put {rows : ExchangeRows} (unlinked : Unlinked first mine rows) (key : ExchangeTable) (row : ExchangeRow key)
    (suits : Suits mine rows key row) : Unlinked first mine (Function.update rows key (some row)) where
  known id own := by
    by_cases same : ExchangeTable.user id = key
    · subst same
      rw [Function.update_self]
      rfl
    · rw [Function.update_of_ne same]
      exact unlinked.known id own
  users id := by
    by_cases same : ExchangeTable.user id = key
    · subst same
      rw [Function.update_self]
      exact Or.inr ⟨row,rfl,suits.2⟩
    · rw [Function.update_of_ne same]
      exact unlinked.users id
  identities provider externalId found stored := by
    by_cases same : ExchangeTable.identity provider externalId = key
    · subst same
      rw [Function.update_self] at stored
      obtain rfl := Option.some.inj stored
      exact suits
    · rw [Function.update_of_ne same] at stored
      exact unlinked.identities provider externalId found stored
  sessions id found stored own := by
    by_cases same : ExchangeTable.session id = key
    · subst same
      rw [Function.update_self] at stored
      obtain rfl := Option.some.inj stored
      exact absurd own suits
    · rw [Function.update_of_ne same] at stored
      exact unlinked.sessions id found stored own

theorem createUser_unlinked (drawn : UserId) (now : Timestamp) :
    Triple exchangeConstraints (Unlinked first mine) (createUser drawn now)
      fun owner rows => ¬mine owner ∧ Unlinked first mine rows := by
  refine triple_bind (fun _ rows => ¬mine drawn ∧ Unlinked first mine rows)
    (triple_insertNew _ _ fun rows unlinked absent => ⟨?_,unlinked.put _ _ ⟨absent,rfl⟩⟩) fun _ => triple_done _ fun _ holds => holds
  intro own
  have known := unlinked.known drawn own
  rw [absent] at known
  cases known

theorem linkExternalIdentity_unlinked (identityId : Nat) (owner : UserId) (externalId : String) (now : Timestamp)
    (other : ¬mine owner) :
    Triple exchangeConstraints (Unlinked first mine) (linkExternalIdentity identityId owner .telegram externalId now)
      fun linked rows => ¬mine linked ∧ Unlinked first mine rows := by
  refine triple_bind (fun _ => Unlinked first mine)
    (triple_insertUnlessConflict _ _ (fun rows unlinked _ => unlinked.put _ _ other) fun _ unlinked => unlinked) fun fresh => ?_
  split
  · exact triple_done _ fun _ unlinked => ⟨other,unlinked⟩
  · refine triple_bind (fun found rows => (∀ row, found = some row → ¬mine row.userId) ∧ Unlinked first mine rows)
      (triple_selectForUpdate _ _ fun rows unlinked => ⟨fun row found => ?_,unlinked⟩) fun found => triple_pure fun foreign => ?_
    · exact unlinked.identities _ _ row (Option.filter_eq_some_iff.mp found).1
    · cases found with
      | none => exact triple_refuse _ _
      | some row =>
        exact triple_write _ _ _ (fun rows unlinked => unlinked.put _ _ (foreign row rfl))
          (triple_done _ fun _ unlinked => ⟨foreign row rfl,unlinked⟩)

/-- The person of a subject is not the user, to whom no subject is linked. -/
theorem resolvePerson_unlinked (request : Exchange) (subject : String) :
    Triple exchangeConstraints (Unlinked first mine) (resolvePerson request subject)
      fun owner rows => ¬mine owner ∧ Unlinked first mine rows := by
  refine triple_bind (fun found rows => (∀ row, found = some row → ¬mine row.userId) ∧ Unlinked first mine rows)
    (triple_select _ fun rows unlinked => ⟨fun row stored => unlinked.identities _ _ row stored,unlinked⟩)
    fun existing => triple_pure fun foreign => ?_
  unfold Exchange.resolve
  cases existing with
  | none =>
    refine triple_bind _ (createUser_unlinked _ _) fun owner => triple_pure fun other => ?_
    exact linkExternalIdentity_unlinked _ _ _ _ other
  | some row =>
    refine triple_bind (fun owner rows => ¬mine owner ∧ Unlinked first mine rows)
      (triple_done _ fun _ unlinked => ⟨foreign row rfl,unlinked⟩) fun owner => triple_pure fun other => ?_
    exact linkExternalIdentity_unlinked _ _ _ _ other

theorem exchangeJob_unlinked (settings : Settings) (job : ExchangeJob) :
    Triple exchangeConstraints (Unlinked first mine) (job.program settings) fun _ => Unlinked first mine := by
  cases job with
  | refuse auditEventId event =>
    exact triple_bind (fun _ => Unlinked first mine) (triple_insertNew _ _ fun _ unlinked _ => unlinked.put _ _ trivial)
      fun _ => triple_done _ fun _ unlinked => unlinked
  | exchange request =>
    change Triple _ _ (request.exchangeTelegram settings) _
    unfold Exchange.exchangeTelegram
    split
    · exact triple_abandon _
    · refine triple_bind _ (resolvePerson_unlinked request _) fun owner => triple_pure fun other => ?_
      refine triple_bind (fun _ => Unlinked first mine)
        (triple_insertUnlessConflict _ _ (fun _ unlinked _ => unlinked.put _ _ trivial) fun _ unlinked => unlinked) fun redeemed => ?_
      split
      · refine triple_bind (fun _ => Unlinked first mine) (triple_insertNew _ _ fun _ unlinked _ => unlinked.put _ _ other)
          fun _ => ?_
        exact triple_bind (fun _ => Unlinked first mine) (triple_insertNew _ _ fun _ unlinked _ => unlinked.put _ _ trivial)
          fun _ => triple_done _ fun _ unlinked => unlinked
      · exact triple_abandon _

end Exchanges

section SiteSignIns

variable {contract : SiteContract} {call : OpenSession}

/-- The codes go on, and one session is opened at most, for the owner of a code that was live. -/
structure Redeems (call : OpenSession) (world later : World) : Prop where
  codes : ∀ hash code, later.codes hash = some code → ∃ before, world.codes hash = some before ∧ before.Onward code
  openings : later.openings = world.openings ∨ ∃ opened, later.openings = world.openings ++ [opened] ∧
    ∃ hash code, world.codes hash = some code ∧ code.redeemable call.now = true ∧ opened.session = call.session code

/-- A code that is live has not gone on. -/
theorem eq_of_onward_redeemable {before code : SignInCode} {now : Timestamp} (onward : before.Onward code)
    (live : code.redeemable now = true) : code = before := by
  rcases onward with same | ⟨at_,_,rfl⟩
  · exact same
  · simp [SignInCode.redeemable,SignInCode.consumed] at live

theorem Redeems.after {world middle later : World} (rest : Redeems call middle later)
    (codes : ∀ hash code, middle.codes hash = some code → ∃ before, world.codes hash = some before ∧ before.Onward code)
    (openings : middle.openings = world.openings) : Redeems call world later where
  codes hash code stored := by
    obtain ⟨between,there,onward⟩ := rest.codes hash code stored
    obtain ⟨before,here,first⟩ := codes hash between there
    refine ⟨before,here,?_⟩
    rcases first with rfl | ⟨at_,fresh,rfl⟩
    · exact onward
    · exact Or.inr ⟨at_,fresh,onward.consumed rfl⟩
  openings := by
    rw [← openings]
    refine rest.openings.imp_right ?_
    rintro ⟨opened,appended,hash,code,stored,live,session⟩
    obtain ⟨before,here,onward⟩ := codes hash code stored
    obtain rfl := eq_of_onward_redeemable onward live
    exact ⟨opened,appended,hash,code,here,live,session⟩

theorem redeems_refl (world : World) : Redeems call world world :=
  ⟨fun _ code stored => ⟨code,stored,Or.inl rfl⟩,Or.inl rfl⟩

theorem consume_onward {world : World} {hash : Digest} {code : SignInCode} {now : Timestamp}
    (holds : Holds world 0 hash code now) (place : Digest) (row : SignInCode)
    (stored : (consume 0 world hash code now).codes place = some row) :
    ∃ before, world.codes place = some before ∧ before.Onward row := by
  rw [consumed_at] at stored
  split at stored
  · rename_i same
    have live := holds.live
    simp only [SignInCode.redeemable,Bool.and_eq_true,Option.isNone_iff_eq_none] at live
    exact ⟨code,same ▸ holds.stored,Or.inr ⟨now,live.1,(Option.some.inj stored).symm⟩⟩
  · exact ⟨row,stored,Or.inl rfl⟩

theorem redeemAlone_redeems (turns : Nat) {world : World} {at_ : Opening} (known : CodeKnown contract world 0 call at_) :
    Redeems call world (redeemAlone contract call turns world at_).1 := by
  induction turns generalizing world at_ with
  | zero => exact redeems_refl world
  | succ turns ih =>
    rw [redeemAlone]
    split
    · rename_i later next stepped
      have rest := ih (openSession_known known stepped)
      generalize same : Task.opening call at_ = task at *
      have turned := same ▸ openSession_turned stepped
      cases turned with
      | quiet _ _ still =>
        refine rest.after (fun hash code stored => ?_) still.openings
        exact ⟨code,still.codes ▸ stored,Or.inl rfl⟩
      | approved => cases same
      | withdrawn => cases same
      | consumed own hash code =>
        cases same
        exact rest.after (consume_onward known) rfl
      | opened own request code sight withdrawals session =>
        cases same
        obtain ⟨⟨holds,_⟩,rfl⟩ := known
        obtain ⟨-,rfl⟩ := Prod.mk.inj (Option.some.inj stepped)
        have stopped : ∀ world, (redeemAlone contract call turns world
            (.answered (some (contract.digestOf request.code)) (.opened call.sessionId code.returnPath))).1 = world := by
          intro world
          cases turns <;> rfl
        rw [stopped]
        exact ⟨consume_onward holds,Or.inr ⟨_,rfl,_,code,holds.stored,holds.live,rfl⟩⟩
    · exact redeems_refl world

end SiteSignIns

section Moves

variable {settings : Settings} {contract : SiteContract} {s next : Directory} {now later : Timestamp} {userId : UserId}

theorem isLiveAt_of_isOver {row : Session} (past : isOver row now = true) (onward : now ≤ later) : row.isLiveAt later = false := by
  simp only [isOver,Bool.or_eq_true,decide_eq_true_eq] at past
  simp only [Session.isLiveAt,Bool.and_eq_false_iff,Option.isNone_eq_false_iff,decide_eq_false_iff_not,Int.not_lt]
  refine past.imp_right fun expired => ?_
  have before := to_offset_mono (Int.le_trans expired onward)
  rwa [to_offset_fromOffset] at before

theorem Bare.onward (bare : Bare s now userId) (onward : now ≤ later) : Bare s later userId where
  sessions id row stored own := by
    have past := bare.sessions id row stored own
    simp only [isOver,Bool.or_eq_true,decide_eq_true_eq] at past ⊢
    exact past.imp_right fun expired => Int.le_trans expired onward
  devices := bare.devices
  pairingCodes id row stored own := by
    have dead := bare.pairingCodes id row stored own
    simp only [Bool.and_eq_false_iff,decide_eq_false_iff_not,Int.not_lt] at dead ⊢
    exact dead.imp_right fun expired => Int.le_trans expired (to_offset_mono onward)
  subjects := bare.subjects
  codes hash code stored own := by
    have dead := bare.codes hash code stored own
    simp only [SignInCode.redeemable,Bool.and_eq_false_iff,decide_eq_false_iff_not,Int.not_lt] at dead ⊢
    exact dead.imp_right fun expired => Int.le_trans expired (to_offset_mono onward)

/-- A move gives the user nothing. -/
structure Denied (s next : Directory) (now : Timestamp) (userId : UserId) : Prop where
  bare : Bare next now userId
  creates : ¬Creates s.rows next.rows userId

theorem not_creates_same (rows : Rows) : ¬Creates rows rows userId := by
  rintro ⟨⟨id,row,absent,stored,_⟩ | ⟨id,row,absent,stored,_⟩ | ⟨hash,link,session,absent,stored,_,_⟩⟩ <;>
    rw [absent] at stored <;> cases stored

theorem spared_of_bare (bare : Bare s now userId) : Spared s.rows now (· = userId) s.rows where
  users _ := rfl
  sessions id row stored own := ⟨bare.sessions id row stored own,by rw [stored]; rfl⟩
  devices id row stored own := ⟨bare.devices id row stored own,by rw [stored]; rfl⟩
  pairingCodes := bare.pairingCodes
  links hash link session absent stored _ := by
    rw [absent] at stored
    cases stored

theorem Spared.denied {rows : Rows} (bare : Bare s now userId) (spared : Spared s.rows now (· = userId) rows) :
    Denied s { s with rows := rows } now userId where
  bare := ⟨fun id row stored own => (spared.sessions id row stored own).1,
    fun id row stored own => (spared.devices id row stored own).1,spared.pairingCodes,bare.subjects,bare.codes⟩
  creates := by
    rintro ⟨⟨id,row,absent,stored,own⟩ | ⟨id,row,absent,stored,own⟩ | ⟨hash,link,session,absent,stored,opened,own⟩⟩
    · have before := (spared.sessions id row stored own).2
      rw [absent] at before
      cases before
    · have before := (spared.devices id row stored own).2
      rw [absent] at before
      cases before
    · exact spared.links hash link session absent stored opened own

section Jobs

variable (contract) (job : Job)

theorem job_denied (bare : Bare s now userId) (same : ∀ at_, jobNow job = some at_ → at_ = now)
    (other : ∀ request, job = .createCode request → request.principal.userId ≠ userId) :
    Denied s (s.perform settings contract (.job job)) now userId := by
  rw [Directory.perform]
  cases ended : exec constraints (job.program settings) s.rows with
  | done value rows => exact (job_spares settings job same other s.rows value rows (spared_of_bare bare) ended).denied bare
  | abandoned => exact ⟨bare,not_creates_same _⟩
  | refused => exact ⟨bare,not_creates_same _⟩

/-- The credential routes leave the users as they are. -/
theorem job_users (id : UserId) : (s.perform settings contract (.job job)).rows (.user id) = s.rows (.user id) := by
  rw [Directory.perform]
  cases ended : exec constraints (job.program settings) s.rows with
  | done value rows =>
    have start : Spared s.rows ((jobNow job).getD 0) (fun _ => False) s.rows :=
      ⟨fun _ => rfl,fun _ _ _ => False.elim,fun _ _ _ => False.elim,fun _ _ _ => False.elim,fun _ _ _ _ _ _ => not_false⟩
    refine (job_spares settings job (fun at_ same => ?_) (fun _ _ => not_false) s.rows value rows start ended).users id
    rw [same]
    rfl
  | abandoned => rfl
  | refused => rfl

/-- The tables that the creation of a pairing code concerns. -/
def codeTables : IdentityTable → Prop
  | .session _ | .device _ | .refreshToken _ => False
  | _ => True

theorem within_endPending (pairingCodeId : PairingCodeId) (matching : PairingCode → Bool) (change : PairingCode → PairingCode) :
    Within codeTables (endPending pairingCodeId matching change) := by
  refine within_bind _ _ _ (within_selectForUpdate codeTables (.pairingCode pairingCodeId) trivial _) fun found => ?_
  cases found with
  | none => trivial
  | some row => exact ⟨trivial,trivial,trivial,trivial⟩

theorem within_createPairingCode (request : CodeCreation) : Within codeTables request.createPairingCode := by
  unfold CodeCreation.createPairingCode
  split
  · trivial
  · split
    · trivial
    · split
      · trivial
      · split
        · trivial
        · have new : ∀ key row, codeTables key → Within codeTables (Tx.insertNew (ν := IdentityRow) key row : Statements Unit) :=
            fun key row own => within_insertNew codeTables key own row
          refine within_bind _ _ _ (within_bind _ _ _ (within_selectForUpdate codeTables (.user _) trivial _) fun _ => ?_) fun _ => ?_
          · refine within_bind _ _ _ (within_bind _ _ _ (within_select codeTables (.pendingCode _) trivial) fun found => ?_) fun _ => ?_
            · cases found with
              | none => trivial
              | some pairingCodeId => exact within_bind _ _ _ (within_endPending _ _ _) fun _ => trivial
            · exact within_bind _ _ _ (new _ _ trivial) fun _ => within_bind _ _ _ (new _ _ trivial) fun _ => new _ _ trivial
          · exact within_bind _ _ _ (new _ _ trivial) fun _ => trivial

/-- The creation of a pairing code writes no session, no device and no link. -/
theorem createCode_creates (request : CodeCreation) :
    ¬Creates s.rows (s.perform settings contract (.job (.createCode request))).rows userId := by
  rw [Directory.perform]
  cases ended : exec constraints ((Job.createCode request).program settings) s.rows with
  | done value rows =>
    have kept := exec_within constraints s.rows codeTables _ (within_createPairingCode request) value rows ended
    rintro ⟨⟨id,row,absent,stored,_⟩ | ⟨id,row,absent,stored,_⟩ | ⟨hash,link,session,absent,stored,_,_⟩⟩
    · exact absurd ((kept (.session id) not_false).symm.trans stored) (by rw [absent]; nofun)
    · exact absurd ((kept (.device id) not_false).symm.trans stored) (by rw [absent]; nofun)
    · exact absurd ((kept (.refreshToken hash) not_false).symm.trans stored) (by rw [absent]; nofun)
  | abandoned => exact not_creates_same _
  | refused => exact not_creates_same _

end Jobs

section Others

variable (settings contract)

theorem published_unlinked {first : ExchangeRows} {mine : UserId → Prop} (job : ExchangeJob) (start : Unlinked first mine first) :
    Unlinked first mine ((exec exchangeConstraints (job.program settings) first).publish first) := by
  cases ended : exec exchangeConstraints (job.program settings) first with
  | done value rows => exact exchangeJob_unlinked settings job first value rows start ended
  | abandoned => exact start
  | refused => exact start

theorem exchange_denied (bare : Bare s now userId) (known : (s.rows (.user userId)).isSome = true) (job : ExchangeJob) :
    Denied s (s.perform settings contract (.exchange job)) now userId := by
  have unlinked := published_unlinked settings job (show Unlinked s.exchangeRows (· = userId) s.exchangeRows from
    ⟨fun id own => own ▸ known,fun _ => Or.inl rfl,fun provider externalId row => bare.subjects provider externalId row,
      fun _ _ stored _ => stored⟩)
  refine ⟨⟨fun id row stored own => ?_,bare.devices,bare.pairingCodes,fun provider externalId row stored => ?_,bare.codes⟩,?_⟩
  · exact bare.sessions id row (unlinked.sessions id row stored own) own
  · exact unlinked.identities provider externalId row stored
  · rintro ⟨⟨id,row,absent,stored,own⟩ | ⟨id,row,absent,stored,own⟩ | ⟨hash,link,session,absent,stored,_,_⟩⟩
    · have before : s.rows (.session id) = some row := unlinked.sessions id row stored own
      rw [absent] at before
      cases before
    · exact absurd (absent.symm.trans stored) nofun
    · exact absurd (absent.symm.trans stored) nofun

/-- A code is issued to whoever has a live session. -/
theorem issue_denied (bare : Bare s now userId) (call : IssueCode) (same : call.now = now) :
    Denied s (s.perform settings contract (.issue call)) now userId := by
  rw [Directory.perform]
  refine ⟨⟨bare.sessions,bare.devices,bare.pairingCodes,bare.subjects,fun hash code stored own => ?_⟩,not_creates_same _⟩
  rcases issueCode_cases contract call (s.siteWorld [call.principal.sessionId]) with kept | ⟨row,_,⟨owner,primary⟩,issued⟩
  · rw [kept] at stored
    exact bare.codes hash code stored own
  · rw [issued] at stored
    change Function.update s.codes call.hash (some row) hash = some code at stored
    rw [Function.update_apply] at stored
    split at stored
    · obtain rfl := Option.some.inj stored
      obtain ⟨entry,member,live⟩ := List.any_eq_true.mp primary
      simp only [Bool.and_eq_true,beq_iff_eq] at live
      obtain ⟨id,_,found⟩ := List.mem_filterMap.mp member
      obtain ⟨session,there,rfl⟩ := Option.map_eq_some_iff.mp found
      have past := bare.sessions id session there (live.1.1.1.2.trans (owner.symm.trans own))
      rw [← same] at past
      rw [isLiveAt_of_isOver past (Int.le_refl _)] at live
      exact absurd live.1.1.2 nofun
    · exact bare.codes hash code stored own

/-- A sign-in opens a session for the owner of a code that is live. -/
theorem openSite_denied (bare : Bare s now userId) (call : OpenSession) (same : call.now = now) :
    Denied s (s.perform settings contract (.openSite call)) now userId := by
  rw [Directory.perform]
  have begun : CodeKnown contract (s.siteWorld (s.redemptionSessions contract call)) 0 call call.begin_ := by
    unfold OpenSession.begin_
    split
    · trivial
    · split <;> trivial
  have redeems := redeemAlone_redeems 5 begun
  generalize (redeemAlone contract call 5 (s.siteWorld (s.redemptionSessions contract call)) call.begin_).1 = world at redeems
  have codes : ∀ hash code, world.codes hash = some code → code.userId = userId → code.redeemable now = false := by
    intro hash code stored own
    obtain ⟨before,there,onward⟩ := redeems.codes hash code stored
    by_contra live
    obtain rfl := eq_of_onward_redeemable onward (Bool.not_eq_false _ ▸ live)
    exact live (bare.codes hash code there own)
  rcases redeems.openings with none_ | ⟨opened,one,hash,code,stored,live,session⟩
  · have rows : (s.withOpened world).rows = s.rows := by
      rw [Directory.withOpened,none_]
      rfl
    refine ⟨⟨?_,?_,?_,bare.subjects,codes⟩,by rw [rows]; exact not_creates_same _⟩
    · rw [rows]
      exact bare.sessions
    · rw [rows]
      exact bare.devices
    · rw [rows]
      exact bare.pairingCodes
  · have rows : (s.withOpened world).rows = Function.update s.rows (.session opened.sessionId) (some opened.session) := by
      rw [Directory.withOpened,one]
      rfl
    have other : opened.session.userId ≠ userId := by
      intro own
      rw [session] at own
      have dead := bare.codes hash code stored own
      rw [← same,live] at dead
      cases dead
    have spared := (spared_of_bare bare).put (.session opened.sessionId) opened.session fun own => absurd own other
    have denied := spared.denied bare
    refine ⟨⟨?_,?_,?_,bare.subjects,codes⟩,?_⟩
    · rw [rows]
      exact denied.bare.sessions
    · rw [rows]
      exact denied.bare.devices
    · rw [rows]
      exact denied.bare.pairingCodes
    · rw [rows]
      exact denied.creates

theorem setStatus_rows (target : UserId) (status : UserStatus) (at_ : Timestamp) :
    (s.perform settings contract (.setStatus target status at_)).rows = s.rows ∨ ∃ row, s.rows (.user target) = some row ∧
      (s.perform settings contract (.setStatus target status at_)).rows =
        Function.update s.rows (.user target) (some { row with status := status.asStr, updatedAt := toOffset at_ }) := by
  rw [Directory.perform]
  cases ended : exec constraints (setUserStatus target status at_) s.rows with
  | done value rows =>
    rcases (exec_updateWhere_any_done _ _ _ _ _ _).mp ended with ⟨row,stored,_,_,rfl⟩ | ⟨_,_,rfl⟩
    · exact Or.inr ⟨row,stored,rfl⟩
    · exact Or.inl rfl
  | abandoned => exact Or.inl rfl
  | refused => exact Or.inl rfl

/-- A change of a status concerns that user only, and no credential. -/
theorem setStatus_kept (target : UserId) (status : UserStatus) (at_ : Timestamp) (key : IdentityTable) (other : key ≠ .user target) :
    (s.perform settings contract (.setStatus target status at_)).rows key = s.rows key := by
  rcases setStatus_rows settings contract target status at_ with same | ⟨row,_,same⟩
  · rw [same]
  · rw [same,Function.update_of_ne other]

theorem setStatus_creates (target : UserId) (status : UserStatus) (at_ : Timestamp) :
    ¬Creates s.rows (s.perform settings contract (.setStatus target status at_)).rows userId := by
  have kept : ∀ key, key ≠ .user target → _ = s.rows key := setStatus_kept settings contract target status at_
  rintro ⟨⟨id,row,absent,stored,_⟩ | ⟨id,row,absent,stored,_⟩ | ⟨hash,link,session,absent,stored,_,_⟩⟩
  · exact absurd ((kept _ (by simp)).symm.trans stored) (by rw [absent]; nofun)
  · exact absurd ((kept _ (by simp)).symm.trans stored) (by rw [absent]; nofun)
  · exact absurd ((kept _ (by simp)).symm.trans stored) (by rw [absent]; nofun)

theorem setStatus_denied (bare : Bare s now userId) (target : UserId) (status : UserStatus) (at_ : Timestamp) :
    Denied s (s.perform settings contract (.setStatus target status at_)) now userId := by
  have kept : ∀ key, key ≠ .user target → _ = s.rows key := setStatus_kept settings contract target status at_
  refine ⟨⟨fun id row stored => ?_,fun id row stored => ?_,fun id row stored => ?_,bare.subjects,bare.codes⟩,
    setStatus_creates settings contract target status at_⟩
  · exact bare.sessions id row ((kept _ (by simp)).symm.trans stored)
  · exact bare.devices id row ((kept _ (by simp)).symm.trans stored)
  · exact bare.pairingCodes id row ((kept _ (by simp)).symm.trans stored)

theorem barred_of_user {rows later : Rows} (same : later (.user userId) = rows (.user userId)) (barred : Barred later userId) :
    Barred rows userId := by
  obtain ⟨row,stored,status⟩ := barred
  exact ⟨row,same ▸ stored,status⟩

theorem withOpened_users (world : World) (id : UserId) : (s.withOpened world).rows (.user id) = s.rows (.user id) := by
  change world.openings.foldl _ s.rows _ = _
  generalize s.rows = rows
  induction world.openings generalizing rows with
  | nil => rfl
  | cons opened rest ih => exact (ih _).trans (Function.update_of_ne (by simp) _ _)

/-- Nobody is barred but by a change of his status. -/
theorem barred_before (move : Move) (barred : Barred (s.perform settings contract move).rows userId) :
    Barred s.rows userId ∨ ∃ status at_, move = .setStatus userId status at_ ∧ status.mayAuthenticate = false := by
  cases move with
  | job job => exact Or.inl (barred_of_user (job_users contract job userId) barred)
  | exchange job =>
    have unlinked := published_unlinked settings job (show Unlinked s.exchangeRows (fun _ => False) s.exchangeRows from
      ⟨fun _ => False.elim,fun _ => Or.inl rfl,fun _ _ _ _ => not_false,fun _ _ _ => False.elim⟩)
    rcases unlinked.users userId with same | ⟨row,stored,active⟩
    · exact Or.inl (barred_of_user same barred)
    · obtain ⟨found,there,status⟩ := barred
      obtain rfl := Option.some.inj (there.symm.trans stored)
      rw [active] at status
      exact absurd status (by decide)
  | issue call => exact Or.inl barred
  | openSite call => exact Or.inl (barred_of_user (withOpened_users _ userId) barred)
  | setStatus target status at_ =>
    by_cases same : userId = target
    · subst same
      rcases setStatus_rows (s := s) settings contract userId status at_ with kept | ⟨row,_,changed⟩
      · rw [kept] at barred
        exact Or.inl barred
      · obtain ⟨found,there,bars⟩ := barred
        rw [changed,Function.update_self] at there
        obtain rfl := Option.some.inj there
        exact Or.inr ⟨status,at_,rfl,by simpa using bars⟩
    · exact Or.inl (barred_of_user (setStatus_kept settings contract target status at_ _ (by simpa using same)) barred)
  | elsewhere => exact Or.inl barred

end Others

section Steps

/-- Whoever is barred holds nothing that is live. -/
def AllBare (s : Directory) : Prop := ∀ userId, Barred s.rows userId → Bare s s.clock userId

theorem step_cases {move : Move} (stepped : step settings contract s move = some next) :
    ∃ now, s.clock ≤ now ∧ (∀ at_, move.now = some at_ → at_ = now) ∧
      next = ({ s with clock := now } : Directory).perform settings contract move := by
  unfold step at stepped
  simp only at stepped
  split at stepped
  · cases stepped
  · rename_i before
    refine ⟨_,Int.not_lt.mp before,fun at_ same => ?_,(Option.some.inj stepped).symm⟩
    rw [same]
    rfl

theorem perform_clock (move : Move) : (s.perform settings contract move).clock = s.clock := by cases move <;> rfl

/-- A move gives nothing to a user who was bare, but a pairing code that is created in his name. -/
theorem move_denied (move : Move) (bare : Bare s now userId) (known : (s.rows (.user userId)).isSome = true)
    (same : ∀ at_, move.now = some at_ → at_ = now)
    (other : ∀ request, move = .job (.createCode request) → request.principal.userId ≠ userId) :
    Denied s (s.perform settings contract move) now userId := by
  cases move with
  | job job => exact job_denied contract job bare same fun request own => other request (congrArg Move.job own)
  | exchange job => exact exchange_denied settings contract bare known job
  | issue call => exact issue_denied settings contract bare call (same _ rfl)
  | openSite call => exact openSite_denied settings contract bare call (same _ rfl)
  | setStatus target status at_ => exact setStatus_denied settings contract bare target status at_
  | elsewhere => exact ⟨⟨bare.sessions,bare.devices,bare.pairingCodes,bare.subjects,bare.codes⟩,not_creates_same _⟩

theorem AllBare.step {move : Move} (bare : AllBare s) (stripped : Stripped s move)
    (stepped : step settings contract s move = some next) : AllBare next := by
  obtain ⟨now,onward,same,rfl⟩ := step_cases stepped
  intro userId barred
  rw [perform_clock]
  rcases barred_before settings contract move barred with before | ⟨status,at_,rfl,bars⟩
  · have held := (bare userId before).onward onward
    obtain ⟨user,stored,_⟩ := id before
    refine (move_denied (s := { s with clock := now }) move ⟨held.sessions,held.devices,held.pairingCodes,held.subjects,held.codes⟩
      (by rw [stored]; rfl) same fun request own => ?_).bare
    subst own
    rintro rfl
    exact stripped before
  · obtain rfl := same at_ rfl
    have held := stripped bars
    exact (setStatus_denied (s := { s with clock := at_ }) settings contract
      ⟨held.sessions,held.devices,held.pairingCodes,held.subjects,held.codes⟩ userId status at_).bare

theorem step_creates {move : Move} (bare : AllBare s) (stepped : step settings contract s move = some next)
    (creates : Creates s.rows next.rows userId) : ¬Barred s.rows userId ∧ ¬Barred next.rows userId := by
  obtain ⟨now,onward,same,rfl⟩ := step_cases stepped
  have free : ¬Barred s.rows userId := by
    intro barred
    have held := (bare userId barred).onward onward
    obtain ⟨user,stored,_⟩ := id barred
    by_cases own : ∃ request, move = .job (.createCode request)
    · obtain ⟨request,rfl⟩ := own
      exact createCode_creates (s := { s with clock := now }) contract request creates
    · exact (move_denied (s := { s with clock := now }) move ⟨held.sessions,held.devices,held.pairingCodes,held.subjects,held.codes⟩
        (by rw [stored]; rfl) same fun request this => absurd ⟨request,this⟩ own).creates creates
  refine ⟨free,fun barred => ?_⟩
  rcases barred_before settings contract move barred with before | ⟨status,at_,rfl,_⟩
  · exact free before
  · exact setStatus_creates (s := { s with clock := now }) settings contract userId status at_ creates

theorem AllBare.shutOut (bare : AllBare s) : ShutOut settings contract s where
  sessions id row presented audience now stored onward admitted barred := by
    have past := (bare row.userId barred).sessions id row stored rfl
    simp only [Session.authenticates,Bool.and_eq_true,decide_eq_true_eq] at admitted
    have dead := isLiveAt_of_isOver past onward
    rw [Session.isLiveAt,admitted.1.1.2,Bool.true_and,decide_eq_false_iff_not] at dead
    exact dead admitted.1.2
  devices id row stored unrevoked barred := by
    have revoked := (bare row.userId barred).devices id row stored rfl
    rw [unrevoked] at revoked
    cases revoked
  creates move next stepped userId creates := step_creates bare stepped creates

/-- While only those are barred who hold nothing that is live, whoever is barred is shut out. -/
theorem barred_shut_out (settings : Settings) (contract : SiteContract) (start : Directory) (bare : AllBare start)
    (moves : List Move) (stripped : StateMachine.Along (step settings contract) Stripped start moves) :
    StateMachine.Throughout (step settings contract) (ShutOut settings contract) start moves :=
  StateMachine.throughout_of_along (step settings contract) AllBare (ShutOut settings contract) Stripped
    (fun _ _ _ bare stripped stepped => bare.step stripped stepped) (fun _ bare => bare.shutOut) start moves bare stripped

/-- A suspended user with a revoked device, and nobody else. -/
def suspendedRows : Rows :=
  Function.update (Function.update (fun _ => none) (.user 2) (some ⟨"suspended",0,0⟩)) (.device 9)
    (some ⟨2,.mobile,none,0,0,none,some 0,none,[]⟩)

def suspendedAlone : Directory := { Directory.empty with rows := suspendedRows }

theorem suspendedAlone_bare (now : Timestamp) (userId : UserId) : Bare suspendedAlone now userId := by
  have empty : ∀ key : IdentityTable, key ≠ .user 2 → key ≠ .device 9 → suspendedRows key = none := by
    intro key user device
    rw [suspendedRows,Function.update_of_ne device,Function.update_of_ne user]
  refine ⟨fun id row stored => ?_,fun id row stored _ => ?_,fun id row stored => ?_,fun _ _ _ => nofun,fun _ _ => nofun⟩
  · exact absurd ((empty (.session id) (by simp) (by simp)).symm.trans stored) nofun
  · by_cases same : IdentityTable.device id = .device 9
    · obtain rfl := IdentityTable.device.inj same
      change suspendedRows (.device 9) = some row at stored
      rw [suspendedRows,Function.update_self] at stored
      obtain rfl := Option.some.inj stored
      rfl
    · exact absurd ((empty _ (by simp) same).symm.trans stored) nofun
  · exact absurd ((empty (.pairingCode id) (by simp) (by simp)).symm.trans stored) nofun

/-- The suspended user is deleted, and somebody else is seen for the first time. -/
def deletedThenSeen : List Move :=
  [.setStatus 2 .deleted 1000000,.exchange (.exchange (exchangeOf "nonce-of-sixteen" 1)),.setStatus 1 .active (hours 1)]

theorem barred_shut_out_deleted :
    StateMachine.Throughout (step sampleSettings sampleContract) (ShutOut sampleSettings sampleContract) suspendedAlone
      deletedThenSeen ∧
    ((StateMachine.run (step sampleSettings sampleContract) suspendedAlone deletedThenSeen).map fun s =>
      ((s.rows (.user 2)).map (·.status),(s.rows (.session 1)).map (·.userId))) = some (some "deleted",some 1) := by
  refine ⟨barred_shut_out sampleSettings sampleContract suspendedAlone (fun userId _ => suspendedAlone_bare _ userId)
    deletedThenSeen ?_,by decide +kernel⟩
  refine ⟨fun _ => suspendedAlone_bare _ 2,fun _ _ => ⟨trivial,fun _ _ => ⟨fun bars => ?_,fun _ _ => trivial⟩⟩⟩
  cases bars

/-- A user is seen for the first time and suspended. -/
def seenThenSuspended : List Move :=
  [.exchange (.exchange (exchangeOf "nonce-of-sixteen" 1)),.setStatus 1 .suspended 1000000]

/-- His session authenticates, and the next assertion opens another one. -/
theorem suspended_user_admitted : ∃ s next,
    StateMachine.run (step sampleSettings sampleContract) Directory.empty seenThenSuspended = some s ∧ Barred s.rows 1 ∧
    (∃ row, s.rows (.session 1) = some row ∧ row.userId = 1 ∧ row.authenticates 7 sampleSettings.audience s.clock = true) ∧
    step sampleSettings sampleContract s (.exchange (.exchange (exchangeOf "another-of-sixteen" 2))) = some next ∧
    Creates s.rows next.rows 1 := by
  have ran : ((StateMachine.run (step sampleSettings sampleContract) Directory.empty seenThenSuspended).bind fun s =>
      (step sampleSettings sampleContract s (.exchange (.exchange (exchangeOf "another-of-sixteen" 2)))).map fun next =>
        (((s.rows (.user 1)).any fun row => (UserStatus.fromStrOpt row.status).any (fun status => !status.mayAuthenticate)),
          ((s.rows (.session 1)).any fun row => row.userId = 1 && row.authenticates 7 sampleSettings.audience s.clock),
          (s.rows (.session 2)).isNone,(next.rows (.session 2)).any fun row => row.userId = 1)) =
      some (true,true,true,true) := by
    decide +kernel
  obtain ⟨s,ran,stepped⟩ := Option.bind_eq_some_iff.mp ran
  obtain ⟨next,stepped,same⟩ := Option.map_eq_some_iff.mp stepped
  simp only [Prod.mk.injEq,Option.any_eq_true,Bool.and_eq_true,decide_eq_true_eq,Option.isNone_iff_eq_none] at same
  obtain ⟨barred,live,absent,⟨row,opened,own⟩⟩ := same
  refine ⟨s,next,ran,?_,live,stepped,⟨Or.inl ⟨2,row,absent,opened,own⟩⟩⟩
  simpa only [Barred,Option.any_eq_true] using barred

end Steps

end Moves


end Ratatoskr.Accounts
