import Ratatoskr.Sites.Effects

/-! Every sign-in code opens one session at most, for whom and where it was issued, and a presentation that finds it
live consumes it. -/
namespace Ratatoskr.Sites

open Identity PublicApi

variable {contract : SiteContract}

/-- What a redemption has to show to open a session with a code. -/
structure Entitled (contract : SiteContract) (opened : Opened) : Prop where
  site : opened.code.siteId = opened.site
  unconsumed : opened.code.consumedAt = none
  unexpired : toOffset opened.now < opened.code.expiresAt
  verifier : opened.code.challenge = contract.challengeOf opened.verifier
  hostname : opened.origin = some ("https://" ++ opened.code.hostname)
  /-- The session that approved the sign-in was live as of the redeeming statement, -/
  approving : ∃ session, opened.approving = some session ∧ session.isLiveAt opened.now = true
  /-- and so was the owner grant. -/
  grant : ∃ grant ∈ opened.grants, grant.holds opened.code.userId opened.now = true
  owner : opened.session.userId = opened.code.userId
  kind : opened.session.kind = .siteOwner
  audience : opened.session.audience = siteAudience opened.code.siteId

/-- Whether a code was consumed by a committed transaction. -/
def Consumed (world : World) (hash : Digest) : Prop := ∃ row, world.codes hash = some row ∧ row.consumedAt.isSome

/-- A code only ever becomes consumed. -/
def SignInCode.Onward (row later : SignInCode) : Prop := later = row ∨ ∃ now, row.consumedAt = none ∧ later = row.consumed now

/-- What the routes of site sign-ins promise of codes. -/
structure CodesHold (contract : SiteContract) (s : System) : Prop where
  once : ∀ hash, (s.world.openings.countP fun opened => opened.codeHash = hash) ≤ 1
  entitled : ∀ opened ∈ s.world.openings, Entitled contract opened ∧
    s.world.codes opened.codeHash = some (opened.code.consumed opened.now)
  /-- A session of a site owner was opened so, -/
  sessions : ∀ entry ∈ s.world.sessions, entry.2.kind = .siteOwner → ∃ opened ∈ s.world.openings,
    opened.sessionId = entry.1 ∧ opened.session.userId = entry.2.userId ∧ opened.session.audience = entry.2.audience
  /-- and a presentation of a live code that was answered otherwise than with the failure of a dependency has consumed it. -/
  presented : ∀ number call hash answer, s.tasks number = some (.opening call (.answered (some hash) answer)) →
    answer ≠ .refused .requestTimeout → Consumed s.world hash
  /-- No step changes a code that was issued, but that it consumes it. -/
  issued : ∀ action next, step contract s action = some next → ∀ hash row, s.world.codes hash = some row →
    ∃ after, next.world.codes hash = some after ∧ row.Onward after

section Locals

theorem SignInCode.Onward.consumed {row later : SignInCode} (onward : row.Onward later) (consumed : row.consumedAt.isSome) :
    later = row := by
  rcases onward with same | ⟨now,fresh,-⟩
  · exact same
  · rw [fresh] at consumed
    cases consumed

theorem SignInCode.Onward.expiresAt {row later : SignInCode} (onward : row.Onward later) : later.expiresAt = row.expiresAt := by
  rcases onward with rfl | ⟨now,-,rfl⟩ <;> rfl

/-- What a request may count on while others take their turns. -/
structure CodesStay (number : Nat) (world later : World) : Prop where
  rows : ∀ hash row, world.codes hash = some row → ∃ after, later.codes hash = some after ∧ row.Onward after
  held : ∀ hash row, world.codeHolder hash = some number → world.codes hash = some row →
    later.codeHolder hash = some number ∧ later.codes hash = some row

theorem codesStay_same {world later : World} (number : Nat) (codes : later.codes = world.codes)
    (holders : later.codeHolder = world.codeHolder) : CodesStay number world later where
  rows hash row stored := ⟨row,by rw [codes,stored],Or.inl rfl⟩
  held hash row holder stored := ⟨by rw [holders,holder],by rw [codes,stored]⟩

/-- The request holds the code, which is live. -/
structure Holds (world : World) (number : Nat) (hash : Digest) (code : SignInCode) (now : Timestamp) : Prop where
  holder : world.codeHolder hash = some number
  stored : world.codes hash = some code
  live : code.redeemable now = true

/-- What a redemption knows where it awaits. -/
def CodeKnown (contract : SiteContract) (world : World) (number : Nat) (call : OpenSession) : Opening → Prop
  | .redeeming _ => True
  | .consuming request _ => ∃ row, world.codes (contract.digestOf request.code) = some row ∧ toOffset call.now < row.expiresAt
  | .reading request code sight | .creating request code sight _ =>
    Holds world number (contract.digestOf request.code) code call.now ∧
      (call.accepts contract request code sight && call.originIs code.hostname) = true
  | .opening request code sight _ session =>
    (Holds world number (contract.digestOf request.code) code call.now ∧
      (call.accepts contract request code sight && call.originIs code.hostname) = true) ∧ session = call.session code
  | .refusing (some hash) (some code) => Holds world number hash code call.now
  | .refusing (some hash) none => Consumed world hash
  | .refusing none _ => True
  | .answered (some hash) answer => answer ≠ .refused .requestTimeout → Consumed world hash
  | .answered none _ => True

def CodeLocal (contract : SiteContract) (world : World) (number : Nat) : Task → Prop
  | .opening call at_ => CodeKnown contract world number call at_
  | _ => True

structure CodeWorld (contract : SiteContract) (world : World) : Prop where
  once : ∀ hash, (world.openings.countP fun opened => opened.codeHash = hash) ≤ 1
  entitled : ∀ opened ∈ world.openings, Entitled contract opened ∧
    world.codes opened.codeHash = some (opened.code.consumed opened.now)
  sessions : ∀ entry ∈ world.sessions, entry.2.kind = .siteOwner → ∃ opened ∈ world.openings,
    opened.sessionId = entry.1 ∧ opened.session.userId = entry.2.userId ∧ opened.session.audience = entry.2.audience

variable {world later : World} {number : Nat} {call : OpenSession}

theorem Consumed.stays {hash : Digest} (consumed : Consumed world hash) (stay : CodesStay number world later) : Consumed later hash := by
  obtain ⟨row,stored,some_⟩ := consumed
  obtain ⟨after,kept,onward⟩ := stay.rows hash row stored
  exact ⟨row,onward.consumed some_ ▸ kept,some_⟩

theorem Holds.stays {hash : Digest} {code : SignInCode} {now : Timestamp} (holds : Holds world number hash code now)
    (stay : CodesStay number world later) : Holds later number hash code now := by
  obtain ⟨holder,stored⟩ := stay.held hash code holds.holder holds.stored
  exact ⟨holder,stored,holds.live⟩

theorem CodeKnown.stays {at_ : Opening} (known : CodeKnown contract world number call at_)
    (stay : CodesStay number world later) : CodeKnown contract later number call at_ := by
  cases at_ with
  | redeeming => trivial
  | consuming request sight =>
    obtain ⟨row,stored,unexpired⟩ := known
    obtain ⟨after,kept,onward⟩ := stay.rows _ row stored
    exact ⟨after,kept,onward.expiresAt ▸ unexpired⟩
  | reading request code sight => exact ⟨known.1.stays stay,known.2⟩
  | creating request code sight => exact ⟨known.1.stays stay,known.2⟩
  | opening request code sight withdrawals session => exact ⟨⟨known.1.1.stays stay,known.1.2⟩,known.2⟩
  | refusing presented code =>
    cases presented with
    | none => trivial
    | some hash =>
      cases code with
      | none => exact Consumed.stays known stay
      | some code => exact Holds.stays known stay
  | answered presented answer =>
    cases presented with
    | none => trivial
    | some hash => exact fun other => (known other).stays stay

end Locals

section Turns

variable {world later : World} {number : Nat} {call : OpenSession}

theorem consumed_at (hash : Digest) (code : SignInCode) (now : Timestamp) (place : Digest) :
    (consume number world hash code now).codes place =
      if place = hash then some (code.consumed now) else world.codes place := Function.update_apply _ _ _ _

theorem accepts_iff (request : SiteSessionRequest) (code : SignInCode) (sight : Sight) :
    (call.accepts contract request code sight && call.originIs code.hostname) = true ↔
      sight.approves code call.now = true ∧ code.siteId = call.site ∧
        code.challenge = contract.challengeOf request.verifier ∧ call.origin = some ("https://" ++ code.hostname) := by
  simp only [OpenSession.accepts,OpenSession.originIs,Bool.and_eq_true,beq_iff_eq,and_assoc]

/-- A redemption that opens a session was entitled to. -/
theorem entitled_of_accepts {request : SiteSessionRequest} {code : SignInCode} {sight : Sight} (withdrawals : Nat)
    (live : code.redeemable call.now = true)
    (accepts : (call.accepts contract request code sight && call.originIs code.hostname) = true) :
    Entitled contract (call.opened (contract.digestOf request.code) request code sight withdrawals (call.session code)) := by
  obtain ⟨approves,site,challenge,origin⟩ := (accepts_iff request code sight).mp accepts
  simp only [Sight.approves,Bool.and_eq_true,Option.any_eq_true,List.any_eq_true] at approves
  obtain ⟨⟨session,approving,sessionLive⟩,grant,listed,holds⟩ := approves
  simp only [SignInCode.redeemable,Bool.and_eq_true,Option.isNone_iff_eq_none,decide_eq_true_eq] at live
  exact ⟨site,live.1,live.2,challenge,origin,⟨session,approving,sessionLive⟩,⟨grant,listed,holds⟩,rfl,rfl,
    congrArg siteAudience site.symm⟩

/-- What a quiet turn leaves of the codes, for everybody else. -/
theorem Quiet.codesStay (quiet : Quiet number world later) (other : Nat) (different : other ≠ number) :
    CodesStay other world later where
  rows hash row stored := ⟨row,by rw [quiet.codes,stored],Or.inl rfl⟩
  held hash row holds stored := ⟨(quiet.codeHolders hash other different).mpr holds,by rw [quiet.codes,stored]⟩

/-- A code that its holder consumes is no other request's. -/
theorem consume_codesStay {hash : Digest} {code : SignInCode} {now : Timestamp} (holds : Holds world number hash code now)
    (other : Nat) (different : other ≠ number) : CodesStay other world (consume number world hash code now) where
  rows place row stored := by
    by_cases same : place = hash
    · subst same
      obtain rfl := Option.some.inj (holds.stored.symm.trans stored)
      have live := holds.live
      simp only [SignInCode.redeemable,Bool.and_eq_true,Option.isNone_iff_eq_none] at live
      exact ⟨_,(consumed_at place code now place).trans (if_pos rfl),Or.inr ⟨now,live.1,rfl⟩⟩
    · exact ⟨row,((consumed_at hash code now place).trans (if_neg same)).trans stored,Or.inl rfl⟩
  held place row mine stored := by
    have apart : place ≠ hash := by
      rintro rfl
      exact different (Option.some.inj (mine.symm.trans holds.holder))
    exact ⟨(sameOthers_release world.codeHolder place other different).mpr mine,
      ((consumed_at hash code now place).trans (if_neg apart)).trans stored⟩

/-- The world is kept by a turn that is no commit of a redemption. -/
theorem CodeWorld.quiet (valid : CodeWorld contract world) (codes : later.codes = world.codes)
    (openings : later.openings = world.openings)
    (sessions : ∀ entry ∈ later.sessions, entry.2.kind = .siteOwner → ∃ before ∈ world.sessions, before.1 = entry.1 ∧
      before.2.kind = entry.2.kind ∧ before.2.userId = entry.2.userId ∧ before.2.audience = entry.2.audience) :
    CodeWorld contract later where
  once hash := by
    rw [openings]
    exact valid.once hash
  entitled opened member := by
    rw [openings] at member
    rw [codes]
    exact valid.entitled opened member
  sessions entry member owner := by
    obtain ⟨before,listed,id,kind,user,audience⟩ := sessions entry member owner
    obtain ⟨opened,there,same,owns,at_⟩ := valid.sessions before listed (kind.trans owner)
    exact ⟨opened,openings ▸ there,same.trans id,owns.trans user,at_.trans audience⟩

theorem CodeWorld.refuse (valid : CodeWorld contract world) {hash : Digest} {code : SignInCode} {now : Timestamp}
    (holds : Holds world number hash code now) : CodeWorld contract (consume number world hash code now) where
  once := valid.once
  entitled opened member := by
    obtain ⟨entitled,stored⟩ := valid.entitled opened member
    have live := holds.live
    simp only [SignInCode.redeemable,Bool.and_eq_true,Option.isNone_iff_eq_none] at live
    refine ⟨entitled,?_⟩
    rw [consumed_at,if_neg]
    · exact stored
    · intro same
      rw [same,holds.stored] at stored
      rw [Option.some.inj stored] at live
      cases live.1
  sessions := valid.sessions

theorem CodeWorld.open_ (valid : CodeWorld contract world) {hash : Digest} {code : SignInCode} {request : SiteSessionRequest}
    {sight : Sight} {withdrawals : Nat} (holds : Holds world number hash code call.now)
    (entitled : Entitled contract (call.opened hash request code sight withdrawals (call.session code))) :
    CodeWorld contract (call.commit number world hash (call.opened hash request code sight withdrawals (call.session code))) where
  once other := by
    change (world.openings ++ [_]).countP _ ≤ 1
    have before := valid.once other
    rw [List.countP_append,List.countP_singleton]
    split
    · rename_i same
      have none_ : world.openings.countP (fun opened => opened.codeHash = other) = 0 := by
        rw [List.countP_eq_zero]
        intro opened member own
        have stored := (valid.entitled opened member).2
        have live := holds.live
        simp only [SignInCode.redeemable,Bool.and_eq_true,Option.isNone_iff_eq_none] at live
        simp only [decide_eq_true_eq] at own same
        rw [own,← same] at stored
        rw [Option.some.inj (holds.stored.symm.trans stored)] at live
        cases live.1
      omega
    · omega
  entitled opened member := by
    rcases List.mem_append.mp member with earlier | own
    · exact (valid.refuse holds).entitled opened earlier
    · obtain rfl := List.mem_singleton.mp own
      have consumed : (consume number world hash code call.now).codes hash = some (code.consumed call.now) :=
        (consumed_at hash code call.now hash).trans (if_pos rfl)
      exact ⟨entitled,consumed⟩
  sessions entry member owner := by
    rcases List.mem_append.mp member with earlier | own
    · obtain ⟨opened,there,same⟩ := valid.sessions entry earlier owner
      exact ⟨opened,List.mem_append_left _ there,same⟩
    · obtain rfl := List.mem_singleton.mp own
      exact ⟨_,List.mem_append_right _ (List.mem_singleton_self _),rfl,rfl,rfl⟩

theorem kept_session (revoke : SessionId × Session → Bool) (now : Timestamp) (entry : SessionId × Session)
    (member : entry ∈ world.sessions.map fun before => if revoke before then (before.1,before.2.revoked now) else before) :
    ∃ before ∈ world.sessions, before.1 = entry.1 ∧ before.2.kind = entry.2.kind ∧ before.2.userId = entry.2.userId ∧
      before.2.audience = entry.2.audience := by
  obtain ⟨before,listed,rfl⟩ := List.mem_map.mp member
  refine ⟨before,listed,?_⟩
  split
  · exact ⟨rfl,rfl,rfl,rfl⟩
  · exact ⟨rfl,rfl,rfl,rfl⟩

/-- What a turn does to the codes. -/
theorem turned_codes {task : Task} (turned : Turned contract number world task later) (valid : CodeWorld contract world)
    (known : CodeLocal contract world number task) :
    CodeWorld contract later ∧ ∀ other, other ≠ number → CodesStay other world later := by
  cases turned with
  | quiet _ _ still =>
    refine ⟨valid.quiet still.codes still.openings fun entry member _ => ?_,still.codesStay⟩
    exact ⟨entry,still.sessions ▸ member,rfl,rfl,rfl,rfl⟩
  | approved call row announcement =>
    refine ⟨valid.quiet rfl rfl fun entry member _ => ⟨entry,member,rfl,rfl,rfl,rfl⟩,fun other different => ?_⟩
    exact ⟨fun _ row stored => ⟨row,stored,Or.inl rfl⟩,
      fun hash _ holder stored => ⟨(sameOthers_release world.codeHolder hash other different).mpr holder,stored⟩⟩
  | withdrawn call row announcement revoked opened =>
    refine ⟨valid.quiet rfl rfl fun entry member _ => ?_,fun other different => ?_⟩
    · exact kept_session (fun before => before.1 ∈ revoked) call.now entry (by simpa [closeSessions,commitWithdrawal] using member)
    · exact ⟨fun _ row stored => ⟨row,stored,Or.inl rfl⟩,
        fun hash _ holder stored => ⟨(sameOthers_release world.codeHolder hash other different).mpr holder,stored⟩⟩
  | consumed call hash code => exact ⟨valid.refuse known,consume_codesStay known⟩
  | opened call request code sight withdrawals session =>
    obtain ⟨⟨holds,accepts⟩,rfl⟩ := known
    refine ⟨valid.open_ holds (entitled_of_accepts withdrawals holds.live accepts),fun other different => ?_⟩
    exact ⟨(consume_codesStay holds other different).rows,(consume_codesStay holds other different).held⟩

/-- What a redemption knows where it awaits next. -/
theorem openSession_known {at_ next : Opening} {ending : Ending} (known : CodeKnown contract world number call at_)
    (stepped : openSession contract call number world at_ ending = some (later,next)) :
    CodeKnown contract later number call next := by
  unfold openSession at stepped
  split at stepped
  · simp only at stepped
    split at stepped
    · cases stepped
      trivial
    · rename_i found
      cases stepped
      obtain ⟨stored,live⟩ := Option.filter_eq_some_iff.mp found
      simp only [SignInCode.redeemable,Bool.and_eq_true,decide_eq_true_eq] at live
      exact ⟨_,stored,live.2⟩
  · simp only at stepped
    split at stepped
    · cases stepped
    · split at stepped
      · rename_i gone
        cases stepped
        obtain ⟨row,stored,unexpired⟩ := known
        have consumed : row.consumedAt.isSome := by
          rw [stored,Option.filter_eq_none_iff] at gone
          have refused := gone row rfl
          simpa [SignInCode.redeemable,unexpired,Option.ne_none_iff_isSome] using refused
        exact ⟨row,stored,consumed⟩
      · rename_i found
        obtain ⟨stored,live⟩ := Option.filter_eq_some_iff.mp found
        split at stepped
        · cases stepped
          exact fun other => absurd rfl other
        · split at stepped
          · rename_i accepts
            cases stepped
            exact ⟨⟨Function.update_self ..,stored,live⟩,accepts⟩
          · cases stepped
            exact ⟨Function.update_self ..,stored,live⟩
  · split at stepped
    · cases stepped
      exact known
    · cases stepped
      exact known.1
  · simp only at stepped
    split at stepped
    · cases stepped
      exact fun other => absurd rfl other
    · cases stepped
      exact ⟨known,rfl⟩
  · rename_i request code sight withdrawals session
    cases stepped
    exact fun _ => ⟨code.consumed call.now,Function.update_self ..,rfl⟩
  · cases stepped
    exact fun other => absurd rfl other
  · rename_i hash code
    cases stepped
    exact fun _ => ⟨code.consumed call.now,Function.update_self ..,rfl⟩
  · cases stepped
    exact fun other => absurd rfl other
  · rename_i presented code lone
    cases stepped
    cases presented with
    | none => trivial
    | some hash =>
      cases code with
      | none => exact fun _ => known
      | some code => exact absurd rfl (lone hash code rfl)
  · cases stepped
    trivial
  · cases stepped
    exact fun other => absurd rfl other
  · cases stepped
    exact fun other => absurd rfl other
  · cases stepped
    exact fun other => absurd rfl other
  · cases stepped
    exact fun other => absurd rfl other
  · rename_i presented code _ _ _
    cases stepped
    cases presented with
    | none => trivial
    | some hash => exact fun other => absurd rfl other
  · cases stepped

end Turns

section Routes

variable {world later : World}

/-- A code that is issued had no row. -/
theorem issued_codes (valid : CodeWorld contract world) {hash : Digest} (row : SignInCode) (absent : world.codes hash = none) :
    CodeWorld contract { world with codes := Function.update world.codes hash (some row) } ∧
      ∀ other, CodesStay other world { world with codes := Function.update world.codes hash (some row) } := by
  have kept : ∀ place before, world.codes place = some before →
      Function.update world.codes hash (some row) place = some before := by
    intro place before stored
    rw [Function.update_of_ne]
    · exact stored
    · rintro rfl
      rw [absent] at stored
      cases stored
  refine ⟨⟨valid.once,fun opened member => ?_,valid.sessions⟩,fun other => ⟨?_,?_⟩⟩
  · obtain ⟨entitled,stored⟩ := valid.entitled opened member
    exact ⟨entitled,kept _ _ stored⟩
  · intro place before stored
    exact ⟨before,kept place before stored,Or.inl rfl⟩
  · intro place before holder stored
    exact ⟨holder,kept place before stored⟩

theorem outside_codes (valid : CodeWorld contract world) (move : Outside) (moved : world.outside contract move = some later) :
    CodeWorld contract later ∧ ∀ other, CodesStay other world later := by
  cases move with
  | issue call =>
    obtain rfl := Option.some.inj moved
    rcases issueCode_cases contract call world with same | ⟨row,absent,_,same⟩
    · rw [same]
      exact ⟨valid,fun other => codesStay_same other rfl rfl⟩
    · rw [same]
      exact issued_codes valid row absent
  | signIn sessionId session =>
    rw [World.outside] at moved
    split at moved
    · cases moved
    · rename_i foreign
      cases moved
      refine ⟨valid.quiet rfl rfl fun entry member owner => ?_,fun other => codesStay_same other rfl rfl⟩
      rcases List.mem_append.mp member with earlier | own
      · exact ⟨entry,earlier,rfl,rfl,rfl,rfl⟩
      · obtain rfl := List.mem_singleton.mp own
        simp only [Bool.or_eq_true,decide_eq_true_eq,not_or] at foreign
        exact absurd owner foreign.1
  | revoke sessionId now =>
    cases moved
    refine ⟨valid.quiet rfl rfl fun entry member _ => ?_,fun other => codesStay_same other rfl rfl⟩
    exact kept_session (fun before => before.1 = sessionId ∧ before.2.revokedAt.isNone) now entry (by simpa using member)
  | grants rows =>
    cases moved
    exact ⟨valid.quiet rfl rfl fun entry member _ => ⟨entry,member,rfl,rfl,rfl,rfl⟩,fun other => codesStay_same other rfl rfl⟩

theorem codes_keep (contract : SiteContract) :
    (machine contract).Keeps (fun _ _ => True) (CodeWorld contract) CodesStay (CodeLocal contract) where
  begins world number call _ := by
    cases call with
    | approve => trivial
    | withdraw => trivial
    | open_ call =>
      change CodeKnown contract world number call call.begin_
      unfold OpenSession.begin_
      split
      · trivial
      · split <;> trivial
  drops _ _ _ := trivial
  stays world later number task _ stay known := by
    cases task with
    | opening call at_ => exact CodeKnown.stays known stay
    | approving => trivial
    | withdrawing => trivial
    | dropped => trivial
  resumes system number ending task later after _ stored holds stepped := by
    have known := holds.tasks number task stored
    obtain ⟨valid,stay⟩ := turned_codes (resume_turned stepped) holds.world known
    refine ⟨valid,?_,stay⟩
    cases task with
    | opening call at_ =>
      obtain ⟨⟨_,_⟩,turn,same⟩ := Option.map_eq_some_iff.mp stepped
      cases same
      exact openSession_known known turn
    | approving =>
      obtain ⟨_,_,same⟩ := Option.map_eq_some_iff.mp stepped
      cases same
      trivial
    | withdrawing =>
      obtain ⟨_,_,same⟩ := Option.map_eq_some_iff.mp stepped
      cases same
      trivial
    | dropped =>
      cases stepped
      trivial
  outside world move later valid moved := outside_codes valid move moved

/-- Each code opens one session at most, of the user and the site it was issued for, and only when everything that the
redemption asks for is met; a presentation of a live code consumes it, also one that is refused. -/
theorem codes_redeemed_once (contract : SiteContract) (actions : List Action) :
    StateMachine.Throughout (step contract) (CodesHold contract) initial actions := by
  have start : Tasks.Holds (CodeWorld contract) (CodeLocal contract) initial := by
    refine ⟨⟨fun _ => Nat.zero_le 1,?_,?_⟩,?_⟩
    · intro opened member
      cases member
    · intro entry member
      cases member
    · intro number task there
      cases there
  refine (codes_keep contract).throughout (fun system holds => ?_) actions ?_ start
  · refine ⟨holds.world.once,holds.world.entitled,holds.world.sessions,?_,?_⟩
    · intro number call hash answer there
      exact holds.tasks number _ there
    · intro action next stepped
      obtain ⟨number,stay⟩ := (codes_keep contract).moves (fun number _ => codesStay_same number rfl rfl) holds action trivial stepped
      exact stay.rows
  · exact StateMachine.along_of_forall _ _ _ _ fun _ _ _ => trivial

end Routes

end Ratatoskr.Sites
