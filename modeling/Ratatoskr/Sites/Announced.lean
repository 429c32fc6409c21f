import Mathlib.Data.List.Chain
import Ratatoskr.Sites.Effects

/-! The announcements of a site against its stored approval, and the hostnames of approved sites. A site without a
row has nothing to lock, so that two first approvals can both take themselves for the first. -/
namespace Ratatoskr.Sites

open Identity PublicApi

variable (contract : SiteContract)

/-- The events of a site in the order their transactions committed. -/
def World.announced (world : World) (site : SiteId) : List Announcement :=
  world.announcements.filter fun announcement => announcement.payload.siteId = site

/-- The digest and the state of the stored approval -/
def World.mark (world : World) (site : SiteId) : Option (String × ApprovalState) := (world.approvals site).map Approval.mark

/-- The step leaves the mark of the site and enqueues nothing of it, or it changes the mark and enqueues that. -/
def Enqueued (world later : World) (site : SiteId) : Prop :=
  later.announced site = world.announced site ∧ later.mark site = world.mark site ∨
    ∃ announcement, later.announced site = world.announced site ++ [announcement] ∧
      later.mark site = some announcement.payload.mark ∧ world.mark site ≠ later.mark site

/-- What the committed rows promise. -/
structure Announced (world : World) : Prop where
  differ : ∀ site, ((world.announced site).map fun announcement => announcement.payload.mark).IsChain (· ≠ ·)
  last : ∀ site, ((world.announced site).map fun announcement => announcement.payload.mark).getLast? = world.mark site
  /-- The pump takes the rows of the outbox by their numbers. -/
  ordered : ∀ site, (world.announced site).Pairwise fun announcement next => announcement.outboxId < next.outboxId
  drawn : ∀ announcement ∈ world.announcements, announcement.outboxId < world.drawn
  /-- The index on hostnames is that of the approved rows. -/
  indexed : ∀ hostname site, world.hostnames hostname = some site ↔
    ∃ row, world.approvals site = some row ∧ row.state = .approved ∧ row.hostname = hostname

/-- What holds of the system in every state. -/
structure Announces (s : System) : Prop where
  announced : Announced s.world
  hostname : ∀ site other row another, s.world.approvals site = some row → s.world.approvals other = some another →
    row.state = .approved → another.state = .approved → row.hostname = another.hostname → site = other
  enqueued : ∀ action next, step contract s action = some next → ∀ site, Enqueued s.world next.world site

/-- An approval that found no row does not find the same approval when it stores. -/
def Task.first (world : World) : Task → Prop
  | .approving call (.storing change none) => (world.approvals call.site).all (fun row => !row.isApprovalOf change) = true
  | _ => True

instance (world : World) : (task : Task) → Decidable (task.first world)
  | .approving call (.storing change none) =>
    inferInstanceAs (Decidable ((world.approvals call.site).all (fun row => !row.isApprovalOf change) = true))
  | .approving _ (.storing _ (some _)) | .approving _ (.locking _) | .approving _ (.announcing _ _)
  | .approving _ (.committing _ _) | .approving _ (.answered _) | .withdrawing _ _ | .opening _ _ | .dropped =>
    inferInstanceAs (Decidable True)

/-- No two first approvals of a site with one digest store their rows. -/
def First (s : System) : Action → Prop
  | .resume number ending => ending = .done → ∀ task ∈ s.tasks number, task.first s.world
  | .begin_ _ _ | .drop _ | .outside _ => True

instance (s : System) : (action : Action) → Decidable (First s action)
  | .resume number ending => inferInstanceAs (Decidable (ending = .done → ∀ task ∈ s.tasks number, task.first s.world))
  | .begin_ _ _ | .drop _ | .outside _ => inferInstanceAs (Decidable True)

section Locals

/-- What a request may count on while others take their turns. -/
structure RowsStay (number : Nat) (world later : World) : Prop where
  drawn : world.drawn ≤ later.drawn
  site : ∀ site, world.siteHolder site = some number → later.siteHolder site = some number ∧
    later.approvals site = world.approvals site ∧ later.announced site = world.announced site
  hostname : ∀ hostname, world.hostnameHolder hostname = some number → later.hostnameHolder hostname = some number ∧
    ∀ site, later.hostnames hostname = some site → world.hostnames hostname = some site

/-- The request holds the row of the site, which it is about to change to this one. -/
structure Changing (world : World) (number : Nat) (site : SiteId) (row : Approval) : Prop where
  holder : world.siteHolder site = some number
  differs : world.mark site ≠ some row.mark
  hosted : row.state = .approved → world.hostnameHolder row.hostname = some number ∧
    ∀ other, world.hostnames row.hostname = some other → other = site

/-- The event of a change is the youngest of its site. -/
structure Stamped (world : World) (site : SiteId) (row : Approval) (announcement : Announcement) : Prop where
  about : announcement.payload.siteId = site
  mark : announcement.payload.mark = row.mark
  drawn : announcement.outboxId < world.drawn
  youngest : ∀ earlier ∈ world.announced site, earlier.outboxId < announcement.outboxId

def ApprovingKnown (world : World) (number : Nat) (site : SiteId) : Approving → Prop
  | .locking change | .storing change none => change.siteId = site ∧ change.state = .approved
  | .storing change (some row) => (change.siteId = site ∧ change.state = .approved) ∧
    world.siteHolder site = some number ∧ world.approvals site = some row
  | .announcing change row => Changing world number site row ∧ change.siteId = site ∧ change.mark = row.mark
  | .committing row announcement => Changing world number site row ∧ Stamped world site row announcement
  | .answered _ => True

def WithdrawingKnown (world : World) (number : Nat) (call : Withdraw) : Withdrawing → Prop
  | .locking | .answered _ => True
  | .updating stored change => Changing world number call.site (call.row stored) ∧ change.siteId = call.site ∧
    change.mark = (call.row stored).mark
  | .revoking row change | .announcing row change _ _ =>
    Changing world number call.site row ∧ change.siteId = call.site ∧ change.mark = row.mark
  | .committing row announcement _ _ => Changing world number call.site row ∧ Stamped world call.site row announcement

def RowsLocal (world : World) (number : Nat) : Task → Prop
  | .approving call at_ => ApprovingKnown world number call.site at_
  | .withdrawing call at_ => WithdrawingKnown world number call at_
  | .opening _ _ | .dropped => True

variable {contract} {world later : World} {number : Nat} {site : SiteId} {row : Approval} {announcement : Announcement}

theorem Changing.stays (changing : Changing world number site row) (stay : RowsStay number world later) :
    Changing later number site row where
  holder := (stay.site site changing.holder).1
  differs := by
    rw [World.mark,(stay.site site changing.holder).2.1]
    exact changing.differs
  hosted approved := by
    obtain ⟨holder,free⟩ := changing.hosted approved
    obtain ⟨kept,index⟩ := stay.hostname row.hostname holder
    exact ⟨kept,fun other there => free other (index other there)⟩

theorem Stamped.stays (stamped : Stamped world site row announcement) (changing : Changing world number site row)
    (stay : RowsStay number world later) : Stamped later site row announcement where
  about := stamped.about
  mark := stamped.mark
  drawn := Nat.lt_of_lt_of_le stamped.drawn stay.drawn
  youngest := by
    rw [(stay.site site changing.holder).2.2]
    exact stamped.youngest

theorem RowsLocal.stays {task : Task} (known : RowsLocal world number task) (stay : RowsStay number world later) :
    RowsLocal later number task := by
  cases task with
  | approving call at_ =>
    cases at_ with
    | locking => exact known
    | storing change stored =>
      cases stored with
      | none => exact known
      | some row =>
        obtain ⟨asked,holder,stored⟩ := known
        obtain ⟨kept,same,_⟩ := stay.site call.site holder
        exact ⟨asked,kept,same.trans stored⟩
    | announcing => exact ⟨known.1.stays stay,known.2⟩
    | committing => exact ⟨known.1.stays stay,known.2.stays known.1 stay⟩
    | answered => trivial
  | withdrawing call at_ =>
    cases at_ with
    | locking => trivial
    | updating => exact ⟨known.1.stays stay,known.2⟩
    | revoking => exact ⟨known.1.stays stay,known.2⟩
    | announcing => exact ⟨known.1.stays stay,known.2⟩
    | committing => exact ⟨known.1.stays stay,known.2.stays known.1 stay⟩
    | answered => trivial
  | opening => trivial
  | dropped => trivial

end Locals

section Commits

variable {contract} {world later : World} {number : Nat} {caller : Caller} {row : Approval} {announcement : Announcement}

/-- An entry of the row of the site is gone, and no other. -/
theorem hostnamesWithout_iff (announced : Announced world) (site other : SiteId) (hostname : String) :
    world.hostnamesWithout site hostname = some other ↔ other ≠ site ∧ world.hostnames hostname = some other := by
  have own : ∀ at_, world.hostnames at_ = some site ↔ (world.approvals site).filter (·.state = .approved) ≠ none ∧
      ∀ old, (world.approvals site).filter (·.state = .approved) = some old → old.hostname = at_ := by
    intro at_
    rw [announced.indexed]
    cases stored : world.approvals site with
    | none => simp
    | some row => by_cases approved : row.state = .approved <;> simp [Option.filter_some,approved]
  rw [World.hostnamesWithout]
  cases stored : (world.approvals site).filter (·.state = .approved) with
  | some old =>
    have entry : world.hostnames old.hostname = some site := (own _).mpr ⟨by simp [stored],by simp [stored]⟩
    simp only [Function.update_apply]
    split
    · rename_i same
      rw [same,entry]
      simp [eq_comm]
    · rename_i different
      constructor
      · intro there
        refine ⟨?_,there⟩
        rintro rfl
        exact different (((own hostname).mp there).2 old stored).symm
      · exact And.right
  | none =>
    constructor
    · intro there
      refine ⟨?_,there⟩
      rintro rfl
      exact ((own hostname).mp there).1 stored
    · exact And.right

theorem commitChange_approvals (site : SiteId) : (commitChange number caller world row announcement).approvals site =
    if site = caller.site then some row else world.approvals site := Function.update_apply ..

theorem commitChange_mark (site : SiteId) : (commitChange number caller world row announcement).mark site =
    if site = caller.site then some row.mark else world.mark site := by
  rw [World.mark,commitChange_approvals]
  split <;> rfl

theorem commitChange_announced (about : announcement.payload.siteId = caller.site) (site : SiteId) :
    (commitChange number caller world row announcement).announced site =
      if site = caller.site then world.announced site ++ [announcement] else world.announced site := by
  change (world.announcements ++ [announcement]).filter _ = _
  rw [List.filter_append,List.filter_singleton,about]
  split
  · rename_i same
    rw [decide_eq_true same.symm]
    rfl
  · rename_i other
    rw [decide_eq_false (Ne.symm other)]
    exact List.append_nil _

theorem commitChange_hostnames (announced : Announced world) (changing : Changing world number caller.site row)
    (hostname : String) (site : SiteId) :
    (commitChange number caller world row announcement).hostnames hostname = some site ↔
      if site = caller.site then row.state = .approved ∧ row.hostname = hostname else world.hostnames hostname = some site := by
  change (if row.state = .approved then Function.update (world.hostnamesWithout caller.site) row.hostname (some caller.site)
    else world.hostnamesWithout caller.site) hostname = some site ↔ _
  split
  · rename_i approved
    rw [Function.update_apply]
    split
    · rename_i here
      have only := (changing.hosted approved).2
      constructor
      · intro same
        rw [if_pos (Option.some.inj same).symm]
        exact ⟨approved,here.symm⟩
      · intro there
        split at there
        · rename_i same
          rw [same]
        · rename_i other
          exact absurd (only site (here ▸ there)) other
    · rename_i elsewhere
      rw [hostnamesWithout_iff announced]
      split
      · rename_i same
        simp [same,Ne.symm elsewhere]
      · rename_i other
        simp [other]
  · rename_i withdrawn
    rw [hostnamesWithout_iff announced]
    split
    · rename_i same
      simp [same,withdrawn]
    · rename_i other
      simp [other]

/-- A change that is announced by its own mark keeps what the rows promise. -/
theorem commitChange_announces (announced : Announced world) (changing : Changing world number caller.site row)
    (stamped : Stamped world caller.site row announcement) :
    Announced (commitChange number caller world row announcement) where
  differ site := by
    rw [commitChange_announced stamped.about]
    split
    · rename_i same
      rw [List.map_append,List.isChain_append]
      refine ⟨announced.differ site,List.isChain_singleton _,?_⟩
      intro before last after own
      rw [announced.last,same] at last
      obtain rfl := Option.some.inj own
      rintro rfl
      exact changing.differs (last.trans (congrArg some stamped.mark))
    · exact announced.differ site
  last site := by
    rw [commitChange_announced stamped.about,commitChange_mark]
    split
    · rw [List.map_append,List.map_singleton,List.getLast?_concat,stamped.mark]
    · exact announced.last site
  ordered site := by
    rw [commitChange_announced stamped.about]
    split
    · rename_i same
      rw [List.pairwise_append]
      refine ⟨announced.ordered site,List.pairwise_singleton _ _,?_⟩
      intro earlier member own at_
      obtain rfl := List.mem_singleton.mp at_
      exact stamped.youngest earlier (same ▸ member)
    · exact announced.ordered site
  drawn other member := by
    rcases List.mem_append.mp member with earlier | own
    · exact announced.drawn other earlier
    · obtain rfl := List.mem_singleton.mp own
      exact stamped.drawn
  indexed hostname site := by
    rw [commitChange_hostnames announced changing,commitChange_approvals]
    split
    · simp
    · exact announced.indexed hostname site

/-- Nobody else holds a row or a hostname that it changes. -/
theorem commitChange_stays (announced : Announced world) (changing : Changing world number caller.site row)
    (stamped : Stamped world caller.site row announcement) (other : Nat) (different : other ≠ number) :
    RowsStay other world (commitChange number caller world row announcement) where
  drawn := Nat.le_refl _
  site site mine := by
    have elsewhere : site ≠ caller.site := by
      rintro rfl
      exact different (Option.some.inj (mine.symm.trans changing.holder))
    refine ⟨(sameOthers_release world.siteHolder site other different).mpr mine,?_,?_⟩
    · rw [commitChange_approvals,if_neg elsewhere]
    · rw [commitChange_announced stamped.about,if_neg elsewhere]
  hostname hostname mine := by
    refine ⟨(sameOthers_release world.hostnameHolder hostname other different).mpr mine,fun site there => ?_⟩
    rw [commitChange_hostnames announced changing] at there
    split at there
    · have holder := (changing.hosted there.1).1
      rw [there.2,mine] at holder
      exact absurd (Option.some.inj holder) different
    · exact there

theorem commitChange_enqueued (changing : Changing world number caller.site row)
    (stamped : Stamped world caller.site row announcement) (site : SiteId) :
    Enqueued world (commitChange number caller world row announcement) site := by
  rw [Enqueued,commitChange_announced stamped.about,commitChange_mark]
  split
  · rename_i same
    subst same
    exact Or.inr ⟨announcement,rfl,congrArg some stamped.mark.symm,changing.differs⟩
  · exact Or.inl ⟨rfl,rfl⟩

end Commits

section Turns

variable {contract} {world later : World} {number : Nat}

theorem announced_same (announcements : later.announcements = world.announcements) : later.announced = world.announced := by
  funext site
  rw [World.announced,announcements]
  rfl

theorem mark_same (approvals : later.approvals = world.approvals) : later.mark = world.mark := by
  funext site
  rw [World.mark,approvals]
  rfl

theorem enqueued_same (approvals : later.approvals = world.approvals) (announcements : later.announcements = world.announcements)
    (site : SiteId) : Enqueued world later site :=
  Or.inl ⟨congrFun (announced_same announcements) site,congrFun (mark_same approvals) site⟩

/-- The rows promise as much after a turn that leaves them. -/
theorem Announced.kept (announced : Announced world) (approvals : later.approvals = world.approvals)
    (hostnames : later.hostnames = world.hostnames) (announcements : later.announcements = world.announcements)
    (drawn : world.drawn ≤ later.drawn) : Announced later := by
  refine ⟨?_,?_,?_,fun announcement member => ?_,?_⟩
  · rw [announced_same announcements]
    exact announced.differ
  · rw [announced_same announcements,mark_same approvals]
    exact announced.last
  · rw [announced_same announcements]
    exact announced.ordered
  · rw [announcements] at member
    exact Nat.lt_of_lt_of_le (announced.drawn announcement member) drawn
  · rw [hostnames,approvals]
    exact announced.indexed

theorem Quiet.rowsStay (quiet : Quiet number world later) (other : Nat) (different : other ≠ number) : RowsStay other world later where
  drawn := quiet.drawn
  site site mine := by
    refine ⟨(quiet.sites site other different).mpr mine,by rw [quiet.approvals],?_⟩
    rw [announced_same quiet.announcements]
  hostname hostname mine := by
    refine ⟨(quiet.hostnameHolders hostname other different).mpr mine,fun site there => ?_⟩
    rw [← quiet.hostnames]
    exact there

theorem turned_rows {task : Task} (turned : Turned contract number world task later) (announced : Announced world)
    (known : RowsLocal world number task) :
    Announced later ∧ (∀ other, other ≠ number → RowsStay other world later) ∧ ∀ site, Enqueued world later site := by
  cases turned with
  | quiet _ _ still =>
    exact ⟨announced.kept still.approvals still.hostnames still.announcements still.drawn,still.rowsStay,
      enqueued_same still.approvals still.announcements⟩
  | approved call row announcement =>
    exact ⟨commitChange_announces announced known.1 known.2,commitChange_stays announced known.1 known.2,
      commitChange_enqueued known.1 known.2⟩
  | withdrawn call row announcement revoked opened =>
    have kept := commitChange_announces announced known.1 known.2
    refine ⟨⟨kept.differ,kept.last,kept.ordered,kept.drawn,kept.indexed⟩,fun other different => ?_,
      commitChange_enqueued known.1 known.2⟩
    have stay := commitChange_stays announced known.1 known.2 other different
    exact ⟨stay.drawn,stay.site,stay.hostname⟩
  | consumed call hash code =>
    refine ⟨announced.kept rfl rfl rfl (Nat.le_refl _),fun other different => ?_,enqueued_same rfl rfl⟩
    have stay := (quiet_release number world).rowsStay other different
    exact ⟨stay.drawn,stay.site,stay.hostname⟩
  | opened call request code sight withdrawals session =>
    refine ⟨announced.kept rfl rfl rfl (Nat.le_refl _),fun other different => ?_,enqueued_same rfl rfl⟩
    have stay := (quiet_release number world).rowsStay other different
    exact ⟨stay.drawn,stay.site,stay.hostname⟩

theorem holdHostname_keeps (hostname other : String) (holder taker : Nat) (held : world.hostnameHolder hostname = some holder) :
    (world.holdHostname taker other).hostnameHolder hostname = some holder := by
  change Function.update world.hostnameHolder other (some ((world.hostnameHolder other).getD taker)) hostname = some holder
  rw [Function.update_apply]
  split
  · rename_i same
    rw [← same,held,Option.getD_some]
  · exact held

theorem holdHostname_takes {hostname : String} (free : isFree number world.hostnameHolder hostname = true) :
    (world.holdHostname number hostname).hostnameHolder hostname = some number := by
  change Function.update world.hostnameHolder hostname _ hostname = _
  rw [Function.update_self]
  cases held : world.hostnameHolder hostname with
  | none => rfl
  | some holder =>
    rw [isFree,held] at free
    rw [Option.getD_some,eq_of_beq free]

theorem announcement_spec {caller : Caller} {change : SiteApprovalChanged} {outboxId : Nat} {eventId : MessageId}
    {announcement : Announcement} (made : caller.announcement contract change outboxId eventId = some announcement) :
    announcement.payload = change ∧ announcement.outboxId = outboxId := by
  unfold Caller.announcement at made
  simp only at made
  split at made
  · obtain rfl := Option.some.inj made
    exact ⟨rfl,rfl⟩
  · cases made

/-- What an event is stamped with when it is enqueued. -/
theorem announce_stamped {caller : Caller} {change : SiteApprovalChanged} {row : Approval} {announcement : Announcement}
    (announced : Announced world) (about : change.siteId = caller.site) (mark : change.mark = row.mark)
    (changing : Changing world number caller.site row)
    (made : announce contract caller world change = (later,some announcement)) :
    Changing later number caller.site row ∧ Stamped later caller.site row announcement := by
  obtain ⟨rfl,own⟩ := Prod.mk.inj made
  obtain ⟨rfl,outboxId⟩ := announcement_spec own
  refine ⟨⟨changing.holder,changing.differs,changing.hosted⟩,about,mark,?_,fun earlier member => ?_⟩
  · rw [outboxId]
    exact Nat.lt_succ_self _
  · rw [outboxId]
    exact announced.drawn earlier (List.mem_of_mem_filter member)

/-- Another digest or another state is another mark. -/
theorem mark_ne_of_not_isApprovalOf {change : SiteApprovalChanged} {call : Approve} {row : Approval}
    (other : row.isApprovalOf change = false) : row.mark ≠ (call.row change).mark := by
  intro same
  obtain ⟨digest,state⟩ := Prod.mk.inj same
  rw [Approval.isApprovalOf,digest,state] at other
  simp [Approve.row] at other

theorem upsert_known {call : Approve} {change : SiteApprovalChanged} {next : Approving}
    (asked : change.siteId = call.site ∧ change.state = .approved)
    (differs : ∀ row, world.approvals call.site = some row → row.isApprovalOf change = false)
    (stepped : call.upsert number world change = some (later,next)) : ApprovingKnown later number call.site next := by
  unfold Approve.upsert at stepped
  split at stepped
  · cases stepped
  · rename_i free
    simp only [Bool.or_eq_true,Bool.not_eq_true',not_or,Bool.not_eq_false] at free
    simp only at stepped
    split at stepped
    · cases stepped
      trivial
    · split at stepped
      · cases stepped
        trivial
      · rename_i untaken
        have mark : change.mark = (call.row change).mark := congrArg (Prod.mk change.manifestSha256) asked.2
        have held : Changing ((world.holdSite number call.site).holdHostname number change.hostname) number call.site
            (call.row change) := by
          refine ⟨Function.update_self ..,?_,fun _ => ⟨?_,fun other there => ?_⟩⟩
          · change (world.approvals call.site).map Approval.mark ≠ _
            intro same
            obtain ⟨row,stored,same⟩ := Option.map_eq_some_iff.mp same
            exact mark_ne_of_not_isApprovalOf (differs row stored) same
          · exact holdHostname_takes free.2
          · by_contra elsewhere
            exact untaken ((Option.any_eq_true ..).mpr ⟨other,there,decide_eq_true elsewhere⟩)
        split at stepped
        · cases stepped
          refine ⟨⟨held.holder,held.differs,fun approved => ?_⟩,asked.1,mark⟩
          exact ⟨holdHostname_keeps _ _ _ _ (held.hosted approved).1,(held.hosted approved).2⟩
        · cases stepped
          exact ⟨held,asked.1,mark⟩

theorem approve_known {call : Approve} {at_ next : Approving} {ending : Ending} (announced : Announced world)
    (first : ending = .done → Task.first world (.approving call at_)) (known : ApprovingKnown world number call.site at_)
    (stepped : approve contract call number world at_ ending = some (later,next)) :
    ApprovingKnown later number call.site next := by
  unfold approve at stepped
  split at stepped
  · split at stepped
    · cases stepped
      exact known
    · rename_i stored
      split at stepped <;> cases stepped
      exact ⟨known,Function.update_self ..,stored⟩
  · rename_i change stored
    split at stepped
    · cases stepped
      trivial
    · rename_i other
      cases stored with
      | none =>
        refine upsert_known known (fun row stored => ?_) stepped
        have none_ := first rfl
        rw [Task.first,stored] at none_
        simpa using none_
      | some row =>
        refine upsert_known known.1 (fun found stored => ?_) stepped
        obtain rfl := Option.some.inj (known.2.2.symm.trans stored)
        simpa [Option.filter_eq_none_iff] using other
  · split at stepped
    · rename_i drawn
      cases stepped
      exact announce_stamped announced known.2.1 known.2.2 known.1 drawn
    · cases stepped
      trivial
  all_goals cases stepped
  all_goals trivial

theorem withdrawal_spec {site : SiteId} {stored : Approval} {change : SiteApprovalChanged}
    (made : withdrawal contract site stored = some change) :
    change.siteId = site ∧ change.mark = (stored.manifestSha256,.withdrawn) := by
  unfold withdrawal at made
  split at made
  · obtain rfl := Option.some.inj made
    exact ⟨rfl,rfl⟩
  · cases made

theorem withdraw_known {call : Withdraw} {at_ next : Withdrawing} {ending : Ending} (announced : Announced world)
    (known : WithdrawingKnown world number call at_)
    (stepped : withdraw contract call number world at_ ending = some (later,next)) : WithdrawingKnown later number call next := by
  unfold withdraw at stepped
  split at stepped
  · split at stepped
    · cases stepped
      trivial
    · rename_i row stored
      split at stepped
      · cases stepped
      · split at stepped
        · cases stepped
          trivial
        · rename_i approved
          split at stepped
          · cases stepped
            trivial
          · rename_i made
            cases stepped
            obtain ⟨about,mark⟩ := withdrawal_spec made
            refine ⟨⟨Function.update_self ..,?_,fun other => by cases other⟩,about,mark⟩
            change (world.approvals call.site).map Approval.mark ≠ _
            rw [stored]
            intro same
            exact approved (Prod.mk.inj (Option.some.inj same)).2
  · rename_i stored change
    cases stepped
    refine ⟨⟨known.1.holder,known.1.differs,fun other => by cases other⟩,known.2⟩
  · cases stepped
    exact known
  · split at stepped
    · rename_i drawn
      cases stepped
      exact announce_stamped announced known.2.1 known.2.2 known.1 drawn
    · cases stepped
      trivial
  all_goals cases stepped
  all_goals trivial

end Turns

section Routes

variable {world later : World}

theorem change_spec {call : Approve} {change : SiteApprovalChanged} (made : call.change contract = .ok change) :
    change.siteId = call.site ∧ change.state = .approved := by
  unfold Approve.change at made
  split at made
  · cases made
  · split at made
    · cases made
    · split at made
      · cases made
      · rename_i same
        split at made
        · cases made
        · split at made <;> cases made
          exact ⟨not_not.mp same,rfl⟩

theorem outside_quiet (move : Outside) (moved : world.outside contract move = some later) :
    later.approvals = world.approvals ∧ later.hostnames = world.hostnames ∧ later.announcements = world.announcements ∧
      later.drawn = world.drawn ∧ later.siteHolder = world.siteHolder ∧ later.hostnameHolder = world.hostnameHolder := by
  cases move with
  | issue call =>
    obtain rfl := Option.some.inj moved
    rcases issueCode_cases contract call world with same | ⟨row,_,_,same⟩
    · rw [same]
      exact ⟨rfl,rfl,rfl,rfl,rfl,rfl⟩
    · rw [same]
      exact ⟨rfl,rfl,rfl,rfl,rfl,rfl⟩
  | signIn =>
    rw [World.outside] at moved
    split at moved
    · cases moved
    · cases moved
      exact ⟨rfl,rfl,rfl,rfl,rfl,rfl⟩
  | revoke =>
    cases moved
    exact ⟨rfl,rfl,rfl,rfl,rfl,rfl⟩
  | grants =>
    cases moved
    exact ⟨rfl,rfl,rfl,rfl,rfl,rfl⟩

theorem rows_keep : (machine contract).Keeps First Announced RowsStay RowsLocal where
  begins world number call _ := by
    cases call with
    | approve call =>
      change ApprovingKnown world number call.site (call.begin_ contract)
      unfold Approve.begin_
      split
      · rename_i made
        exact change_spec contract made
      · trivial
    | withdraw => trivial
    | open_ => trivial
  drops _ _ _ := trivial
  stays world later number task _ stay known := known.stays stay
  resumes system number ending task later after first stored holds stepped := by
    have known := holds.tasks number task stored
    obtain ⟨announced,stay,_⟩ := turned_rows (resume_turned stepped) holds.world known
    refine ⟨announced,?_,stay⟩
    cases task with
    | approving call at_ =>
      obtain ⟨⟨_,_⟩,turn,same⟩ := Option.map_eq_some_iff.mp stepped
      cases same
      exact approve_known holds.world (fun done => first done _ stored) known turn
    | withdrawing call at_ =>
      obtain ⟨⟨_,_⟩,turn,same⟩ := Option.map_eq_some_iff.mp stepped
      cases same
      exact withdraw_known holds.world known turn
    | opening call at_ =>
      obtain ⟨_,_,same⟩ := Option.map_eq_some_iff.mp stepped
      cases same
      trivial
    | dropped =>
      cases stepped
      trivial
  outside world move later valid moved := by
    obtain ⟨approvals,hostnames,announcements,drawn,sites,holders⟩ := outside_quiet contract move moved
    refine ⟨valid.kept approvals hostnames announcements drawn.ge,
      fun other => ⟨drawn.ge,fun site mine => ?_,fun hostname mine => ?_⟩⟩
    · exact ⟨sites ▸ mine,by rw [approvals],by rw [announced_same announcements]⟩
    · exact ⟨holders ▸ mine,fun site there => hostnames ▸ there⟩

variable {contract}

/-- A step enqueues the event of the change that it makes, and no other. -/
theorem step_enqueued {s next : System} (holds : Tasks.Holds Announced RowsLocal s) (action : Action)
    (stepped : step contract s action = some next) (site : SiteId) : Enqueued s.world next.world site := by
  rcases Tasks.step_cases action stepped with ⟨number,call,rfl,_,rfl⟩ | ⟨number,ending,task,world,after,rfl,stored,turn,rfl⟩ |
    ⟨number,task,rfl,_,rfl⟩ | ⟨move,world,rfl,moved,rfl⟩
  · exact enqueued_same rfl rfl site
  · exact (turned_rows (resume_turned turn) holds.world (holds.tasks number task stored)).2.2 site
  · exact enqueued_same rfl rfl site
  · obtain ⟨approvals,_,announcements,_⟩ := outside_quiet contract move moved
    exact enqueued_same approvals announcements site

theorem Announced.hostname (announced : Announced world) (site other : SiteId) (row another : Approval)
    (stored : world.approvals site = some row) (beside : world.approvals other = some another)
    (approved : row.state = .approved) (also : another.state = .approved) (same : row.hostname = another.hostname) : site = other := by
  have first := (announced.indexed row.hostname site).mpr ⟨row,stored,approved,rfl⟩
  have second := (announced.indexed row.hostname other).mpr ⟨another,beside,also,same.symm⟩
  exact Option.some.inj (first.symm.trans second)

theorem initial_announced : Tasks.Holds Announced RowsLocal initial := by
  refine ⟨⟨fun _ => List.isChain_nil,fun _ => rfl,fun _ => .nil,?_,?_⟩,?_⟩
  · intro announcement member
    cases member
  · intro hostname site
    constructor
    · intro there
      cases there
    · rintro ⟨row,stored,_⟩
      cases stored
  · intro number task there
    cases there

/-- While no two first approvals of a site with one digest store their rows, the events of a site and its stored approval agree. -/
theorem approvals_announced (contract : SiteContract) (actions : List Action)
    (first : StateMachine.Along (step contract) First initial actions) :
    StateMachine.Throughout (step contract) (Announces contract) initial actions := by
  refine (rows_keep contract).throughout (fun s holds => ?_) actions first initial_announced
  exact ⟨holds.world,holds.world.hostname,fun action next stepped site => step_enqueued holds action stepped site⟩

/-- A site is approved twice with one digest and withdrawn; another one with its hostname is then approved. -/
def approvedInTurn : List Action :=
  sampleTurns 0 (.approve (sampleApprove (hours 1) "notes" "notes.example")) 4 ++
    sampleTurns 1 (.approve (sampleApprove (hours 2) "notes" "notes.example")) 2 ++
    sampleTurns 2 (.withdraw (sampleCaller (hours 3) "notes")) 5 ++
    sampleTurns 3 (.approve (sampleApprove (hours 4) "diary" "notes.example")) 4

theorem approvals_announced_in_turn :
    StateMachine.Throughout (step sampleContract) (Announces sampleContract) initial approvedInTurn ∧
    ((StateMachine.run (step sampleContract) initial approvedInTurn).map fun s =>
      s.world.announcements.map fun announcement => (announcement.payload.siteId,announcement.payload.state)) =
      some [("notes",.approved),("notes",.withdrawn),("diary",.approved)] :=
  ⟨approvals_announced sampleContract approvedInTurn (by decide +kernel),by decide +kernel⟩

/-- Two first approvals of a site both find no row. -/
def approvedTwice : List Action :=
  sampleTurns 0 (.approve (sampleApprove (hours 1) "notes" "notes.example")) 1 ++
    sampleTurns 1 (.approve (sampleApprove (hours 1) "notes" "notes.example")) 1 ++
    List.replicate 3 (.resume 0 .done) ++ List.replicate 3 (.resume 1 .done)

theorem approval_announced_twice : ∃ s, StateMachine.run (step sampleContract) initial approvedTwice = some s ∧ Settled s ∧
    (s.world.announced "notes").map (fun announcement => announcement.payload.mark) =
      [(sampleManifest,.approved),(sampleManifest,.approved)] := by
  have ran : ((StateMachine.run (step sampleContract) initial approvedTwice).map fun s =>
      (([0,1].all fun number => (s.tasks number).all Task.settled),
        (s.world.announced "notes").map (fun announcement => announcement.payload.mark))) =
      some (true,[(sampleManifest,.approved),(sampleManifest,.approved)]) := by
    decide +kernel
  obtain ⟨s,ran,same⟩ := Option.map_eq_some_iff.mp ran
  obtain ⟨settled,marks⟩ := Prod.mk.inj same
  exact ⟨s,ran,settled_of_run [0,1] (by decide) ran settled,marks⟩

end Routes

end Ratatoskr.Sites
