import Ratatoskr.PublicApi.OwnerStreams

/-! An owner connection streams only between checks that found its session live, and ends soon after a revocation. -/
namespace Ratatoskr.PublicApi.SiteStream

open Identity (Session)
open Sites (siteAudience)
open StateMachine

section Received

variable {τ γ : Type} {s next : Fanout τ γ} {c : γ}

theorem received_of_phase {connection : Connection} (found : s.connections c = some connection) :
    s.receivedCount c = connection.phase.received := by
  rw [Fanout.receivedCount,found]
  rfl

variable [DecidableEq γ]

/-- The frames an action hands out to a connection -/
def Action.handsOut : Action τ γ → γ → Nat
  | .take c, other => if other = c then 1 else 0
  | _, _ => 0

theorem received_setPhase (connection : Connection) (phase : Phase) (other : γ) :
    (s.setPhase c connection phase).receivedCount other = if other = c then phase.received else s.receivedCount other := by
  simp only [Fanout.receivedCount,Fanout.setPhase,Function.update_apply]
  split <;> rfl

/-- An open phase that starts to be another one, with as many frames -/
theorem received_moved {connection : Connection} {phase : Phase} (found : s.connections c = some connection)
    (same : phase.received = connection.phase.received) (other : γ) :
    (s.setPhase c connection phase).receivedCount other = s.receivedCount other := by
  rw [received_setPhase]
  split
  · rename_i here
    rw [here,same,received_of_phase found]
  · rfl

theorem received_connect {action : Action τ γ} (stepped : s.connect action = some next) (other : γ) :
    next.receivedCount other = s.receivedCount other := by
  cases action with
  | admission c site client lastEventId limits =>
    unfold Fanout.connect at stepped
    dsimp only at stepped
    split at stepped
    · cases stepped
    rename_i fresh
    have none_ : s.connections c = none := by simpa using fresh
    obtain rfl := Option.some.inj stepped
    show (if _ then s.setPhase c _ .admitted else s).receivedCount other = _
    split
    · rw [received_setPhase]
      split
      · rename_i here
        rw [here,Fanout.receivedCount,none_]
        rfl
      · rfl
    · rfl
  | subscribe c =>
    unfold Fanout.connect at stepped
    dsimp only at stepped
    split at stepped
    · rename_i connection found
      split at stepped
      · rename_i phase
        obtain rfl := Option.some.inj stepped
        exact received_moved found (by rw [phase]; rfl) other
      · cases stepped
    · cases stepped
  | resume c =>
    unfold Fanout.connect at stepped
    dsimp only at stepped
    split at stepped
    · rename_i connection found
      split at stepped
      · rename_i phase _
        obtain rfl := Option.some.inj stepped
        exact received_moved found (by rw [phase]; rfl) other
      · rename_i phase _
        split at stepped
        · obtain rfl := Option.some.inj stepped
          exact received_moved found (by rw [phase]; rfl) other
        · obtain rfl := Option.some.inj stepped
          exact received_moved found (by rw [phase]; rfl) other
      · cases stepped
    · cases stepped
  | resync c =>
    unfold Fanout.connect at stepped
    dsimp only at stepped
    split at stepped
    · rename_i connection found
      split at stepped
      · rename_i phase
        obtain rfl := Option.some.inj stepped
        exact received_moved found (by rw [phase]; rfl) other
      · cases stepped
    · cases stepped
  | _ => cases stepped

theorem received_turn {connection : Connection} {reader onward : Reader} {action : Action τ γ} (on : action.on = some c)
    (turned : s.turn connection reader action = some onward) :
    onward.received.length = reader.received.length + action.handsOut c := by
  unfold Fanout.turn at turned
  split at turned
  · split at turned
    · obtain rfl := Option.some.inj turned
      obtain rfl := Option.some.inj on
      simp [Action.handsOut]
    · cases turned
  · split at turned
    · cases turned
    · obtain rfl := Option.some.inj turned
      unfold Reader.fill Reader.resync
      split <;> rfl
  · split at turned
    · obtain rfl := Option.some.inj turned
      rfl
    · cases turned
  · split at turned
    · obtain rfl := Option.some.inj turned
      rfl
    · cases turned
  · cases turned

theorem received_follow {action : Action τ γ} (on : action.on = some c) (stepped : s.follow c action = some next) (other : γ) :
    next.receivedCount other = s.receivedCount other + if other = c then action.handsOut c else 0 := by
  unfold Fanout.follow at stepped
  split at stepped
  · rename_i connection found
    split at stepped
    · rename_i reader phase
      obtain ⟨onward,turned,rfl⟩ := Option.map_eq_some_iff.mp stepped
      rw [received_setPhase]
      split
      · rename_i here
        rw [here,received_of_phase found,phase]
        exact received_turn on turned
      · rfl
    · cases stepped
  · cases stepped

variable [DecidableEq τ]

/-- Only `take` hands out a frame, one to its own connection; closing one leaves the others. -/
theorem received_step {action : Action τ γ} (stepped : s.step action = some next) (other : γ) (stays : action ≠ .close other) :
    next.receivedCount other = s.receivedCount other + action.handsOut other := by
  have delivered (done : s.deliver action = some next) : next.receivedCount other = s.receivedCount other := by
    rw [Fanout.receivedCount,(deliver_counts done).1]
    rfl
  have connected (done : s.connect action = some next) : next.receivedCount other = s.receivedCount other :=
    received_connect done other
  cases action with
  | admission c site client lastEventId limits => exact connected stepped
  | subscribe c => exact connected stepped
  | resume c => exact connected stepped
  | resync c => exact connected stepped
  | take c =>
    rw [received_follow rfl stepped]
    simp [Action.handsOut]
  | fill c =>
    rw [received_follow rfl stepped]
    simp [Action.handsOut]
  | wake c =>
    rw [received_follow rfl stepped]
    simp [Action.handsOut]
  | tick c =>
    rw [received_follow rfl stepped]
    simp [Action.handsOut]
  | close c =>
    have different : other ≠ c := fun same => stays (congrArg _ same.symm)
    have closed : s.close c = some next := stepped
    unfold Fanout.close at closed
    split at closed
    · split at closed
      · cases closed
      · obtain rfl := Option.some.inj closed
        show (s.setPhase c _ .closed).receivedCount other = _
        rw [received_setPhase,if_neg different]
        rfl
    · cases closed
  | begin_ t messageId => exact delivered stepped
  | stage t site event occurredAt now => exact delivered stepped
  | finish t committed => exact delivered stepped
  | settle t now => exact delivered stepped
  | push t => exact delivered stepped

/-- An action of another connection -/
theorem received_apart {action : Action τ γ} {other : γ} (apart : action.on ≠ some other) (stepped : s.step action = some next) :
    next.receivedCount other = s.receivedCount other := by
  have none_ : action.handsOut other = 0 := by
    cases action with
    | take c => exact if_neg fun same => apart (congrArg some same.symm)
    | _ => rfl
  rw [received_step stepped other (by rintro rfl; exact apart rfl),none_,add_zero]

end Received

section Following

variable {checkEvery : Nat}

/-- What is known of a connection from its place -/
def Place.Sound (checkEvery now : Nat) (owner : Owner) : Place → Prop
  | .starting watch | .top watch | .asking watch _ | .waiting watch _ => watch.nextCheck = owner.sighting.since + checkEvery
  | .answered watch asked seen row => watch.nextCheck = owner.sighting.since + checkEvery ∧ seen ≤ now ∧
      ∀ found ∈ row, isLive found owner.token owner.site asked = true
  | .cleared watch instant wall => watch.nextCheck = owner.sighting.since + checkEvery ∧ owner.sighting.since ≤ instant ∧
      instant ≤ owner.sighting.since + checkEvery ∧ instant ≤ now ∧ (wall < watch.endsAt ∨ instant = owner.sighting.since)
  | .believed | .found _ | .admitted _ | .ended => True

variable {τ γ : Type} {s next : Timed τ γ} {c : γ} {owner : Owner}

structure Watching (checkEvery : Nat) (s : Timed τ γ) (c : γ) (owner : Owner) : Prop where
  live : isLive owner.sighting.row owner.token owner.site owner.sighting.wall = true
  seen : owner.sighting.seen ≤ owner.sighting.since
  since : owner.sighting.since ≤ s.now
  placed : owner.place.Sound checkEvery s.now owner
  stamps : ∀ stamp ∈ owner.stamps, Covered checkEvery owner.token owner.site stamp
  past : ∀ stamp ∈ owner.stamps, stamp.instant ≤ s.now
  counted : owner.place = .ended ∨ owner.stamps.length = s.fan.receivedCount c

theorem Place.Sound.later {place : Place} {now later : Nat} (placed : place.Sound checkEvery now owner) (onward : now ≤ later) :
    place.Sound checkEvery later owner := by
  cases place with
  | answered => exact ⟨placed.1,placed.2.1.trans onward,placed.2.2⟩
  | cleared => exact ⟨placed.1,placed.2.1,placed.2.2.1,placed.2.2.2.1.trans onward,placed.2.2.2.2⟩
  | _ => exact placed

/-- A connection that takes no part in a step -/
theorem Watching.later (kept : Watching checkEvery s c owner) (onward : s.now ≤ next.now)
    (count : next.fan.receivedCount c = s.fan.receivedCount c) : Watching checkEvery next c owner :=
  ⟨kept.live,kept.seen,kept.since.trans onward,kept.placed.later onward,kept.stamps,
    fun stamp member => (kept.past stamp member).trans onward,count ▸ kept.counted⟩

/-- One that only moves to another place -/
theorem Watching.replaced (kept : Watching checkEvery s c owner) (alive : owner.place ≠ .ended) {place : Place}
    (placed : place.Sound checkEvery s.now owner) (next : Timed τ γ) (now : next.now = s.now)
    (count : next.fan.receivedCount c = s.fan.receivedCount c) : Watching checkEvery next c { owner with place := place } where
  live := kept.live
  seen := kept.seen
  since := now ▸ kept.since
  placed := by
    rw [now]
    cases place <;> exact placed
  stamps := kept.stamps
  past := now ▸ kept.past
  counted := Or.inr (count ▸ kept.counted.resolve_left alive)

/-- What a step of its own changes of a connection: its place, with what a check answered, what its sighting is, or one
stamp more. -/
inductive Turned (now : Nat) (session : Option Session) (owner : Owner) : Owner → Prop where
  | placed (place : Place) (silent : ∀ watch asked seen row, place ≠ .answered watch asked seen (some row)) :
      Turned now session owner { owner with place := place }
  | asked (watch : OwnerWatch) (asked : Timestamp) (row : Session) (found : session = some row)
      (live : isLive row owner.token owner.site asked = true) :
      Turned now session owner { owner with place := .answered watch asked now (some row) }
  | subscribed (watch : OwnerWatch) :
      Turned now session owner { owner with place := .starting watch, sighting := { owner.sighting with since := now } }
  | sighted (watch later : OwnerWatch) (asked wall : Timestamp) (seen : Nat) (row : Session)
      (was : owner.place = .answered watch asked seen (some row)) :
      Turned now session owner { owner with place := .cleared later now wall, sighting := ⟨row,asked,seen,now⟩ }
  | handed (watch : OwnerWatch) (instant : Nat) (wall : Timestamp) :
      Turned now session owner { owner with
        place := .top watch
        stamps := owner.stamps ++ [⟨owner.sighting,instant,wall,watch.endsAt⟩] }

/-- Where a step of its own takes a connection -/
structure Moves [DecidableEq τ] [DecidableEq γ] (checkEvery : Nat) (s next : Timed τ γ) (c : γ) (owner : Owner)
    (action : OwnerAction τ γ) (moved : Owner) : Prop where
  owners : next.owners = Function.update s.owners c (some moved)
  now : next.now = s.now
  sessions : next.sessions = s.sessions
  revoked : next.revoked = s.revoked
  fan : next.fan = s.fan ∨ ∃ action : Action τ γ, action.on = some c ∧ s.fan.step action = some next.fan
  turned : Turned s.now (s.sessions owner.token) owner moved
  prompt : ∀ latency, owner.isPrompt latency s.now action = true → owner.sighting.since ≤ owner.sighting.seen + latency →
    moved.sighting.since ≤ moved.sighting.seen + latency
  watching : Watching checkEvery next c moved

variable [DecidableEq τ] [DecidableEq γ] {taken : OwnerAction τ γ}

theorem moved_eq_some {action : Action τ γ} {onward : Fanout τ γ → Owner} :
    s.moved c action onward = some next ↔
      ∃ fan, s.fan.step action = some fan ∧ { s.setOwner c (onward fan) with fan := fan } = next := by
  rw [Timed.moved,Option.map_eq_some_iff]

/-- A step of the stream after which the connection is in another place -/
theorem Watching.stepped (kept : Watching checkEvery s c owner) (alive : owner.place ≠ .ended) (action : Action τ γ)
    (on : action.on = some c) (stays : action ≠ .close c) (none_ : action.handsOut c = 0) (place : Fanout τ γ → Place)
    (silent : ∀ fan watch asked seen row, place fan ≠ .answered watch asked seen (some row))
    (placed : ∀ fan, (place fan).Sound checkEvery s.now owner)
    (stepped : s.moved c action (fun fan => { owner with place := place fan }) = some next) :
    ∃ moved, Moves checkEvery s next c owner taken moved := by
  obtain ⟨fan,done,rfl⟩ := moved_eq_some.mp stepped
  have count : fan.receivedCount c = s.fan.receivedCount c := by rw [received_step done c stays,none_,add_zero]
  exact ⟨_,rfl,rfl,rfl,rfl,Or.inr ⟨action,on,done⟩,.placed (place fan) (silent fan),fun _ _ same => same,kept.replaced alive (placed fan) _ rfl count⟩

/-- A step that is none of the stream -/
theorem Watching.set (kept : Watching checkEvery s c owner) (alive : owner.place ≠ .ended) (place : Place)
    (turned : Turned s.now (s.sessions owner.token) owner { owner with place := place })
    (placed : place.Sound checkEvery s.now owner) :
    ∃ moved, Moves checkEvery s (s.setOwner c { owner with place := place }) c owner taken moved := by
  exact ⟨_,rfl,rfl,rfl,rfl,Or.inl rfl,turned,fun _ _ same => same,kept.replaced alive placed _ rfl rfl⟩

/-- The loop has ended, or the client went away. -/
theorem Watching.closed (kept : Watching checkEvery s c owner)
    (stepped : s.moved c (.close c) (fun _ => { owner with place := .ended }) = some next) :
    ∃ moved, Moves checkEvery s next c owner taken moved := by
  obtain ⟨fan,done,rfl⟩ := moved_eq_some.mp stepped
  exact ⟨_,rfl,rfl,rfl,rfl,Or.inr ⟨_,rfl,done⟩,
    .placed .ended (fun _ _ _ _ => nofun),fun _ _ same => same,kept.live,kept.seen,kept.since,trivial,kept.stamps,kept.past,Or.inl rfl⟩

theorem due_le_nextCheck (watch : OwnerWatch) (now : Nat) (wall : Timestamp) : watch.due now wall ≤ watch.nextCheck :=
  Nat.min_le_left _ _

/-- A check that is not due leaves the connection before the end of its session. -/
theorem before_end {watch : OwnerWatch} {now : Nat} {wall : Timestamp} (early : now < watch.due now wall) :
    now < watch.nextCheck ∧ wall < watch.endsAt := by
  rw [OwnerWatch.due,Nat.lt_min] at early
  have left : 0 < (watch.endsAt - wall).toNat := by omega
  exact ⟨early.1,Int.sub_pos.mp (Int.pos_iff_toNat_pos.mpr left)⟩

theorem Watching.follow (kept : Watching checkEvery s c owner)
    (stepped : s.follow checkEvery c owner taken = some next) : ∃ moved, Moves checkEvery s next c owner taken moved := by
  have placed := kept.placed
  unfold Timed.follow at stepped
  split at stepped
  · rename_i place
    split at stepped
    · rename_i row found
      obtain rfl := Option.some.inj stepped
      exact kept.set (by rw [place]; exact nofun) _ (.placed _ fun _ _ _ _ => nofun) trivial
    · cases stepped
  · rename_i endsAt _ lastEventId limits place
    refine kept.stepped (by rw [place]; exact nofun) (.admission c owner.site none lastEventId limits) rfl nofun rfl _ ?_ ?_ stepped
    · intro fan _ _ _ _
      split <;> exact nofun
    · intro fan
      split <;> trivial
  · rename_i endsAt _ place
    obtain ⟨fan,done,rfl⟩ := moved_eq_some.mp stepped
    have count : fan.receivedCount c = s.fan.receivedCount c := by rw [received_step done c nofun]; rfl
    have alive : owner.place ≠ .ended := by rw [place]; exact nofun
    exact ⟨_,rfl,rfl,rfl,rfl,Or.inr ⟨_,rfl,done⟩,.subscribed _,fun _ prompt _ => of_decide_eq_true prompt,kept.live,kept.seen.trans kept.since,le_rfl,rfl,kept.stamps,
      kept.past,      Or.inr (count ▸ kept.counted.resolve_left alive)⟩
  · rename_i watch _ place
    rw [place] at placed
    refine kept.stepped (by rw [place]; exact nofun) (.resume c) rfl nofun rfl _ ?_ ?_ stepped
    · intro fan _ _ _ _
      split <;> exact nofun
    · intro fan
      split <;> exact placed
  · rename_i watch _ place
    rw [place] at placed
    exact kept.stepped (by rw [place]; exact nofun) (.resync c) rfl nofun rfl (fun _ => .top watch) (fun _ _ _ _ _ => nofun) (fun _ => placed) stepped
  · rename_i watch _ place
    rw [place] at placed
    obtain rfl := Option.some.inj stepped
    refine kept.set (by rw [place]; exact nofun) _ (.placed _ fun _ _ _ _ => ?_) ?_
    · split <;> exact nofun
    · split
      · rename_i early
        obtain ⟨inside,before⟩ := before_end early
        have interval : watch.nextCheck = owner.sighting.since + checkEvery := placed
        exact ⟨placed,kept.since,interval ▸ inside.le,le_rfl,Or.inl before⟩
      · exact placed
  · rename_i watch asked _ failed place
    rw [place] at placed
    obtain rfl := Option.some.inj stepped
    have alive : owner.place ≠ .ended := by rw [place]; exact nofun
    cases answer : (if failed then none else (s.sessions owner.token).filter (isLive · owner.token owner.site asked)) with
    | none => exact kept.set alive _ (.placed _ fun _ _ _ _ => nofun) ⟨placed,le_rfl,nofun⟩
    | some row =>
      have found : failed = false := by
        cases failed with
        | false => rfl
        | true => cases answer
      rw [found,if_neg Bool.false_ne_true,Option.filter_eq_some_iff] at answer
      refine kept.set alive _ (.asked watch asked row answer.1 answer.2) ⟨placed,le_rfl,?_⟩
      rintro _ ⟨⟩
      exact answer.2
  · rename_i watch asked seen row _ place
    rw [place] at placed
    obtain rfl := Option.some.inj stepped
    have alive : owner.place ≠ .ended := by rw [place]; exact nofun
    exact ⟨_,rfl,rfl,rfl,rfl,Or.inl rfl,.sighted watch _ asked s.wall seen row place,
      fun _ prompt _ => by simpa [Owner.isPrompt,place] using prompt,
      placed.2.2 row rfl,placed.2.1,le_rfl,⟨rfl,le_rfl,Nat.le_add_right _ _,le_rfl,Or.inr rfl⟩,kept.stamps,kept.past,
      Or.inr (kept.counted.resolve_left alive)⟩
  · exact kept.closed stepped
  · rename_i watch instant wall _ place
    rw [place] at placed
    obtain ⟨fan,done,rfl⟩ := moved_eq_some.mp stepped
    have alive : owner.place ≠ .ended := by rw [place]; exact nofun
    obtain ⟨interval,after,within,past,ending⟩ := placed
    refine ⟨_,rfl,rfl,rfl,rfl,Or.inr ⟨_,rfl,done⟩,.handed watch instant wall,fun _ _ same => same,kept.live,kept.seen,kept.since,interval,?_,?_,Or.inr ?_⟩
    · intro stamp member
      rcases List.mem_append.mp member with earlier | last
      · exact kept.stamps stamp earlier
      · obtain rfl := List.mem_singleton.mp last
        exact ⟨kept.live,kept.seen,after,within,ending⟩
    · intro stamp member
      rcases List.mem_append.mp member with earlier | last
      · exact kept.past stamp earlier
      · obtain rfl := List.mem_singleton.mp last
        exact past
    · have one : fan.receivedCount c = s.fan.receivedCount c + 1 := by
        rw [received_step done c nofun]
        simp [Action.handsOut]
      rw [List.length_append,kept.counted.resolve_left alive]
      exact one.symm
  · rename_i watch _ _ _ place
    rw [place] at placed
    refine kept.stepped (by rw [place]; exact nofun) (.fill c) rfl nofun rfl _ ?_ ?_ stepped
    · intro fan _ _ _ _
      split <;> exact nofun
    · intro fan
      split <;> exact placed.1
  · rename_i watch _ _ place
    rw [place] at placed
    exact kept.stepped (by rw [place]; exact nofun) (.wake c) rfl nofun rfl (fun _ => .top watch) (fun _ _ _ _ _ => nofun)
      (fun _ => placed) stepped
  · rename_i watch due _ place
    rw [place] at placed
    split at stepped
    · exact kept.stepped (by rw [place]; exact nofun) (.tick c) rfl nofun rfl (fun _ => .top watch) (fun _ _ _ _ _ => nofun)
        (fun _ => placed) stepped
    · cases stepped
  · exact kept.closed stepped
  · cases stepped

end Following

section System

variable {τ γ : Type} {checkEvery : Nat} {s next : Timed τ γ} {action : OwnerAction τ γ}

theorem apart_of_other {other : Action τ γ} {c : γ} {owner : Owner} (allowed : s.isOther other = true)
    (found : s.owners c = some owner) : other.on ≠ some c := by
  intro on
  have vacant := (Bool.and_eq_true_iff.mp allowed).1
  rw [on,Option.all_some,found] at vacant
  cases vacant

theorem owners_setOwner [DecidableEq γ] (c : γ) (owner : Owner) (other : γ) :
    (s.setOwner c owner).owners other = if other = c then some owner else s.owners other := by
  rw [← Function.update_apply]
  rfl

variable [DecidableEq τ] [DecidableEq γ]

/-- What every state keeps: each owner connection is one that watches, and the row of a revoked digest is a revoked one. -/
structure Guarded (checkEvery : Nat) (uuid : Nat) (s : Timed τ γ) : Prop where
  watching : ∀ c owner, s.owners c = some owner → Watching checkEvery s c owner
  barred : ∀ token, s.revoked token = true → (s.sessions token).all (·.revokedAt.isSome) = true
  refines : ∃ actions, run Fanout.step (.initial uuid) actions = some s.fan

theorem isLive_unrevoked {row : Session} {token : Digest} {site : SiteId} {now : Timestamp} (live : isLive row token site now = true) :
    row.revokedAt = none := by
  simp only [isLive,Session.authenticates,Bool.and_eq_true,Option.isNone_iff_eq_none] at live
  exact live.1.1.1.2

/-- No session of a revoked digest is found live. -/
theorem Guarded.refuses {uuid : Nat} (guarded : Guarded checkEvery uuid s) {token : Digest} {row : Session} {site : SiteId}
    {now : Timestamp} (found : s.sessions token = some row) (live : isLive row token site now = true) : s.revoked token = false := by
  by_contra revoked
  have closed := guarded.barred token (by simpa using revoked)
  rw [found,Option.all_some,isLive_unrevoked live] at closed
  cases closed

/-- A step that is not of an owner connection -/
inductive Outside (s : Timed τ γ) : Timed τ γ → Prop where
  | fan (action : Action τ γ) (fan : Fanout τ γ) (other : s.isOther action = true) (stepped : s.fan.step action = some fan) :
      Outside s { s with fan := fan }
  | elapsed (duration : Nat) (wall : Timestamp) : Outside s { s with now := s.now + duration, wall := wall }
  | changed (token : Digest) (row : Option Session) (kept : s.revoked token = true → row.all (·.revokedAt.isSome) = true) :
      Outside s { s with
        sessions := Function.update s.sessions token row
        revoked := Function.update s.revoked token (s.revoked token || row.any (·.revokedAt.isSome)) }
  | believed (c : γ) (token : Digest) (site : SiteId) (row : Session) (fresh : s.owners c = none)
      (unused : s.fan.connections c = none) (found : s.sessions token = some row) (live : isLive row token site s.wall = true) :
      Outside s (s.setOwner c ⟨token,site,⟨row,s.wall,s.now,s.now⟩,.believed,[]⟩)

theorem outside_of_step (stepped : s.outside action = some next) : Outside s next := by
  unfold Timed.outside at stepped
  split at stepped
  · split at stepped
    · rename_i other
      obtain ⟨fan,done,rfl⟩ := Option.map_eq_some_iff.mp stepped
      exact .fan _ fan other done
    · cases stepped
  · obtain rfl := Option.some.inj stepped
    exact .elapsed _ _
  · split at stepped
    · cases stepped
    · rename_i kept
      obtain rfl := Option.some.inj stepped
      exact .changed _ _ fun revoked => by simpa [revoked] using kept
  · split at stepped
    · rename_i fresh unused found
      split at stepped
      · rename_i live
        obtain rfl := Option.some.inj stepped
        exact .believed _ _ _ _ fresh unused found live
      · cases stepped
    · cases stepped
  · cases stepped

/-- What a step is: one outside, or one of a connection. -/
theorem Guarded.cases {uuid : Nat} (guarded : Guarded checkEvery uuid s) (stepped : s.step checkEvery action = some next) :
    Outside s next ∨ ∃ c owner moved, action.on = some c ∧ s.owners c = some owner ∧
      Moves checkEvery s next c owner action moved := by
  unfold Timed.step at stepped
  split at stepped
  · rename_i c on
    obtain ⟨owner,found,followed⟩ := Option.bind_eq_some_iff.mp stepped
    obtain ⟨moved,moves⟩ := (guarded.watching c owner found).follow followed
    exact Or.inr ⟨c,owner,moved,on,found,moves⟩
  · exact Or.inl (outside_of_step stepped)

theorem initial_guarded (uuid : Nat) : Guarded checkEvery uuid (.initial uuid : Timed τ γ) :=
  ⟨fun _ _ => nofun,fun _ _ => rfl,[],rfl⟩

theorem Guarded.outside {uuid : Nat} (guarded : Guarded checkEvery uuid s) (outside : Outside s next) :
    Guarded checkEvery uuid next := by
  cases outside with
  | fan action fan other stepped =>
    refine ⟨fun c owner found => ?_,guarded.barred,?_⟩
    · exact (guarded.watching c owner found).later le_rfl (received_apart (apart_of_other other found) stepped)
    · obtain ⟨actions,ran⟩ := guarded.refines
      exact ⟨actions ++ [action],(run_append_eq_some _ _ _ _ _).mpr ⟨_,ran,(run_cons_eq_some _ _ _ _ _).mpr ⟨_,stepped,rfl⟩⟩⟩
  | elapsed duration wall =>
    exact ⟨fun c owner found => (guarded.watching c owner found).later (Nat.le_add_right _ _) rfl,guarded.barred,guarded.refines⟩
  | changed token row kept =>
    refine ⟨fun c owner found => (guarded.watching c owner found).later le_rfl rfl,fun other revoked => ?_,guarded.refines⟩
    dsimp only at revoked ⊢
    rw [Function.update_apply] at revoked ⊢
    split at revoked
    · rename_i same
      rw [if_pos same]
      rcases Bool.or_eq_true_iff.mp revoked with before | now
      · exact kept before
      · cases row with
        | none => cases now
        | some row => exact now
    · rename_i different
      rw [if_neg different]
      exact guarded.barred other revoked
  | believed c token site row fresh unused found live =>
    refine ⟨fun other owner known => ?_,guarded.barred,guarded.refines⟩
    rw [owners_setOwner] at known
    split at known
    · rename_i same
      obtain rfl := Option.some.inj known
      subst same
      refine ⟨live,le_rfl,le_rfl,trivial,by rintro _ ⟨⟩,by rintro _ ⟨⟩,Or.inr ?_⟩
      show 0 = s.fan.receivedCount other
      rw [Fanout.receivedCount,unused]
      rfl
    · exact (guarded.watching other owner known).later le_rfl rfl

theorem Guarded.moves {uuid : Nat} (guarded : Guarded checkEvery uuid s) {c : γ} {owner moved : Owner}
    (moves : Moves checkEvery s next c owner action moved) : Guarded checkEvery uuid next := by
  refine ⟨fun other known found => ?_,fun token revoked => ?_,?_⟩
  · rw [moves.owners,Function.update_apply] at found
    split at found
    · rename_i same
      obtain rfl := Option.some.inj found
      exact same ▸ moves.watching
    · rename_i different
      refine (guarded.watching other known found).later moves.now.ge ?_
      rcases moves.fan with same | ⟨action,on,stepped⟩
      · rw [same]
      · exact received_apart (by rw [on]; exact fun same => different (Option.some.inj same).symm) stepped
  · rw [moves.revoked] at revoked
    rw [moves.sessions]
    exact guarded.barred token revoked
  · obtain ⟨actions,ran⟩ := guarded.refines
    rcases moves.fan with same | ⟨action,_,stepped⟩
    · exact ⟨actions,same ▸ ran⟩
    · exact ⟨actions ++ [action],(run_append_eq_some _ _ _ _ _).mpr ⟨_,ran,(run_cons_eq_some _ _ _ _ _).mpr ⟨_,stepped,rfl⟩⟩⟩

theorem Guarded.step {uuid : Nat} (guarded : Guarded checkEvery uuid s) (stepped : s.step checkEvery action = some next) :
    Guarded checkEvery uuid next := by
  rcases guarded.cases stepped with outside | ⟨c,owner,moved,_,_,moves⟩
  · exact guarded.outside outside
  · exact guarded.moves moves

/-- Every check was concluded in time. -/
def Punctual (latency : Nat) (s : Timed τ γ) : Prop := ∀ c owner, s.owners c = some owner →
  owner.sighting.since ≤ owner.sighting.seen + latency ∧
    ∀ stamp ∈ owner.stamps, stamp.sighting.since ≤ stamp.sighting.seen + latency

theorem Punctual.step {uuid latency : Nat} (punctual : Punctual latency s) (guarded : Guarded checkEvery uuid s)
    (prompt : Prompt latency s action) (stepped : s.step checkEvery action = some next) : Punctual latency next := by
  rcases guarded.cases stepped with outside | ⟨c,owner,moved,on,found,moves⟩
  · cases outside with
    | fan => exact punctual
    | elapsed => exact punctual
    | changed => exact punctual
    | believed c token site row =>
      intro other owner known
      rw [owners_setOwner] at known
      split at known
      · obtain rfl := Option.some.inj known
        exact ⟨Nat.le_add_right _ _,by rintro _ ⟨⟩⟩
      · exact punctual other owner known
  · intro other known present
    rw [moves.owners,Function.update_apply] at present
    split at present
    · obtain rfl := Option.some.inj present
      obtain ⟨before,stamps⟩ := punctual c owner found
      rw [Prompt,on,Option.bind_some,found] at prompt
      refine ⟨moves.prompt latency prompt before,?_⟩
      cases moves.turned with
      | handed watch instant wall =>
        intro stamp member
        rcases List.mem_append.mp member with earlier | last
        · exact stamps stamp earlier
        · obtain rfl := List.mem_singleton.mp last
          exact before
      | _ => exact stamps
    · exact punctual other known present

/-- No check after this instant has found a session of the digest. -/
structure Spent (token : Digest) (bound : Nat) (s : Timed τ γ) : Prop where
  revoked : s.revoked token = true
  sighted : ∀ c owner, s.owners c = some owner → owner.token = token → owner.sighting.seen ≤ bound
  answered : ∀ c owner, s.owners c = some owner → owner.token = token → ∀ watch asked seen row,
    owner.place = .answered watch asked seen (some row) → seen ≤ bound
  stamps : ∀ c owner, s.owners c = some owner → owner.token = token → ∀ stamp ∈ owner.stamps, stamp.sighting.seen ≤ bound

/-- All that was found so far was found before now. -/
theorem Guarded.spent {uuid : Nat} (guarded : Guarded checkEvery uuid s) {token : Digest} (revoked : s.revoked token = true) :
    Spent token s.now s := by
  refine ⟨revoked,fun c owner found _ => ?_,fun c owner found _ watch asked seen row place => ?_,fun c owner found _ stamp member => ?_⟩
  · have kept := guarded.watching c owner found
    exact kept.seen.trans kept.since
  · have placed := (guarded.watching c owner found).placed
    rw [place] at placed
    exact placed.2.1
  · have kept := guarded.watching c owner found
    have covered := kept.stamps stamp member
    exact (covered.seen.trans covered.since).trans (kept.past stamp member)

theorem Spent.outside {uuid : Nat} {token : Digest} {bound : Nat} (spent : Spent token bound s)
    (guarded : Guarded checkEvery uuid s) (outside : Outside s next) : Spent token bound next := by
  cases outside with
  | fan => exact ⟨spent.revoked,spent.sighted,spent.answered,spent.stamps⟩
  | elapsed => exact ⟨spent.revoked,spent.sighted,spent.answered,spent.stamps⟩
  | changed other row =>
    refine ⟨?_,spent.sighted,spent.answered,spent.stamps⟩
    dsimp only
    rw [Function.update_apply]
    split
    · rename_i same
      rw [← same,spent.revoked]
      rfl
    · exact spent.revoked
  | believed c held site row fresh unused found live =>
    have other : held ≠ token := by
      rintro rfl
      have refused := guarded.refuses found live
      rw [spent.revoked] at refused
      cases refused
    have elsewhere (c' : γ) (owner : Owner) (known : (s.setOwner c ⟨held,site,⟨row,s.wall,s.now,s.now⟩,.believed,[]⟩).owners c' = some owner)
        (same : owner.token = token) : s.owners c' = some owner := by
      rw [owners_setOwner] at known
      split at known
      · obtain rfl := Option.some.inj known
        exact absurd same other
      · exact known
    exact ⟨spent.revoked,fun c' owner known same => spent.sighted c' owner (elsewhere c' owner known same) same,
      fun c' owner known same => spent.answered c' owner (elsewhere c' owner known same) same,
      fun c' owner known same => spent.stamps c' owner (elsewhere c' owner known same) same⟩

theorem Turned.token {now : Nat} {session : Option Session} {owner moved : Owner} (turned : Turned now session owner moved) :
    moved.token = owner.token := by
  cases turned <;> rfl

theorem Spent.moves {uuid : Nat} {token : Digest} {bound : Nat} (spent : Spent token bound s) (guarded : Guarded checkEvery uuid s)
    {c : γ} {owner moved : Owner} (found : s.owners c = some owner) (moves : Moves checkEvery s next c owner action moved) :
    Spent token bound next := by
  have one (same : owner.token = token) : moved.sighting.seen ≤ bound ∧
      (∀ watch asked seen row, moved.place = .answered watch asked seen (some row) → seen ≤ bound) ∧
      ∀ stamp ∈ moved.stamps, stamp.sighting.seen ≤ bound := by
    have sighted := spent.sighted c owner found same
    have stamps := spent.stamps c owner found same
    cases moves.turned with
    | placed place silent => exact ⟨sighted,fun watch asked seen row place => absurd place (silent watch asked seen row),stamps⟩
    | asked watch asked row present live =>
      have refused := guarded.refuses present live
      rw [same,spent.revoked] at refused
      cases refused
    | subscribed => exact ⟨sighted,fun _ _ _ _ => nofun,stamps⟩
    | sighted watch later asked wall seen row was =>
      exact ⟨spent.answered c owner found same watch asked seen row was,fun _ _ _ _ => nofun,stamps⟩
    | handed watch instant wall =>
      refine ⟨sighted,fun _ _ _ _ => nofun,fun stamp member => ?_⟩
      rcases List.mem_append.mp member with earlier | last
      · exact stamps stamp earlier
      · obtain rfl := List.mem_singleton.mp last
        exact sighted
  have known (other : γ) (present : Owner) (at_ : next.owners other = some present) :
      present = moved ∨ s.owners other = some present := by
    rw [moves.owners,Function.update_apply] at at_
    split at at_
    · exact Or.inl (Option.some.inj at_).symm
    · exact Or.inr at_
  have token_ := moves.turned.token
  refine ⟨by rw [moves.revoked]; exact spent.revoked,?_,?_,?_⟩
  · intro other present at_ same
    rcases known other present at_ with rfl | before
    · exact (one (token_ ▸ same)).1
    · exact spent.sighted other present before same
  · intro other present at_ same
    rcases known other present at_ with rfl | before
    · exact (one (token_ ▸ same)).2.1
    · exact spent.answered other present before same
  · intro other present at_ same
    rcases known other present at_ with rfl | before
    · exact (one (token_ ▸ same)).2.2
    · exact spent.stamps other present before same

theorem Spent.step {uuid : Nat} {token : Digest} {bound : Nat} (spent : Spent token bound s) (guarded : Guarded checkEvery uuid s)
    (stepped : s.step checkEvery action = some next) : Spent token bound next := by
  rcases guarded.cases stepped with outside | ⟨c,owner,moved,_,found,moves⟩
  · exact spent.outside guarded outside
  · exact spent.moves guarded found moves

/-- The stream of an owner does what the stream does; each of its frames was handed out within the interval of a check that
found the session live, and none later than one interval, and the time of a check, after the session was revoked. -/
theorem owner_streams_end (uuid checkEvery latency : Nat) (before after : List (OwnerAction τ γ)) (first last : Timed τ γ)
    (reached : run (Timed.step checkEvery) (.initial uuid) before = some first)
    (onward : run (Timed.step checkEvery) first after = some last)
    (prompt : Along (Timed.step checkEvery) (Prompt latency) (.initial uuid) (before ++ after)) :
    (∃ actions, run Fanout.step (.initial uuid) actions = some last.fan) ∧
      ∀ c owner, last.owners c = some owner →
        (owner.place ≠ .ended → owner.stamps.length = last.fan.receivedCount c) ∧
        ∀ stamp ∈ owner.stamps, Covered checkEvery owner.token owner.site stamp ∧
          (first.revoked owner.token = true → stamp.instant ≤ first.now + latency + checkEvery) := by
  have whole : run (Timed.step checkEvery) (.initial uuid) (before ++ after) = some last :=
    (run_append_eq_some _ _ _ _ _).mpr ⟨first,reached,onward⟩
  have early : Guarded checkEvery uuid first := run_invariant _ (Guarded checkEvery uuid)
    (fun _ _ _ guarded stepped => guarded.step stepped) _ before first (initial_guarded uuid) reached
  have late : Guarded checkEvery uuid last ∧ Punctual latency last := along_invariant _
    (fun s => Guarded checkEvery uuid s ∧ Punctual latency s) (Prompt latency)
    (fun _ _ _ kept prompt stepped => ⟨kept.1.step stepped,kept.2.step kept.1 prompt stepped⟩) _ (before ++ after) last
    ⟨initial_guarded uuid,fun _ _ => nofun⟩ prompt whole
  refine ⟨late.1.refines,fun c owner found => ?_⟩
  have kept := late.1.watching c owner found
  refine ⟨kept.counted.resolve_left,fun stamp member => ⟨kept.stamps stamp member,fun revoked => ?_⟩⟩
  have spent : Guarded checkEvery uuid last ∧ Spent owner.token first.now last := run_invariant _
    (fun s => Guarded checkEvery uuid s ∧ Spent owner.token first.now s)
    (fun _ _ _ kept stepped => ⟨kept.1.step stepped,kept.2.step kept.1 stepped⟩) first after last
    ⟨early,early.spent revoked⟩ onward
  have seen := spent.2.stamps c owner found rfl stamp member
  have since := (late.2 c owner found).2 stamp member
  have within := (kept.stamps stamp member).within
  omega

/-- The session of an owner -/
def ownerRow (revokedAt : Option Int) : Session := ⟨1,.siteOwner,none,siteAudience "s",0,1000000,some 0,revokedAt,some 7⟩

/-- An owner is sent a release, -/
def sentOnce : List (OwnerAction Unit Unit) :=
  [.elsewhere 7 (some (ownerRow none)),.siteOwner () 7 "s",.findSession (),.stream () none .default,.subscribe (),.resume (),
    .stillLive (),.fill (),.other (.begin_ () 1),.other (.stage () "s" (.releasePublished 1 "") none 0),.other (.finish () true),
    .other (.settle () 0),.other (.push ()),.wake (),.stillLive (),.fill (),.stillLive (),.take (),
    .elsewhere 7 (some (ownerRow (some 0)))]

/-- and the stream ends with the first check after the revocation. -/
def endsThen : List (OwnerAction Unit Unit) := [.elapse 60 60,.stillLive (),.authenticate () false,.conclude ()]

theorem owner_streams_end_once : ∃ first last : Timed Unit Unit,
    run (Timed.step 60) (.initial 0) sentOnce = some first ∧ run (Timed.step 60) first endsThen = some last ∧
      first.revoked 7 = true ∧ (∃ owner, last.owners () = some owner ∧ owner.stamps.length = 1 ∧
        ∀ stamp ∈ owner.stamps, Covered 60 owner.token owner.site stamp ∧
          (first.revoked owner.token = true → stamp.instant ≤ first.now + 0 + 60)) := by
  have ran : (run (Timed.step 60) (.initial 0) (sentOnce ++ endsThen)).any (fun last =>
      (last.owners ()).any fun owner => owner.stamps.length == 1) = true := by decide +kernel
  have revoked : (run (Timed.step 60) (.initial 0) sentOnce).any (·.revoked 7) = true := by decide +kernel
  have prompt : Along (Timed.step 60) (Prompt 0) (.initial 0) (sentOnce ++ endsThen) := by decide +kernel
  cases whole : run (Timed.step 60) (.initial 0) (sentOnce ++ endsThen) with
  | none =>
    rw [whole] at ran
    cases ran
  | some last =>
    obtain ⟨first,reached,onward⟩ := (run_append_eq_some _ _ _ _ _).mp whole
    rw [whole,Option.any_some] at ran
    rw [reached,Option.any_some] at revoked
    cases found : last.owners () with
    | none =>
      rw [found] at ran
      cases ran
    | some owner =>
      rw [found,Option.any_some] at ran
      have covered := (owner_streams_end 0 60 0 sentOnce endsThen first last reached onward prompt).2 () owner found
      exact ⟨first,last,reached,onward,revoked,owner,found,beq_iff_eq.mp ran,covered.2⟩

end System

end Ratatoskr.PublicApi.SiteStream
