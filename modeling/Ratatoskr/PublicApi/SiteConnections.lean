import Ratatoskr.Lib.Run
import Ratatoskr.Lib.Tally
import Ratatoskr.PublicApi.SiteFollowers

/-! The bounds of the site event stream: what the hub counts are the connections that are open. -/
namespace Ratatoskr.PublicApi.SiteStream

open StateMachine
open Tally

section Counters

/-- A count of the hub: the anonymous connections of a site, those of one client, or those of owner sessions. -/
inductive Counter where
  | anonymous
  | client (name : String)
  | owner

/-- The count takes in a connection with this key. -/
def Counter.takes : Counter → Option String → Bool
  | .anonymous, key => key.isSome
  | .client name, key => key == some name
  | .owner, key => key.isNone

def Counter.value : Counter → SiteLog → Nat
  | .anonymous, log => log.anonymous
  | .client name, log => log.clients name
  | .owner, log => log.owners

def Counter.bound : Counter → SiteStreamLimits → Nat
  | .anonymous, limits => limits.perSite
  | .client _, limits => limits.perClient
  | .owner, limits => limits.perSiteOwner

def Phase.isOpen : Phase → Bool
  | .closed => false
  | _ => true

/-- An open connection of the site that the count takes in -/
def Connection.isIn (counter : Counter) (site : SiteId) (connection : Connection) : Bool :=
  connection.phase.isOpen && connection.site == site && counter.takes connection.client

variable {τ γ : Type}

/-- How many there are -/
noncomputable def Fanout.opened (s : Fanout τ γ) (site : SiteId) (counter : Counter) : ℕ∞ :=
  tally s.connections (·.isIn counter site)

/-- The sites that have a buffer -/
noncomputable def heldSites (hub : SiteEventHub) : ℕ∞ := tally hub.sites fun _ => true

/-- A connection is let in when there is room for its site, and below every bound that is its own. -/
def Fanout.HasRoom (s : Fanout τ γ) (limits : SiteStreamLimits) (site : SiteId) (client : Option String) : Prop :=
  ((s.hub.sites site).isSome = true ∨ heldSites s.hub < sitesMax) ∧
    ∀ counter, Counter.takes counter client = true → s.opened site counter < counter.bound limits

/-- What holds of the connections of every state. -/
structure Connected [DecidableEq τ] [DecidableEq γ] (limits : SiteStreamLimits) (s : Fanout τ γ) : Prop where
  sites : heldSites s.hub ≤ sitesMax
  counted : ∀ site counter, s.opened site counter = counter.value (s.hub.log site)
  bounded : ∀ site counter, s.opened site counter ≤ counter.bound limits
  /-- Every connection is answered, and it is let in exactly when there is room for it. -/
  answered : ∀ c site client lastEventId, s.connections c = none →
    ∃ next, s.step (.admission c site client lastEventId limits) = some next ∧
      ((next.connections c).isSome = true ↔ s.HasRoom limits site client)

/-- Every connection is opened under the limits of the process. -/
def Action.Uses (limits : SiteStreamLimits) : Action τ γ → Prop
  | .admission _ _ _ _ used => used = limits
  | _ => True

end Counters

section Hub

variable {hub : SiteEventHub} {site : SiteId} {limits : SiteStreamLimits}

theorem value_empty (counter : Counter) : counter.value .empty = 0 := by
  cases counter <;> rfl

theorem value_append (counter : Counter) (log : SiteLog) (event : SiteEvent) (instant now : Timestamp) :
    counter.value (log.append event instant now) = counter.value log := by
  cases counter <;> rfl

/-- A site that counts a connection has a buffer. -/
theorem isSome_of_value {counter : Counter} (some_ : 0 < counter.value (hub.log site)) : (hub.sites site).isSome = true := by
  cases found : hub.sites site with
  | some => rfl
  | none =>
    rw [SiteEventHub.log,found] at some_
    exact absurd (value_empty counter) some_.ne'

theorem room_of_not_full (room : ¬((hub.sites site).isNone && decide (sitesMax ≤ hub.size)) = true) :
    (hub.sites site).isSome = true ∨ hub.size < sitesMax := by
  cases known : hub.sites site with
  | some => exact Or.inl rfl
  | none =>
    rw [known] at room
    refine Or.inr (Nat.lt_of_not_le fun full => room ?_)
    simpa using full

/-- The number of the sites is right and within its bound. -/
structure Sized (hub : SiteEventHub) : Prop where
  held : heldSites hub = hub.size
  bounded : hub.size ≤ sitesMax

theorem Sized.put (sized : Sized hub) (room : (hub.sites site).isSome = true ∨ hub.size < sitesMax) (log : SiteLog) :
    Sized (hub.put site log) := by
  cases known : (hub.sites site).isSome with
  | true =>
    have same : (hub.put site log).size = hub.size := if_pos known
    refine ⟨?_,same ▸ sized.bounded⟩
    rw [same,← sized.held]
    obtain ⟨_,found⟩ := Option.isSome_iff_exists.mp known
    exact tally_update_same (by rw [found]; rfl)
  | false =>
    have one : (hub.put site log).size = hub.size + 1 := if_neg (by simp [known])
    refine ⟨?_,one ▸ room.resolve_left (by simp [known])⟩
    rw [one,Nat.cast_succ,← sized.held]
    exact tally_update_add (by rw [Option.any_true,known]) rfl

theorem Sized.push (sized : Sized hub) (staged : Staged) (now : Timestamp) : Sized (hub.push staged now) := by
  unfold SiteEventHub.push
  split
  · exact sized
  · split
    · exact sized
    · rename_i room
      exact sized.put (room_of_not_full room) _

/-- The counts of every site are the same. -/
def SameCounts (hub next : SiteEventHub) : Prop := ∀ site counter, Counter.value counter (next.log site) = Counter.value counter (hub.log site)

theorem sameCounts_put {log : SiteLog} (same : ∀ counter, Counter.value counter log = Counter.value counter (hub.log site)) :
    SameCounts hub (hub.put site log) := by
  intro other counter
  rw [log_put]
  split
  · rename_i here
    exact here ▸ same counter
  · rfl

theorem sameCounts_push (staged : Staged) (now : Timestamp) : SameCounts hub (hub.push staged now) := by
  rcases push_cases hub staged now with same | ⟨_,put⟩
  · rw [same]
    exact fun _ _ => rfl
  · rw [put]
    exact sameCounts_put fun counter => value_append counter _ _ _ _

/-- What one connection more does to the counts of its site. -/
structure Grown (hub next : SiteEventHub) (site : SiteId) (client : Option String) : Prop where
  here : ∀ counter, Counter.value counter (next.log site) = Counter.value counter (hub.log site) + if counter.takes client then 1 else 0
  others : ∀ other, other ≠ site → ∀ counter, Counter.value counter (next.log other) = Counter.value counter (hub.log other)

theorem grown_put {log : SiteLog} {client : Option String}
    (here : ∀ counter, Counter.value counter log = Counter.value counter (hub.log site) + if counter.takes client then 1 else 0) :
    Grown hub (hub.put site log) site client := by
  refine ⟨fun counter => ?_,fun other different counter => ?_⟩
  · rw [log_put,if_pos rfl]
    exact here counter
  · rw [log_put,if_neg different]

/-- What `admit` does -/
theorem admitted_cases (sized : Sized hub) (site : SiteId) (client : Option String) (limits : SiteStreamLimits) :
    ((admitted hub site client limits).2 = true ∧ ((hub.sites site).isSome = true ∨ hub.size < sitesMax) ∧
        (∀ counter, Counter.takes counter client = true → counter.value (hub.log site) < counter.bound limits) ∧
        Grown hub (admitted hub site client limits).1 site client ∧ Sized (admitted hub site client limits).1) ∨
      ((admitted hub site client limits).2 = false ∧ SameCounts hub (admitted hub site client limits).1 ∧
        Sized (admitted hub site client limits).1 ∧
        (((hub.sites site).isSome = false ∧ sitesMax ≤ hub.size) ∨
          ∃ counter, Counter.takes counter client = true ∧ counter.bound limits ≤ counter.value (hub.log site))) := by
  unfold admitted
  split
  · rename_i full
    rw [Bool.and_eq_true,Option.isNone_iff_eq_none,decide_eq_true_eq] at full
    exact Or.inr ⟨rfl,fun _ _ => rfl,sized,Or.inl ⟨by rw [full.1]; rfl,full.2⟩⟩
  rename_i vacant
  have room := room_of_not_full vacant
  cases client with
  | some client =>
    dsimp only
    split
    · rename_i full
      rw [Bool.or_eq_true,decide_eq_true_eq,decide_eq_true_eq] at full
      refine Or.inr ⟨rfl,sameCounts_put fun _ => rfl,sized.put room _,Or.inr ?_⟩
      rcases full with site | client
      · exact ⟨.anonymous,rfl,site⟩
      · exact ⟨.client _,beq_self_eq_true _,client⟩
    · rename_i below
      rw [Bool.or_eq_true,decide_eq_true_eq,decide_eq_true_eq,not_or,Nat.not_le,Nat.not_le] at below
      refine Or.inl ⟨rfl,room,fun counter takes => ?_,grown_put fun counter => ?_,sized.put room _⟩
      · cases counter with
        | anonymous => exact below.1
        | client name =>
          obtain rfl : client = name := Option.some.inj (beq_iff_eq.mp takes)
          exact below.2
        | owner => cases takes
      · cases counter with
        | anonymous => rfl
        | owner => rfl
        | client name =>
          simp only [Counter.value,Counter.takes,Function.update_apply,beq_iff_eq,Option.some.injEq,eq_comm (a := client)]
          split <;> simp [*]
  | none =>
    dsimp only
    split
    · rename_i full
      exact Or.inr ⟨rfl,sameCounts_put fun _ => rfl,sized.put room _,Or.inr ⟨.owner,rfl,full⟩⟩
    · rename_i below
      rw [Nat.not_le] at below
      refine Or.inl ⟨rfl,room,fun counter takes => ?_,grown_put fun counter => ?_,sized.put room _⟩
      · cases counter with
        | anonymous => cases takes
        | client => cases takes
        | owner => exact below
      · cases counter <;> rfl

/-- Dropping an open connection takes it from the counts. -/
theorem released_grown {client : Option String} (counts : ∀ counter, Counter.takes counter client = true → 0 < counter.value (hub.log site)) :
    Grown (released hub site client) hub site client := by
  have known : (hub.sites site).isSome = true := by
    cases client with
    | some client => exact isSome_of_value (counts .anonymous rfl)
    | none => exact isSome_of_value (counts .owner rfl)
  obtain ⟨log,found⟩ := Option.isSome_iff_exists.mp known
  have own : hub.log site = log := by rw [SiteEventHub.log,found]; rfl
  rw [own] at counts
  have put (left : SiteLog) (less : ∀ counter, Counter.value counter log = Counter.value counter left +
      if counter.takes client then 1 else 0) : Grown (hub.put site left) hub site client := by
    refine ⟨fun counter => ?_,fun other different counter => ?_⟩
    · rw [log_put,if_pos rfl,own]
      exact less counter
    · rw [log_put,if_neg different]
  unfold released
  rw [found]
  cases client with
  | some client =>
    refine put _ fun counter => ?_
    have site_ := counts .anonymous rfl
    have own_ := counts (.client client) (beq_self_eq_true _)
    cases counter with
    | anonymous => exact (Nat.sub_add_cancel site_).symm
    | owner => rfl
    | client name =>
      simp only [Counter.value,Counter.takes,Function.update_apply,beq_iff_eq,Option.some.injEq] at own_ ⊢
      by_cases same : name = client
      · subst same
        simpa using (Nat.sub_add_cancel own_).symm
      · simp [same,Ne.symm same]
  | none =>
    refine put _ fun counter => ?_
    have owner := counts .owner rfl
    cases counter with
    | owner => exact (Nat.sub_add_cancel owner).symm
    | anonymous => rfl
    | client => rfl

theorem released_sized (sized : Sized hub) {client : Option String} : Sized (released hub site client) := by
  unfold released
  split
  · exact sized
  · rename_i known
    exact sized.put (Or.inl (by rw [known]; rfl)) _
  · rename_i known
    exact sized.put (Or.inl (by rw [known]; rfl)) _

end Hub

section Runs

variable {τ γ : Type} {limits : SiteStreamLimits} {s next : Fanout τ γ} {c : γ}

structure Tallied (limits : SiteStreamLimits) (s : Fanout τ γ) : Prop where
  sized : Sized s.hub
  counted : ∀ site counter, s.opened site counter = counter.value (s.hub.log site)
  bounded : ∀ site counter, Counter.value counter (s.hub.log site) ≤ counter.bound limits

theorem isIn_of_ne {connection : Connection} {site : SiteId} {counter : Counter} (different : connection.site ≠ site) :
    connection.isIn counter site = false := by
  rw [Connection.isIn,beq_false_of_ne different,Bool.and_false,Bool.false_and]

theorem initial_tallied (uuid : Nat) : Tallied limits (Fanout.initial uuid : Fanout τ γ) where
  sized := ⟨tally_empty _,Nat.zero_le _⟩
  counted _ counter := (tally_empty _).trans (by rw [show (Fanout.initial uuid : Fanout τ γ).hub.log _ = .empty from rfl,value_empty]; rfl)
  bounded _ counter := (value_empty counter).le.trans (Nat.zero_le _)

/-- A delivery opens and closes no connection. -/
theorem deliver_counts [DecidableEq τ] {action : Action τ γ} (stepped : s.deliver action = some next) :
    next.connections = s.connections ∧ SameCounts s.hub next.hub ∧ (Sized s.hub → Sized next.hub) := by
  unfold Fanout.deliver at stepped
  split at stepped
  · split at stepped
    · cases stepped
      exact ⟨rfl,fun _ _ => rfl,id⟩
    · cases stepped
  · split at stepped
    · cases stepped
      exact ⟨rfl,fun _ _ => rfl,fun sized => ⟨sized.held,sized.bounded⟩⟩
    · cases stepped
  · split at stepped
    · cases stepped
      exact ⟨rfl,fun _ _ => rfl,id⟩
    · cases stepped
  · split at stepped
    · cases stepped
      exact ⟨rfl,fun _ _ => rfl,fun sized => ⟨sized.held,sized.bounded⟩⟩
    · cases stepped
  · split at stepped
    · cases stepped
      exact ⟨rfl,fun _ _ => rfl,id⟩
    · cases stepped
      exact ⟨rfl,sameCounts_push _ _,fun sized => sized.push _ _⟩
    · cases stepped
  · cases stepped

theorem Tallied.recounted (tallied : Tallied limits s) (same : SameCounts s.hub next.hub) (sized : Sized next.hub)
    (opened : ∀ site counter, next.opened site counter = s.opened site counter) : Tallied limits next where
  sized := sized
  counted site counter := by rw [opened,tallied.counted,same]
  bounded site counter := by
    rw [same]
    exact tallied.bounded site counter

variable {connection : Connection} {phase : Phase}

/-- The site of an open connection has a buffer, and every count of the connection has it. -/
theorem Tallied.counts (tallied : Tallied limits s) (found : s.connections c = some connection)
    (opened : connection.phase.isOpen = true) (counter : Counter) (takes : counter.takes connection.client = true) :
    0 < counter.value (s.hub.log connection.site) := by
  have one : (s.connections c).any (·.isIn counter connection.site) = true := by
    rw [found]
    simp [Connection.isIn,opened,takes]
  have some_ : 0 < s.opened connection.site counter := tally_pos one
  rw [tallied.counted] at some_
  exact_mod_cast some_

theorem Tallied.known (tallied : Tallied limits s) (found : s.connections c = some connection)
    (opened : connection.phase.isOpen = true) : (s.hub.sites connection.site).isSome = true := by
  cases client : connection.client with
  | none => exact isSome_of_value (tallied.counts found opened .owner (by rw [client]; rfl))
  | some => exact isSome_of_value (tallied.counts found opened .anonymous (by rw [client]; rfl))

theorem Tallied.deliver [DecidableEq τ] (tallied : Tallied limits s) {action : Action τ γ} (stepped : s.deliver action = some next) :
    Tallied limits next := by
  obtain ⟨connections,same,sized⟩ := deliver_counts stepped
  exact tallied.recounted same (sized tallied.sized) fun site counter => by rw [Fanout.opened,connections,Fanout.opened]

variable [DecidableEq γ]

/-- A connection that stays open counts as before. -/
theorem opened_setPhase (found : s.connections c = some connection) (same : phase.isOpen = connection.phase.isOpen)
    (site : SiteId) (counter : Counter) : (s.setPhase c connection phase).opened site counter = s.opened site counter := by
  refine tally_update_same ?_
  rw [found]
  simp only [Option.any_some,Connection.isIn,same]

theorem Tallied.moved (tallied : Tallied limits s) (found : s.connections c = some connection)
    (same : phase.isOpen = connection.phase.isOpen) : Tallied limits (s.setPhase c connection phase) :=
  tallied.recounted (fun _ _ => rfl) tallied.sized (opened_setPhase found same)

theorem Tallied.admission (tallied : Tallied limits s) {site : SiteId} {client : Option String} {lastEventId : Option (List Char)}
    (stepped : s.connect (.admission c site client lastEventId limits) = some next) : Tallied limits next := by
  unfold Fanout.connect at stepped
  dsimp only at stepped
  split at stepped
  · cases stepped
  rename_i fresh
  have none_ : s.connections c = none := by simpa using fresh
  obtain rfl := Option.some.inj stepped
  rcases admitted_cases tallied.sized site client limits with ⟨room,_,below,grown,sized⟩ | ⟨refused,same,sized,_⟩
  · rw [if_pos room]
    refine ⟨sized,fun other counter => ?_,fun other counter => ?_⟩
    · by_cases here : other = site
      · subst here
        show _ = ((counter.value ((admitted s.hub other client limits).1.log other) : Nat) : ℕ∞)
        rw [grown.here counter,Nat.cast_add,← tallied.counted]
        cases takes : counter.takes client with
        | true => exact tally_update_add (by rw [none_]; rfl) (by simp [Connection.isIn,Phase.isOpen,takes])
        | false =>
          rw [if_neg Bool.false_ne_true,Nat.cast_zero,add_zero]
          exact tally_update_same (by rw [none_]; simp [Connection.isIn,takes])
      · show _ = ((counter.value ((admitted s.hub site client limits).1.log other) : Nat) : ℕ∞)
        rw [grown.others other here,← tallied.counted]
        exact tally_update_same (by rw [none_,Option.any_some,isIn_of_ne (Ne.symm here)]; rfl)
    · show counter.value ((admitted s.hub site client limits).1.log other) ≤ _
      by_cases here : other = site
      · subst here
        rw [grown.here counter]
        split
        · rename_i takes
          exact below counter takes
        · exact tallied.bounded other counter
      · rw [grown.others other here]
        exact tallied.bounded other counter
  · rw [if_neg (by simp [refused])]
    exact tallied.recounted same sized fun _ _ => rfl

theorem Tallied.close (tallied : Tallied limits s) (stepped : s.close c = some next) : Tallied limits next := by
  unfold Fanout.close at stepped
  split at stepped
  · rename_i connection found
    split at stepped
    · cases stepped
    · rename_i alive
      obtain rfl := Option.some.inj stepped
      have opened : connection.phase.isOpen = true := by
        cases phase : connection.phase with
        | closed => exact absurd phase alive
        | _ => rfl
      have grown := released_grown (tallied.counts found opened)
      have sized : Sized (released s.hub connection.site connection.client) := released_sized tallied.sized
      refine ⟨sized,fun other counter => ?_,fun other counter => ?_⟩
      · show _ = ((counter.value ((released s.hub connection.site connection.client).log other) : Nat) : ℕ∞)
        by_cases here : other = connection.site
        · subst here
          have counted := tallied.counted connection.site counter
          rw [grown.here counter] at counted
          cases takes : counter.takes connection.client with
          | true =>
            have fewer : (s.setPhase c connection .closed).opened connection.site counter + 1 = s.opened connection.site counter :=
              tally_update_sub (by rw [found]; simp [Connection.isIn,opened,takes]) rfl
            rw [counted,takes,if_pos rfl,Nat.cast_succ] at fewer
            exact ENat.add_left_injective_of_ne_top ENat.one_ne_top fewer
          | false =>
            rw [takes,if_neg Bool.false_ne_true] at counted
            exact (tally_update_same (by rw [found]; simp [Connection.isIn,takes,Phase.isOpen])).trans counted
        · rw [← grown.others other here,← tallied.counted]
          refine tally_update_same ?_
          rw [found,Option.any_some,Option.any_some,isIn_of_ne (Ne.symm here)]
          rfl
      · refine le_trans ?_ (tallied.bounded other counter)
        show counter.value ((released s.hub connection.site connection.client).log other) ≤ _
        by_cases here : other = connection.site
        · subst here
          rw [grown.here counter]
          exact Nat.le_add_right _ _
        · exact (grown.others other here counter).ge
  · cases stepped

theorem Tallied.connect [DecidableEq τ] (tallied : Tallied limits s) {action : Action τ γ} (uses : action.Uses limits)
    (stepped : s.connect action = some next) : Tallied limits next := by
  cases action with
  | admission c site client lastEventId used =>
    obtain rfl : used = limits := uses
    exact tallied.admission stepped
  | subscribe c =>
    unfold Fanout.connect at stepped
    dsimp only at stepped
    split at stepped
    · rename_i connection found
      split at stepped
      · rename_i phase
        obtain rfl := Option.some.inj stepped
        have moved := tallied.moved found (show Phase.isOpen (.subscribed (s.hub.log connection.site).wake) = _ by rw [phase]; rfl)
        exact moved.recounted (sameCounts_put fun _ => rfl)
          (tallied.sized.put (Or.inl (tallied.known found (by rw [phase]; rfl))) _) fun _ _ => rfl
      · cases stepped
    · cases stepped
  | resume c =>
    unfold Fanout.connect at stepped
    dsimp only at stepped
    split at stepped
    · rename_i connection found
      split at stepped
      · rename_i phase _
        obtain rfl := Option.some.inj stepped
        exact tallied.moved found (by rw [phase]; rfl)
      · rename_i phase _
        split at stepped
        · obtain rfl := Option.some.inj stepped
          exact tallied.moved found (by rw [phase]; rfl)
        · obtain rfl := Option.some.inj stepped
          exact tallied.moved found (by rw [phase]; rfl)
      · cases stepped
    · cases stepped
  | resync c =>
    unfold Fanout.connect at stepped
    dsimp only at stepped
    split at stepped
    · rename_i connection found
      split at stepped
      · rename_i phase
        obtain rfl := Option.some.inj stepped
        exact tallied.moved found (by rw [phase]; rfl)
      · cases stepped
    · cases stepped
  | _ => cases stepped

theorem Tallied.follow (tallied : Tallied limits s) {action : Action τ γ} (stepped : s.follow c action = some next) :
    Tallied limits next := by
  unfold Fanout.follow at stepped
  split at stepped
  · rename_i connection found
    split at stepped
    · rename_i reader phase
      obtain ⟨moved,_,rfl⟩ := Option.map_eq_some_iff.mp stepped
      exact tallied.moved found (by rw [phase]; rfl)
    · cases stepped
  · cases stepped

variable [DecidableEq τ]

theorem Tallied.step (tallied : Tallied limits s) {action : Action τ γ} (uses : action.Uses limits)
    (stepped : s.step action = some next) : Tallied limits next := by
  cases action with
  | admission => exact tallied.connect uses stepped
  | subscribe => exact tallied.connect uses stepped
  | resume => exact tallied.connect uses stepped
  | resync => exact tallied.connect uses stepped
  | take => exact tallied.follow stepped
  | fill => exact tallied.follow stepped
  | wake => exact tallied.follow stepped
  | tick => exact tallied.follow stepped
  | close => exact tallied.close stepped
  | begin_ t messageId => exact tallied.deliver (show s.deliver (.begin_ t messageId) = some next from stepped)
  | stage t site event occurredAt now =>
    exact tallied.deliver (show s.deliver (.stage t site event occurredAt now) = some next from stepped)
  | finish t committed => exact tallied.deliver (show s.deliver (.finish t committed) = some next from stepped)
  | settle t now => exact tallied.deliver (show s.deliver (.settle t now) = some next from stepped)
  | push t => exact tallied.deliver (show s.deliver (.push t) = some next from stepped)

theorem Tallied.answered (tallied : Tallied limits s) {site : SiteId} {client : Option String} {lastEventId : Option (List Char)}
    (fresh : s.connections c = none) : ∃ next, s.step (.admission c site client lastEventId limits) = some next ∧
      ((next.connections c).isSome = true ↔ s.HasRoom limits site client) := by
  have vacant : heldSites s.hub < sitesMax ↔ s.hub.size < sitesMax := by
    rw [tallied.sized.held]
    exact Nat.cast_lt
  have below (counter : Counter) : s.opened site counter < counter.bound limits ↔
      counter.value (s.hub.log site) < counter.bound limits := by
    rw [tallied.counted]
    exact Nat.cast_lt
  simp only [Fanout.HasRoom,vacant,below]
  let opening : Connection := ⟨site,client,lastEventId,.admitted⟩
  let given := admitted s.hub site client limits
  have stepped : s.step (.admission c site client lastEventId limits) =
      some { (if given.2 then s.setPhase c opening .admitted else s) with hub := given.1 } := if_neg (by simp [fresh])
  refine ⟨_,stepped,?_⟩
  show (((if given.2 then s.setPhase c opening .admitted else s).connections c).isSome = true ↔ _)
  rcases admitted_cases tallied.sized site client limits with ⟨room,vacancy,under,_⟩ | ⟨refused,_,_,reason⟩
  · rw [if_pos room]
    refine ⟨fun _ => ⟨vacancy,under⟩,fun _ => ?_⟩
    exact congrArg Option.isSome (Function.update_self c _ s.connections)
  · rw [if_neg (show ¬given.2 = true by rw [refused]; exact Bool.false_ne_true)]
    refine ⟨fun held => ?_,fun ⟨vacancy,under⟩ => ?_⟩
    · rw [fresh] at held
      cases held
    · rcases reason with ⟨unknown,full⟩ | ⟨counter,takes,reached⟩
      · rcases vacancy with known | vacancy
        · rw [known] at unknown
          cases unknown
        · exact absurd vacancy (Nat.not_lt.mpr full)
      · exact absurd (under counter takes) (Nat.not_lt.mpr reached)

/-- What the hub counts are the open connections, whatever came and went, and none is refused for want of room that there is. -/
theorem connections_counted (uuid : Nat) (limits : SiteStreamLimits) (actions : List (Action τ γ))
    (uniform : ∀ action ∈ actions, action.Uses limits) (s : Fanout τ γ)
    (ran : run Fanout.step (.initial uuid) actions = some s) : Connected limits s := by
  have uses : Along Fanout.step (fun _ action => action.Uses limits) (.initial uuid : Fanout τ γ) actions :=
    along_of_forall Fanout.step _ _ actions fun _ action member => uniform action member
  have tallied : Tallied limits s := along_invariant Fanout.step (Tallied limits) (fun _ action => action.Uses limits)
    (fun _ _ _ tallied uses stepped => tallied.step uses stepped) _ actions s (initial_tallied uuid) uses ran
  refine ⟨?_,tallied.counted,fun site counter => ?_,fun c site client lastEventId fresh => tallied.answered fresh⟩
  · rw [tallied.sized.held]
    exact_mod_cast tallied.sized.bounded
  · rw [tallied.counted]
    exact_mod_cast tallied.bounded site counter

/-- Two clients of one site, of which one goes away -/
def comingAndGoing : List (Action Unit Bool) :=
  [.admission false "s" (some "a") none .default,.admission true "s" (some "b") none .default,.close false]

theorem connections_counted_coming_and_going : ∃ s : Fanout Unit Bool,
    run Fanout.step (.initial 0) comingAndGoing = some s ∧ Connected .default s := by
  have ran : (run Fanout.step (.initial 0) comingAndGoing).isSome = true := by decide +kernel
  obtain ⟨s,reached⟩ := Option.isSome_iff_exists.mp ran
  exact ⟨s,reached,connections_counted 0 .default comingAndGoing (by simp [comingAndGoing,Action.Uses]) s reached⟩

end Runs

end Ratatoskr.PublicApi.SiteStream
