import Mathlib.Tactic.ByContra
import Ratatoskr.PublicApi.SiteStreams

/-! Every connection is sent what its cursor passes, while no two deliveries hold events under one message id. -/
set_option linter.unusedSectionVars false

namespace Ratatoskr.PublicApi.SiteStream

section Hub

variable (hub : SiteEventHub) (site : SiteId)

theorem last_eq : hub.last site = (hub.log site).last := by
  rw [SiteEventHub.last,SiteEventHub.log]
  cases hub.sites site <;> rfl

theorem read_eq (cursor : Nat) (owner : Bool) : hub.read site cursor owner = (hub.log site).read cursor owner := by
  rw [SiteEventHub.read,SiteEventHub.log]
  cases hub.sites site with
  | none => simp [SiteLog.read,SiteLog.hasLost,SiteLog.visible,SiteLog.empty]
  | some => rfl

theorem log_put (log : SiteLog) (other : SiteId) :
    (hub.put site log).log other = if other = site then log else hub.log other := by
  simp only [SiteEventHub.log,SiteEventHub.put,Function.update_apply]
  split <;> rfl

/-- An event is appended to the buffer of its site, unless it is too old or its site is one too many. -/
theorem push_cases (staged : Staged) (now : Timestamp) : hub.push staged now = hub ∨
    ¬staged.instant < now - windowAge ∧
      hub.push staged now = hub.put staged.site ((hub.log staged.site).append staged.event staged.instant now) := by
  unfold SiteEventHub.push
  split
  · exact Or.inl rfl
  · rename_i recent
    split
    · exact Or.inl rfl
    · exact Or.inr ⟨recent,rfl⟩

/-- The events and the wakes of the hubs are the same. -/
structure SameEvents (hub next : SiteEventHub) : Prop where
  epoch : next.epoch = hub.epoch
  staged : next.staged = hub.staged
  last : ∀ site, (next.log site).last = (hub.log site).last
  events : ∀ site, (next.log site).events = (hub.log site).events
  wake : ∀ site, (next.log site).wake = (hub.log site).wake

theorem SameEvents.refl : SameEvents hub hub := ⟨rfl,rfl,fun _ => rfl,fun _ => rfl,fun _ => rfl⟩

/-- The counts of connections are no events. -/
theorem sameEvents_put {log : SiteLog} (last : log.last = (hub.log site).last) (events : log.events = (hub.log site).events)
    (wake : log.wake = (hub.log site).wake) : SameEvents hub (hub.put site log) := by
  refine ⟨rfl,rfl,?_,?_,?_⟩ <;> intro other <;> rw [log_put] <;> split <;> simp only [*]

theorem sameEvents_admitted (client : Option String) (limits : SiteStreamLimits) :
    SameEvents hub (admitted hub site client limits).1 := by
  unfold admitted
  split
  · exact .refl hub
  · cases client with
    | none => simp only; split <;> exact sameEvents_put hub site rfl rfl rfl
    | some => simp only; split <;> exact sameEvents_put hub site rfl rfl rfl

theorem sameEvents_released (client : Option String) : SameEvents hub (released hub site client) := by
  unfold released
  cases found : hub.sites site with
  | none => exact .refl hub
  | some log =>
    have own : hub.log site = log := by rw [SiteEventHub.log,found]; rfl
    cases client with
    | none => apply sameEvents_put <;> rw [own]
    | some => apply sameEvents_put <;> rw [own]

end Hub

section Buffers

open SiteLog

theorem trim_suffix (now : Timestamp) (events : List Stored) : trim now events <:+ events := by
  induction events with
  | nil => exact List.suffix_rfl
  | cons oldest rest ih =>
    rw [trim]
    split
    · exact ih.trans (List.suffix_cons _ _)
    · exact List.suffix_rfl

theorem trim_bounded (now : Timestamp) (events : List Stored) : (trim now events).length ≤ windowEvents := by
  induction events with
  | nil => exact Nat.zero_le _
  | cons oldest rest ih =>
    rw [trim]
    split
    · exact ih
    · rename_i kept
      simp only [Bool.or_eq_true,decide_eq_true_eq,not_or] at kept
      omega

/-- An event that is not past the window stays in the buffer that it is appended to. -/
theorem trim_ne_nil (now : Timestamp) (events : List Stored) {stored : Stored} (recent : ¬stored.instant < now - windowAge) :
    trim now (events ++ [stored]) ≠ [] := by
  induction events with
  | nil =>
    rw [List.nil_append,trim,if_neg]
    · exact List.cons_ne_nil _ _
    · simp [recent,windowEvents]
  | cons oldest rest ih =>
    rw [List.cons_append,trim]
    split
    · exact ih
    · exact List.cons_ne_nil _ _

/-- The events at the end of a history have the last of its sequences. -/
theorem contiguous_suffix {events history : List Stored} (suffix : events <:+ history)
    (sequences : history.map Stored.sequence = List.range' 1 history.length) :
    events.map Stored.sequence = List.range' (history.length + 1 - events.length) events.length := by
  obtain ⟨before,rfl⟩ := suffix
  have shifted : before.length + events.length + 1 - events.length = 1 + before.length := by omega
  rw [List.map_append,List.length_append,← List.range'_append_1] at sequences
  rw [List.length_append,shifted]
  exact (List.append_inj sequences (by simp)).2

variable {log : SiteLog} {history : List Stored}

theorem buffered_empty : Buffered .empty [] := ⟨rfl,rfl,rfl,List.suffix_rfl,rfl,Nat.zero_le _,fun some_ => some_⟩

theorem Buffered.append (buffered : Buffered log history) (event : SiteEvent) {instant now : Timestamp}
    (recent : ¬instant < now - windowAge) :
    Buffered (log.append event instant now) (history ++ [⟨log.last + 1,instant,event⟩]) := by
  have last : log.last + 1 = (history ++ [(⟨log.last + 1,instant,event⟩ : Stored)]).length := by
    rw [List.length_append,List.length_singleton,buffered.last]
  have sequences : (history ++ [(⟨log.last + 1,instant,event⟩ : Stored)]).map Stored.sequence =
      List.range' 1 (history ++ [(⟨log.last + 1,instant,event⟩ : Stored)]).length := by
    rw [← last,List.range'_concat,List.map_append,buffered.sequences,buffered.last]
    simp [Nat.add_comm]
  have suffix : trim now (log.events ++ [⟨log.last + 1,instant,event⟩]) <:+ history ++ [⟨log.last + 1,instant,event⟩] := by
    obtain ⟨before,joined⟩ := buffered.suffix
    refine (trim_suffix now _).trans ⟨before,?_⟩
    rw [← List.append_assoc,joined]
  have contiguous := contiguous_suffix suffix sequences
  rw [← last] at contiguous
  exact ⟨last,congrArg (· + 1) buffered.wake,sequences,suffix,contiguous,trim_bounded now _,fun _ => trim_ne_nil now _ recent⟩

/-- The events that have left a buffer come before those that it holds. -/
theorem Buffered.gone_iff (buffered : Buffered log history) (sequence : Nat) :
    0 < sequence ∧ sequence ≤ log.last ∧ (∀ stored ∈ log.events, stored.sequence ≠ sequence) ↔
      0 < sequence ∧ sequence + log.events.length ≤ log.last := by
  have short := buffered.suffix.length_le
  have held : (∀ stored ∈ log.events, stored.sequence ≠ sequence) ↔ sequence ∉ log.events.map Stored.sequence := by
    simp only [List.mem_map,not_exists,not_and,ne_eq]
  rw [held,buffered.contiguous,List.mem_range'_1,buffered.last] at *
  omega

theorem lost_iff {hub : SiteEventHub} {site : SiteId} (buffered : Buffered (hub.log site) history) (sequence : Nat) :
    Lost hub site sequence ↔ 0 < sequence ∧ sequence + (hub.log site).events.length ≤ (hub.log site).last := by
  rw [Lost,last_eq]
  exact buffered.gone_iff sequence

theorem Buffered.hasLost_iff (buffered : Buffered log history) (cursor : Nat) :
    log.hasLost cursor = true ↔ cursor + 1 + log.events.length ≤ log.last := by
  have numbered := buffered.contiguous
  have some_ := buffered.nonempty
  have last := buffered.last
  rw [hasLost]
  cases events : log.events with
  | nil =>
    have none_ : history = [] := Decidable.not_not.mp fun more => some_ more events
    rw [none_] at last
    simp [last]
  | cons oldest rest =>
    rw [events,List.map_cons,List.length_cons,List.range'_succ] at numbered
    have first := (List.cons.inj numbered).1
    simp only [List.head?_cons,Option.any_some,Bool.and_eq_true,decide_eq_true_eq,List.length_cons]
    omega

/-- What is left of a history after a cursor that has not lost an event is in the buffer. -/
theorem Buffered.visible_eq (buffered : Buffered log history) {cursor : Nat} (owner : Bool)
    (kept : ¬log.hasLost cursor = true) :
    (log.visible cursor owner).map (fun entry => ⟨entry.1,entry.2⟩) = between history owner cursor log.last := by
  rw [buffered.hasLost_iff] at kept
  obtain ⟨before,joined⟩ := buffered.suffix
  have length := congrArg List.length joined
  have sequences := buffered.sequences
  rw [List.length_append,← buffered.last] at length
  rw [← joined,List.map_append,List.length_append,← List.range'_append_1] at sequences
  have earlier := (List.append_inj sequences (by simp)).1
  have gone : (before.filter fun stored => cursor < stored.sequence && stored.sequence ≤ log.last) = [] := by
    rw [List.filter_eq_nil_iff]
    intro stored member
    have listed := List.mem_map_of_mem (f := Stored.sequence) member
    rw [earlier,List.mem_range'_1] at listed
    simp only [Bool.and_eq_true,decide_eq_true_eq]
    omega
  have held : (log.events.filter fun stored => cursor < stored.sequence && stored.sequence ≤ log.last) =
      log.events.filter fun stored => cursor < stored.sequence := by
    refine List.filter_congr fun stored member => ?_
    have listed := List.mem_map_of_mem (f := Stored.sequence) member
    rw [buffered.contiguous,List.mem_range'_1] at listed
    have bounded : stored.sequence ≤ log.last := by omega
    simp [bounded]
  rw [between,← joined,List.filter_append,gone,List.nil_append,held,visible,List.map_map]
  rfl

end Buffers

section Trails

variable {history : List Stored} {lost : Nat → Prop} {owner : Bool} {start cursor : Nat} {sent : List Frame}

theorem between_grown {more : List Stored} {first last : Nat} (new : ∀ stored ∈ more, last < stored.sequence) :
    between (history ++ more) owner first last = between history owner first last := by
  have none_ : (more.filter fun stored => first < stored.sequence && stored.sequence ≤ last) = [] := by
    rw [List.filter_eq_nil_iff]
    intro stored member
    have := new stored member
    simp only [Bool.and_eq_true,decide_eq_true_eq]
    omega
  rw [between,List.filter_append,none_,List.append_nil,between]

/-- What was sent does not change when later events come. -/
theorem Trail.grown {more : List Stored} {bound : Nat} {later : Nat → Prop} (trail : Trail history lost owner start sent cursor)
    (new : ∀ stored ∈ more, bound < stored.sequence) (stays : ∀ sequence, lost sequence → later sequence)
    (bounded : cursor ≤ bound) : Trail (history ++ more) later owner start sent cursor := by
  induction trail with
  | start => exact .start
  | events before onward ih =>
    rw [← between_grown fun stored member => Nat.lt_of_le_of_lt bounded (new stored member)]
    exact .events (ih (Nat.le_trans onward bounded)) onward
  | resync before onward gone ih => exact .resync (ih (by omega)) onward (stays _ gone)

/-- Nothing is sent to a caller that it may not see. -/
theorem between_visible {first last : Nat} {frame : Frame} (anonymous : owner = false)
    (member : frame ∈ between history owner first last) : frame.event.isRelease = true := by
  obtain ⟨stored,listed,rfl⟩ := List.mem_map.mp member
  simpa [anonymous] using (List.mem_filter.mp listed).2

theorem Trail.anonymous (trail : Trail history lost owner start sent cursor) (anonymous : owner = false) :
    ∀ frame ∈ sent, frame.event.isRelease = true ∨ frame.event = .resync := by
  induction trail with
  | start => exact fun _ member => by cases member
  | events before onward ih =>
    intro frame member
    rcases List.mem_append.mp member with earlier | own
    · exact ih frame earlier
    · exact Or.inl (between_visible anonymous own)
  | resync before onward gone ih =>
    intro frame member
    rcases List.mem_append.mp member with earlier | own
    · exact ih frame earlier
    · exact Or.inr (by rw [List.mem_singleton.mp own])

end Trails

section Following

/-- A site keeps what it had: the hub only appends to it, and drops from the front. -/
structure Onward (hub next : SiteEventHub) (history later : List Stored) (site : SiteId) : Prop where
  last : hub.last site ≤ next.last site
  wake : (hub.log site).wake ≤ (next.log site).wake
  history : ∃ more, later = history ++ more ∧ ∀ stored ∈ more, hub.last site < stored.sequence
  lost : ∀ sequence, Lost hub site sequence → Lost next site sequence

variable {hub next : SiteEventHub} {history later : List Stored}

theorem SameEvents.lost_iff (same : SameEvents hub next) (site : SiteId) (sequence : Nat) :
    Lost next site sequence ↔ Lost hub site sequence := by
  rw [Lost,Lost,last_eq,last_eq,same.last,same.events]

theorem SameEvents.onward (same : SameEvents hub next) (site : SiteId) : Onward hub next history history site where
  last := Nat.le_of_eq (by rw [last_eq,last_eq,same.last])
  wake := Nat.le_of_eq (same.wake site).symm
  history := ⟨[],(List.append_nil _).symm,fun _ member => by cases member⟩
  lost sequence := (same.lost_iff site sequence).mpr

theorem onward_held (staged : MessageId → List Staged) (site : SiteId) :
    Onward hub { hub with staged := staged } history history site :=
  ⟨Nat.le_refl _,Nat.le_refl _,⟨[],(List.append_nil _).symm,fun _ member => by cases member⟩,fun _ lost => lost⟩

theorem SameEvents.buffered (same : SameEvents hub next) {site : SiteId} (buffered : Buffered (hub.log site) history) :
    Buffered (next.log site) history := by
  refine ⟨?_,?_,buffered.sequences,?_,?_,?_,?_⟩ <;> simp only [same.last site,same.events site,same.wake site]
  · exact buffered.last
  · exact buffered.wake
  · exact buffered.suffix
  · exact buffered.contiguous
  · exact buffered.bounded
  · exact buffered.nonempty

/-- What a connection that reads has been sent, as far as the site goes. -/
structure Followed (hub : SiteEventHub) (history : List Stored) (connection : Connection) (reader : Reader) : Prop where
  trail : ∃ first sent, reader.sent = first ++ sent ∧
    (first = [] ∨ connection.lastEventId ≠ none ∧ first = [⟨reader.start,.resync⟩]) ∧
      Trail history (Lost hub connection.site) connection.owner reader.start sent reader.cursor
  bounded : reader.cursor ≤ hub.last connection.site
  seen : reader.seen ≤ (hub.log connection.site).wake
  waiting : reader.waiting = true → reader.pending = [] ∧ reader.seen ≤ reader.cursor

/-- What holds of a connection in each of its phases. -/
def Following (hub : SiteEventHub) (history : List Stored) (connection : Connection) : Phase → Prop
  | .subscribed seen => seen ≤ (hub.log connection.site).wake
  | .unknown seen => seen ≤ (hub.log connection.site).wake ∧ connection.lastEventId ≠ none
  | .reading reader => Followed hub history connection reader
  | .admitted | .closed => True

variable {connection : Connection} {reader moved : Reader}

theorem Followed.onward (followed : Followed hub history connection reader)
    (onward : Onward hub next history later connection.site) : Followed next later connection reader where
  trail := by
    obtain ⟨first,sent,joined,starts,trail⟩ := followed.trail
    obtain ⟨more,rfl,new⟩ := onward.history
    exact ⟨first,sent,joined,starts,trail.grown new onward.lost followed.bounded⟩
  bounded := Nat.le_trans followed.bounded onward.last
  seen := Nat.le_trans followed.seen onward.wake
  waiting := followed.waiting

theorem Following.onward {phase : Phase} (following : Following hub history connection phase)
    (onward : Onward hub next history later connection.site) : Following next later connection phase := by
  cases phase with
  | subscribed seen => exact Nat.le_trans following onward.wake
  | unknown seen => exact ⟨Nat.le_trans following.1 onward.wake,following.2⟩
  | reading reader => exact Followed.onward following onward
  | admitted => trivial
  | closed => trivial

/-- A connection that starts has been sent nothing since. -/
theorem followed_starting {seen cursor : Nat} (bounded : cursor ≤ hub.last connection.site)
    (known : seen ≤ (hub.log connection.site).wake) : Followed hub history connection (.starting seen cursor) where
  trail := ⟨[],[],rfl,Or.inl rfl,.start⟩
  bounded := bounded
  seen := known
  waiting waits := by cases waits

theorem followed_resync {seen : Nat} (known : seen ≤ (hub.log connection.site).wake) (asked : connection.lastEventId ≠ none) :
    Followed hub history connection
      ((Reader.starting seen (hub.last connection.site)).resync (hub.last connection.site)) where
  trail := ⟨[⟨hub.last connection.site,.resync⟩],[],rfl,Or.inr ⟨asked,rfl⟩,.start⟩
  bounded := Nat.le_refl _
  seen := known
  waiting waits := by cases waits

/-- Reading on from a cursor sends the events in between, or `resync` where one of them has left the buffer. -/
theorem Followed.fill (followed : Followed hub history connection reader) (buffered : Buffered (hub.log connection.site) history)
    (empty : reader.pending = []) :
    Followed hub history connection (reader.fill (hub.read connection.site reader.cursor connection.owner)) := by
  obtain ⟨first,sent,joined,starts,trail⟩ := followed.trail
  have last := last_eq hub connection.site
  have bounded := followed.bounded
  have current := followed.seen
  rw [buffered.wake,← last] at current
  rw [Reader.sent,empty,List.append_nil] at joined
  rw [read_eq,SiteLog.read]
  split
  · rename_i gone
    rw [buffered.hasLost_iff,← last] at gone
    refine ⟨⟨first,sent ++ [⟨hub.last connection.site,.resync⟩],?_,starts,?_⟩,?_,followed.seen,?_⟩
    · simp only [Reader.fill,Reader.resync,Reader.sent,empty,joined,← last,List.nil_append,List.append_assoc]
    · rw [Reader.fill,Reader.resync]
      simp only [← last]
      refine .resync trail (by omega) ((lost_iff buffered _).mpr ⟨by omega,?_⟩)
      rw [← last]
      exact gone
    · simp only [Reader.fill,Reader.resync,← last,Nat.le_refl]
    · intro waits
      simp [Reader.fill,Reader.resync] at waits
  · rename_i kept
    have read := buffered.visible_eq connection.owner kept
    rw [← last] at read
    have ahead : max reader.cursor (hub.last connection.site) = hub.last connection.site := Nat.max_eq_right bounded
    refine ⟨⟨first,sent ++ between history connection.owner reader.cursor (hub.last connection.site),?_,starts,?_⟩,?_,
      followed.seen,?_⟩
    · simp only [Reader.fill,Reader.sent,empty,joined,read,List.nil_append,List.append_assoc]
    · simp only [Reader.fill,← last,ahead]
      exact .events trail bounded
    · simp only [Reader.fill,← last,ahead,Nat.le_refl]
    · intro waits
      simp only [Reader.fill,List.isEmpty_iff] at waits
      refine ⟨?_,?_⟩
      · simpa only [Reader.fill] using waits
      · simpa only [Reader.fill,← last,ahead] using current

theorem Following.rephased {phase : Phase} (following : Following hub history connection phase) (earlier : Phase) :
    Following hub history { connection with phase := earlier } phase := by
  cases phase with
  | subscribed seen => exact following
  | unknown seen => exact following
  | reading reader =>
    have followed : Followed hub history connection reader := following
    exact ⟨followed.trail,followed.bounded,followed.seen,followed.waiting⟩
  | admitted => trivial
  | closed => trivial

end Following

section Pushing

variable (hub : SiteEventHub) (history : SiteId → List Stored) (staged : Staged) (now : Timestamp)

/-- The block that an event would get. -/
def nextStored : Stored := ⟨(hub.log staged.site).last + 1,staged.instant,staged.event⟩

theorem push_appended : hub.push staged now = hub ∧ appended hub history staged now = history ∨
    ¬staged.instant < now - windowAge ∧
      hub.push staged now = hub.put staged.site ((hub.log staged.site).append staged.event staged.instant now) ∧
      appended hub history staged now =
        Function.update history staged.site (history staged.site ++ [nextStored hub staged]) := by
  rcases push_cases hub staged now with same | ⟨recent,put⟩
  · exact Or.inl ⟨same,by rw [appended,same,if_pos rfl]⟩
  · refine Or.inr ⟨recent,put,?_⟩
    have grown : (hub.push staged now).last staged.site = hub.last staged.site + 1 := by
      rw [put,last_eq,last_eq,log_put,if_pos rfl]
      rfl
    rw [appended,if_neg (by omega),nextStored,← last_eq]

theorem push_epoch : (hub.push staged now).epoch = hub.epoch := by
  rcases push_cases hub staged now with same | ⟨-,put⟩
  · rw [same]
  · rw [put]
    rfl

variable {history}

theorem push_buffered (buffered : ∀ site, Buffered (hub.log site) (history site)) (site : SiteId) :
    Buffered ((hub.push staged now).log site) (appended hub history staged now site) := by
  rcases push_appended hub history staged now with ⟨same,kept⟩ | ⟨recent,put,grown⟩
  · rw [same,kept]
    exact buffered site
  · rw [put,grown,log_put,Function.update_apply]
    split
    · exact (buffered staged.site).append staged.event recent
    · exact buffered site

theorem push_onward (buffered : ∀ site, Buffered (hub.log site) (history site)) (site : SiteId) :
    Onward hub (hub.push staged now) (history site) (appended hub history staged now site) site := by
  have after := push_buffered hub staged now buffered site
  rcases push_appended hub history staged now with ⟨same,kept⟩ | ⟨recent,put,grown⟩
  · rw [same,kept]
    exact (SameEvents.refl hub).onward site
  · by_cases own : site = staged.site
    · subst own
      have log : (hub.push staged now).log staged.site =
          (hub.log staged.site).append staged.event staged.instant now := by rw [put,log_put,if_pos rfl]
      have last : (hub.push staged now).last staged.site = hub.last staged.site + 1 := by
        rw [last_eq,last_eq,log]
        rfl
      refine ⟨by omega,?_,⟨[nextStored hub staged],by rw [grown,Function.update_self],?_⟩,?_⟩
      · rw [log]
        exact Nat.le_succ _
      · intro stored member
        rw [List.mem_singleton.mp member,nextStored,last_eq]
        exact Nat.lt_succ_self _
      · intro sequence lost
        rw [lost_iff (buffered staged.site)] at lost
        rw [lost_iff after,← last_eq,last,last_eq,log]
        -- one event is appended, and the buffer has at most one more
        have short := (trim_suffix now ((hub.log staged.site).events ++ [nextStored hub staged])).length_le
        rw [List.length_append,List.length_singleton] at short
        change 0 < sequence ∧ sequence + (SiteLog.trim now ((hub.log staged.site).events ++ [nextStored hub staged])).length ≤ _
        omega
    · have log : (hub.push staged now).log site = hub.log site := by rw [put,log_put,if_neg own]
      refine ⟨?_,?_,⟨[],?_,fun _ member => by cases member⟩,fun sequence lost => ?_⟩
      · exact Nat.le_of_eq (by rw [last_eq,last_eq,log])
      · exact Nat.le_of_eq (by rw [log])
      · rw [grown,Function.update_of_ne own,List.append_nil]
      · rwa [Lost,last_eq,log,← last_eq]

/-- What is appended to a history was to be. -/
theorem push_sublist {pushed : List Staged} (listed : ∀ site, ((history site).map fun stored => (stored.event,stored.instant)).Sublist
      ((pushed.filter fun staged => staged.site = site).map fun staged => (staged.event,staged.instant))) (site : SiteId) :
    ((appended hub history staged now site).map fun stored => (stored.event,stored.instant)).Sublist
      (((pushed ++ [staged]).filter fun staged => staged.site = site).map fun staged => (staged.event,staged.instant)) := by
  have earlier := (listed site).trans
    (((List.sublist_append_left pushed [staged]).filter fun staged => staged.site = site).map fun staged =>
      (staged.event,staged.instant))
  rcases push_appended hub history staged now with ⟨-,kept⟩ | ⟨-,-,grown⟩
  · rw [kept]
    exact earlier
  · rw [grown,Function.update_apply]
    split
    · rename_i own
      subst own
      rw [List.filter_append,List.map_append,List.map_append]
      refine (listed staged.site).append ?_
      simp [nextStored]
    · exact earlier

end Pushing

section Staging

variable {τ γ : Type} [DecidableEq τ] [DecidableEq γ]

/-- The message of a delivery that has not settled, and what it has staged. -/
def Turn.waiting : Turn → Option (MessageId × List Staged)
  | .opened messageId own | .ended messageId own _ => some (messageId,own)
  | .pushing _ _ => none

def Fanout.waiting (s : Fanout τ γ) (t : τ) : Option (MessageId × List Staged) := (s.turns t).bind Turn.waiting

/-- A delivery stages and settles while no other one holds events under its message id. -/
def Exclusive (s : Fanout τ γ) : Action τ γ → Prop
  | .stage t _ _ _ _ | .settle t _ => ∀ messageId own, s.waiting t = some (messageId,own) →
      ∀ other others, other ≠ t → s.waiting other = some (messageId,others) → others = []
  | _ => True

/-- What is held by a message id is what one delivery has staged. -/
structure Kept (staged : MessageId → List Staged) (waiting : τ → Option (MessageId × List Staged)) : Prop where
  held : ∀ t messageId own, waiting t = some (messageId,own) → own ≠ [] → staged messageId = own
  idle : ∀ messageId, staged messageId ≠ [] → ∃ t own, waiting t = some (messageId,own) ∧ own ≠ []

variable {staged : MessageId → List Staged} {waiting : τ → Option (MessageId × List Staged)} {t : τ}
variable {messageId : MessageId} {own : List Staged}

/-- A delivery beside which no other one holds events finds its own. -/
theorem Kept.finds (kept : Kept staged waiting) (waits : waiting t = some (messageId,own))
    (alone : ∀ other others, other ≠ t → waiting other = some (messageId,others) → others = []) :
    staged messageId = own := by
  by_cases none_ : own = []
  · subst none_
    by_contra some_
    obtain ⟨other,others,held,more⟩ := kept.idle messageId some_
    refine more (alone other others ?_ held)
    rintro rfl
    rw [waits] at held
    obtain ⟨-,rfl⟩ := Prod.mk.inj (Option.some.inj held)
    exact more rfl
  · exact kept.held t messageId own waits none_

/-- Then it may replace them, or give them up. -/
theorem Kept.replace (kept : Kept staged waiting) (waits : waiting t = some (messageId,own))
    (alone : ∀ other others, other ≠ t → waiting other = some (messageId,others) → others = [])
    (next : Option (MessageId × List Staged)) (later : List Staged)
    (replaced : next = some (messageId,later) ∨ next = none ∧ later = []) :
    Kept (Function.update staged messageId later) (Function.update waiting t next) where
  held other named others waiting_ some_ := by
    rw [Function.update_apply] at waiting_
    split at waiting_
    · rcases replaced with same | ⟨same,-⟩
      · rw [same] at waiting_
        obtain ⟨rfl,rfl⟩ := Prod.mk.inj (Option.some.inj waiting_)
        exact Function.update_self _ _ _
      · rw [same] at waiting_
        cases waiting_
    · rename_i different
      by_cases same : named = messageId
      · subst same
        exact absurd (alone other others different waiting_) some_
      · rw [Function.update_of_ne same]
        exact kept.held other named others waiting_ some_
  idle named some_ := by
    by_cases same : named = messageId
    · subst same
      rw [Function.update_self] at some_
      rcases replaced with next_ | ⟨-,none_⟩
      · exact ⟨t,later,by rw [Function.update_self,next_],some_⟩
      · exact absurd none_ some_
    · rw [Function.update_of_ne same] at some_
      obtain ⟨other,others,held,more⟩ := kept.idle named some_
      refine ⟨other,others,?_,more⟩
      rw [Function.update_of_ne,held]
      rintro rfl
      rw [waits] at held
      exact same (Prod.mk.inj (Option.some.inj held)).1.symm

/-- A delivery that begins has staged nothing. -/
theorem Kept.begun (kept : Kept staged waiting) (fresh : waiting t = none) (messageId : MessageId) :
    Kept staged (Function.update waiting t (some (messageId,[]))) where
  held other named others waiting_ some_ := by
    rw [Function.update_apply] at waiting_
    split at waiting_
    · exact absurd (Prod.mk.inj (Option.some.inj waiting_)).2.symm some_
    · exact kept.held other named others waiting_ some_
  idle named some_ := by
    obtain ⟨other,others,held,more⟩ := kept.idle named some_
    refine ⟨other,others,?_,more⟩
    rw [Function.update_of_ne,held]
    rintro rfl
    rw [fresh] at held
    cases held

/-- What settlements pass on is pushed, or about to be. -/
structure Settles (turns : τ → Option Turn) (settlements : List Settlement) (pushed : List Staged) : Prop where
  settled : ∀ settlement ∈ settlements, settlement.passedOn = if settlement.committed then settlement.staged else []
  accounted : ∀ staged ∈ pushed, ∃ settlement ∈ settlements, staged ∈ settlement.passedOn
  pushing : ∀ t rest now, turns t = some (.pushing rest now) → ∀ staged ∈ rest, ∃ settlement ∈ settlements, staged ∈ settlement.passedOn
  reached : ∀ settlement ∈ settlements, ∀ staged ∈ settlement.passedOn,
    staged ∈ pushed ∨ ∃ t rest now, turns t = some (.pushing rest now) ∧ staged ∈ rest

variable {turns : τ → Option Turn} {settlements : List Settlement} {pushed : List Staged}

/-- The turns of deliveries that push nothing do not matter. -/
theorem Settles.turned (settles : Settles turns settlements pushed) {turn : Option Turn}
    (before : ∀ rest now, turns t = some (.pushing rest now) → rest = []) (after : ∀ rest now, turn ≠ some (.pushing rest now)) :
    Settles (Function.update turns t turn) settlements pushed where
  settled := settles.settled
  accounted := settles.accounted
  pushing other rest now pushes := by
    rw [Function.update_apply] at pushes
    split at pushes
    · exact absurd pushes (after rest now)
    · exact settles.pushing other rest now pushes
  reached settlement member staged passed := by
    refine (settles.reached settlement member staged passed).imp_right ?_
    rintro ⟨other,rest,now,pushes,listed⟩
    refine ⟨other,rest,now,?_,listed⟩
    rw [Function.update_of_ne,pushes]
    rintro rfl
    rw [before rest now pushes] at listed
    cases listed

theorem Settles.settle (settles : Settles turns settlements pushed) (before : ∀ rest now, turns t ≠ some (.pushing rest now))
    {committed : Bool} {rest : List Staged} (truthful : rest = if committed then own else []) (now : Timestamp) :
    Settles (Function.update turns t (some (.pushing rest now))) (settlements ++ [⟨own,committed,rest⟩]) pushed where
  settled other member := by
    rcases List.mem_append.mp member with earlier | own
    · exact settles.settled other earlier
    · rw [List.mem_singleton.mp own]
      exact truthful
  accounted staged member := by
    obtain ⟨other,listed,passed⟩ := settles.accounted staged member
    exact ⟨other,List.mem_append_left _ listed,passed⟩
  pushing other more at_ pushes staged member := by
    rw [Function.update_apply] at pushes
    split at pushes
    · obtain ⟨rfl,-⟩ := Turn.pushing.inj (Option.some.inj pushes)
      exact ⟨⟨own,committed,rest⟩,List.mem_append_right _ (List.mem_singleton_self _),member⟩
    · obtain ⟨earlier,listed,passed⟩ := settles.pushing other more at_ pushes staged member
      exact ⟨earlier,List.mem_append_left _ listed,passed⟩
  reached other member staged passed := by
    rcases List.mem_append.mp member with earlier | own
    · refine (settles.reached other earlier staged passed).imp_right ?_
      rintro ⟨u,more,at_,pushes,listed⟩
      refine ⟨u,more,at_,?_,listed⟩
      rw [Function.update_of_ne,pushes]
      rintro rfl
      exact before more at_ pushes
    · rw [List.mem_singleton.mp own] at passed
      exact Or.inr ⟨t,rest,now,Function.update_self _ _ _,passed⟩

theorem Settles.push (settles : Settles turns settlements pushed) {staged : Staged} {rest : List Staged} {now : Timestamp}
    (pushes : turns t = some (.pushing (staged :: rest) now)) :
    Settles (Function.update turns t (some (.pushing rest now))) settlements (pushed ++ [staged]) where
  settled := settles.settled
  accounted other member := by
    rcases List.mem_append.mp member with earlier | own
    · exact settles.accounted other earlier
    · rw [List.mem_singleton.mp own]
      exact settles.pushing t _ now pushes staged List.mem_cons_self
  pushing other more at_ pushing_ later member := by
    rw [Function.update_apply] at pushing_
    split at pushing_
    · obtain ⟨rfl,-⟩ := Turn.pushing.inj (Option.some.inj pushing_)
      exact settles.pushing t _ now pushes later (List.mem_cons_of_mem _ member)
    · exact settles.pushing other more at_ pushing_ later member
  reached settlement member other passed := by
    rcases settles.reached settlement member other passed with earlier | ⟨u,more,at_,pushing_,listed⟩
    · exact Or.inl (List.mem_append_left _ earlier)
    · by_cases own : u = t
      · subst own
        rw [pushes] at pushing_
        obtain ⟨rfl,rfl⟩ := Turn.pushing.inj (Option.some.inj pushing_)
        rcases List.mem_cons.mp listed with rfl | later
        · exact Or.inl (List.mem_append_right _ (List.mem_singleton_self _))
        · exact Or.inr ⟨u,rest,now,Function.update_self _ _ _,later⟩
      · exact Or.inr ⟨u,more,at_,by rw [Function.update_of_ne own,pushing_],listed⟩

end Staging

section Runs

variable {τ γ : Type} [DecidableEq τ] [DecidableEq γ]

structure Sound (s : Fanout τ γ) : Prop where
  epoch : '.' ∉ s.hub.epoch.toList
  buffered : ∀ site, Buffered (s.hub.log site) (s.history site)
  kept : Kept s.hub.staged s.waiting
  settles : Settles s.turns s.settlements s.pushed
  appended : ∀ site, ((s.history site).map fun stored => (stored.event,stored.instant)).Sublist
    ((s.pushed.filter fun staged => staged.site = site).map fun staged => (staged.event,staged.instant))
  following : ∀ c connection, s.connections c = some connection →
    Following s.hub (s.history connection.site) connection connection.phase

theorem simple_digits (uuid : Nat) : '.' ∉ (simple uuid).toList := by
  intro member
  rw [simple,String.toList_ofList,List.mem_map] at member
  obtain ⟨i,-,same⟩ := member
  have digits : ∀ digit < 16, "0123456789abcdef".toList.getD digit '0' ≠ '.' := by decide
  exact digits _ (Nat.mod_lt _ (by omega)) same

theorem initial_sound (uuid : Nat) : Sound (Fanout.initial uuid : Fanout τ γ) where
  epoch := simple_digits uuid
  buffered _ := buffered_empty
  kept := by
    refine ⟨fun _ _ _ waits => ?_,fun _ some_ => absurd rfl some_⟩
    cases waits
  settles := by
    refine ⟨?_,?_,fun _ _ _ pushes => ?_,?_⟩
    · exact fun _ member => by cases member
    · exact fun _ member => by cases member
    · cases pushes
    · exact fun _ member => by cases member
  appended _ := List.Sublist.slnil
  following _ _ found := by cases found

variable {s next : Fanout τ γ} {t : τ} {c : γ} {hub : SiteEventHub} {connection : Connection} {phase : Phase}

theorem waiting_setTurn (turn : Option Turn) :
    (s.setTurn t turn).waiting = Function.update s.waiting t (turn.bind Turn.waiting) := by
  funext other
  simp only [Fanout.waiting,Fanout.setTurn,Function.update_apply]
  split <;> rfl

/-- The counts of connections matter to no promise. -/
theorem Sound.recounted (sound : Sound s) (same : SameEvents s.hub hub) : Sound { s with hub := hub } where
  epoch := by
    rw [same.epoch]
    exact sound.epoch
  buffered site := same.buffered (sound.buffered site)
  kept := by
    rw [same.staged]
    exact sound.kept
  settles := sound.settles
  appended := sound.appended
  following c connection found := (sound.following c connection found).onward (same.onward connection.site)

/-- One connection moves on. -/
theorem Sound.setPhase (sound : Sound s) (c : γ) (connection : Connection) (phase : Phase)
    (following : Following s.hub (s.history connection.site) connection phase) :
    Sound (s.setPhase c connection phase) where
  epoch := sound.epoch
  buffered := sound.buffered
  kept := sound.kept
  settles := sound.settles
  appended := sound.appended
  following other found at_ := by
    simp only [Fanout.setPhase,Function.update_apply] at at_
    split at at_
    · obtain rfl := Option.some.inj at_
      exact following.rephased phase
    · exact sound.following other found at_

theorem Sound.begin_ (sound : Sound s) {messageId : MessageId} (stepped : s.deliver (.begin_ t messageId) = some next) :
    Sound next := by
  simp only [Fanout.deliver] at stepped
  split at stepped
  · rename_i free _ _
    obtain rfl := Option.some.inj stepped
    have fresh : s.waiting t = none := by rw [Fanout.waiting,free]; rfl
    refine ⟨sound.epoch,sound.buffered,?_,?_,sound.appended,sound.following⟩
    · change Kept s.hub.staged (s.setTurn t _).waiting
      rw [waiting_setTurn]
      exact sound.kept.begun fresh messageId
    · refine sound.settles.turned (fun rest now pushes => ?_) fun _ _ pushes => by cases pushes
      rw [free] at pushes
      cases pushes
  · cases stepped

theorem Sound.stage (sound : Sound s) {site : SiteId} {event : SiteEvent} {occurredAt : Option Timestamp} {now : Timestamp}
    (exclusive : Exclusive s (.stage t site event occurredAt now))
    (stepped : s.deliver (.stage t site event occurredAt now) = some next) : Sound next := by
  simp only [Fanout.deliver] at stepped
  split at stepped
  · rename_i messageId own at_
    obtain rfl := Option.some.inj stepped
    have waits : s.waiting t = some (messageId,own) := by rw [Fanout.waiting,at_]; rfl
    have alone := exclusive messageId own waits
    refine ⟨sound.epoch,sound.buffered,?_,?_,sound.appended,fun c connection found => ?_⟩
    · change Kept (s.hub.stage messageId site event occurredAt now).staged (s.setTurn t _).waiting
      rw [waiting_setTurn,SiteEventHub.stage]
      simp only [sound.kept.finds waits alone]
      exact sound.kept.replace waits alone _ _ (Or.inl rfl)
    · refine sound.settles.turned (fun rest now pushes => ?_) fun _ _ pushes => by cases pushes
      rw [at_] at pushes
      cases pushes
    · exact (sound.following c connection found).onward (onward_held _ connection.site)
  · cases stepped

theorem Sound.finish (sound : Sound s) {committed : Bool} (stepped : s.deliver (.finish t committed) = some next) :
    Sound next := by
  simp only [Fanout.deliver] at stepped
  split at stepped
  · rename_i messageId own at_
    obtain rfl := Option.some.inj stepped
    have waits : s.waiting t = some (messageId,own) := by rw [Fanout.waiting,at_]; rfl
    refine ⟨sound.epoch,sound.buffered,?_,?_,sound.appended,sound.following⟩
    · change Kept s.hub.staged (s.setTurn t _).waiting
      have same : Function.update s.waiting t (some (messageId,own)) = s.waiting := by rw [← waits,Function.update_eq_self]
      rw [waiting_setTurn,Option.bind_some,Turn.waiting,same]
      exact sound.kept
    · refine sound.settles.turned (fun rest now pushes => ?_) fun _ _ pushes => by cases pushes
      rw [at_] at pushes
      cases pushes
  · cases stepped

theorem Sound.settle (sound : Sound s) {now : Timestamp} (exclusive : Exclusive s (.settle t now))
    (stepped : s.deliver (.settle t now) = some next) : Sound next := by
  simp only [Fanout.deliver] at stepped
  split at stepped
  · rename_i messageId own committed at_
    obtain rfl := Option.some.inj stepped
    have waits : s.waiting t = some (messageId,own) := by rw [Fanout.waiting,at_]; rfl
    have alone := exclusive messageId own waits
    refine ⟨sound.epoch,sound.buffered,?_,?_,sound.appended,fun c connection found => ?_⟩
    · change Kept (Function.update s.hub.staged messageId []) (s.setTurn t _).waiting
      rw [waiting_setTurn]
      exact sound.kept.replace waits alone none [] (Or.inr ⟨rfl,rfl⟩)
    · have before : ∀ rest at_, s.turns t ≠ some (.pushing rest at_) := by
        intro rest later pushes
        rw [at_] at pushes
        cases pushes
      have truthful : s.hub.settled messageId committed = if committed then own else [] := by
        rw [SiteEventHub.settled,sound.kept.finds waits alone]
      exact sound.settles.settle before truthful now
    · exact (sound.following c connection found).onward (onward_held _ connection.site)
  · cases stepped

theorem Sound.push (sound : Sound s) (stepped : s.deliver (.push t) = some next) : Sound next := by
  simp only [Fanout.deliver] at stepped
  split at stepped
  · rename_i now at_
    obtain rfl := Option.some.inj stepped
    have same : Function.update s.waiting t none = s.waiting := by
      rw [Function.update_eq_self_iff,Fanout.waiting,at_]
      rfl
    refine ⟨sound.epoch,sound.buffered,?_,?_,sound.appended,sound.following⟩
    · rw [waiting_setTurn,Option.bind_none,same]
      exact sound.kept
    · refine sound.settles.turned (fun rest now pushes => ?_) fun _ _ pushes => by cases pushes
      rw [at_] at pushes
      exact (Turn.pushing.inj (Option.some.inj pushes)).1.symm
  · rename_i staged rest now at_
    obtain rfl := Option.some.inj stepped
    have same : Function.update s.waiting t none = s.waiting := by
      rw [Function.update_eq_self_iff,Fanout.waiting,at_]
      rfl
    refine ⟨?_,push_buffered s.hub staged now sound.buffered,?_,sound.settles.push at_,
      push_sublist s.hub staged now sound.appended,fun c connection found => ?_⟩
    · rw [push_epoch]
      exact sound.epoch
    · change Kept (s.hub.push staged now).staged (s.setTurn t _).waiting
      rw [SiteEventHub.push_staged,waiting_setTurn,Option.bind_some,Turn.waiting,same]
      exact sound.kept
    · exact (sound.following c connection found).onward (push_onward s.hub staged now sound.buffered connection.site)
  · cases stepped

theorem Sound.admitted (sound : Sound s) {site : SiteId} {client : Option String} {lastEventId : Option (List Char)}
    {limits : SiteStreamLimits} (stepped : s.connect (.admission c site client lastEventId limits) = some next) : Sound next := by
  simp only [Fanout.connect] at stepped
  split at stepped
  · cases stepped
  · obtain rfl := Option.some.inj stepped
    have same := sameEvents_admitted s.hub site client limits
    split
    · exact (sound.setPhase c ⟨site,client,lastEventId,.admitted⟩ .admitted trivial).recounted same
    · exact sound.recounted same

theorem Sound.subscribe (sound : Sound s) (stepped : s.connect (.subscribe c) = some next) : Sound next := by
  simp only [Fanout.connect] at stepped
  split at stepped
  · rename_i connection found
    split at stepped
    · obtain rfl := Option.some.inj stepped
      exact (sound.setPhase c connection (.subscribed (s.hub.log connection.site).wake) (Nat.le_refl _)).recounted
        (sameEvents_put s.hub connection.site rfl rfl rfl)
    · cases stepped
  · cases stepped

theorem cursorOf_bounded {site : SiteId} {raw : List Char} {cursor : Nat} (read : cursorOf hub site raw = some cursor) :
    cursor ≤ hub.last site := by
  rw [cursorOf] at read
  simpa using (Option.filter_eq_some_iff.mp read).2

theorem Sound.resume (sound : Sound s) (stepped : s.connect (.resume c) = some next) : Sound next := by
  simp only [Fanout.connect] at stepped
  split at stepped
  · rename_i connection found
    have following := sound.following c connection found
    split at stepped
    · rename_i seen at_ _
      rw [at_] at following
      obtain rfl := Option.some.inj stepped
      exact sound.setPhase c connection (.reading _) (followed_starting (Nat.le_refl _) following)
    · rename_i seen raw at_ asked
      rw [at_] at following
      split at stepped
      · rename_i cursor read
        obtain rfl := Option.some.inj stepped
        exact sound.setPhase c connection (.reading _) (followed_starting (cursorOf_bounded read) following)
      · obtain rfl := Option.some.inj stepped
        refine sound.setPhase c connection (.unknown seen) ⟨following,?_⟩
        rw [asked]
        exact Option.some_ne_none raw
    · cases stepped
  · cases stepped

theorem Sound.resync (sound : Sound s) (stepped : s.connect (.resync c) = some next) : Sound next := by
  simp only [Fanout.connect] at stepped
  split at stepped
  · rename_i connection found
    have following := sound.following c connection found
    split at stepped
    · rename_i seen at_
      rw [at_] at following
      obtain rfl := Option.some.inj stepped
      exact sound.setPhase c connection (.reading _) (followed_resync following.1 following.2)
    · cases stepped
  · cases stepped

/-- A turn of the loop of a connection keeps what it was sent. -/
theorem Followed.turn {reader moved : Reader} {action : Action τ γ}
    (followed : Followed s.hub (s.history connection.site) connection reader)
    (buffered : Buffered (s.hub.log connection.site) (s.history connection.site))
    (stepped : s.turn connection reader action = some moved) : Followed s.hub (s.history connection.site) connection moved := by
  obtain ⟨trail,bounded,seen,waiting⟩ := followed
  unfold Fanout.turn at stepped
  split at stepped
  · split at stepped
    · rename_i frame rest running queued
      obtain rfl := Option.some.inj stepped
      refine ⟨?_,bounded,seen,fun waits => ?_⟩
      · simpa only [Reader.sent,queued,List.append_assoc,List.singleton_append] using trail
      · rw [running] at waits
        cases waits
    · cases stepped
  · split at stepped
    · cases stepped
    · rename_i running
      obtain rfl := Option.some.inj stepped
      simp only [Bool.or_eq_true,Bool.not_eq_true',not_or,Bool.not_eq_true,Bool.not_eq_false,List.isEmpty_iff] at running
      exact Followed.fill ⟨trail,bounded,seen,waiting⟩ buffered running.2
  · split at stepped
    · obtain rfl := Option.some.inj stepped
      exact ⟨trail,bounded,Nat.le_refl _,fun waits => by cases waits⟩
    · cases stepped
  · split at stepped
    · obtain rfl := Option.some.inj stepped
      exact ⟨trail,bounded,seen,fun waits => by cases waits⟩
    · cases stepped
  · cases stepped

theorem Sound.follow (sound : Sound s) {action : Action τ γ} (stepped : s.follow c action = some next) : Sound next := by
  unfold Fanout.follow at stepped
  split at stepped
  · rename_i connection found
    have following := sound.following c connection found
    split at stepped
    · rename_i reader at_
      rw [at_] at following
      obtain ⟨moved,turned,rfl⟩ := Option.map_eq_some_iff.mp stepped
      exact sound.setPhase c connection (.reading moved) (Followed.turn following (sound.buffered connection.site) turned)
    · cases stepped
  · cases stepped

theorem Sound.close (sound : Sound s) (stepped : s.close c = some next) : Sound next := by
  unfold Fanout.close at stepped
  split at stepped
  · rename_i connection found
    split at stepped
    · cases stepped
    · obtain rfl := Option.some.inj stepped
      exact (sound.setPhase c connection .closed trivial).recounted (sameEvents_released s.hub connection.site connection.client)
  · cases stepped

theorem Sound.step (sound : Sound s) {action : Action τ γ} (exclusive : Exclusive s action)
    (stepped : s.step action = some next) : Sound next := by
  cases action with
  | begin_ t messageId => exact sound.begin_ stepped
  | stage t site event occurredAt now => exact sound.stage exclusive stepped
  | finish t committed => exact sound.finish stepped
  | settle t now => exact sound.settle exclusive stepped
  | push t => exact sound.push stepped
  | admission c site client lastEventId limits => exact sound.admitted stepped
  | subscribe c => exact sound.subscribe stepped
  | resume c => exact sound.resume stepped
  | resync c => exact sound.resync stepped
  | take c => exact sound.follow stepped
  | fill c => exact sound.follow stepped
  | wake c => exact sound.follow stepped
  | tick c => exact sound.follow stepped
  | close c => exact sound.close stepped

end Runs

section Promises

variable {τ γ : Type} [DecidableEq τ] [DecidableEq γ] {s : Fanout τ γ}

/-- The id of an event that this process has sent is read back. -/
theorem cursorOf_eventId {hub : SiteEventHub} (epoch : '.' ∉ hub.epoch.toList) {site : SiteId} {sequence : Nat}
    (sent : sequence ≤ hub.last site) (counted : sequence ≤ u64Max) :
    cursorOf hub site (eventId hub sequence) = some sequence := by
  have positive : ¬(sequence : Int) < 0 := by omega
  have unsigned : (Text.decimal (sequence : Int)).head? ≠ some '-' := by
    rw [Text.decimal,if_neg positive]
    intro first
    have digit := Text.digit_of_mem_toDigits (List.mem_of_head? first)
    cases digit
  have number : parseU64 (Text.decimal (sequence : Int)) = some sequence := by
    have bounded : (sequence : Int) ≤ (u64Max : Int) := by omega
    rw [parseU64,if_neg unsigned,Text.ofDecimal_decimal]
    simp [bounded]
  rw [cursorOf,eventId,Text.splitOnce_append _ epoch,Option.filter_some,if_pos (decide_eq_true rfl),Option.bind_some,number,
    Option.filter_some,if_pos (decide_eq_true sent)]

/-- Any other is not. -/
theorem cursorOf_foreign {hub : SiteEventHub} {site : SiteId} {raw : List Char}
    (foreign : ∀ number sequence, raw = hub.epoch.toList ++ '.' :: number → parseU64 number = some sequence →
      hub.last site < sequence) : cursorOf hub site raw = none := by
  rw [cursorOf,Option.filter_eq_none_iff]
  intro sequence read
  obtain ⟨⟨first,number⟩,split,parsed⟩ := Option.bind_eq_some_iff.mp read
  obtain ⟨split,own⟩ := Option.filter_eq_some_iff.mp split
  simp only [decide_eq_true_eq] at own
  have past := foreign number sequence (by rw [← own,Text.append_of_splitOnce split]) parsed
  simp only [decide_eq_true_eq]
  omega

theorem Sound.streams (sound : Sound s) : Streams s where
  buffered := sound.buffered
  settled := sound.settles.settled
  appended := sound.appended
  pushed := sound.settles.accounted
  reached idle settlement member staged passed := by
    rcases sound.settles.reached settlement member staged passed with done | ⟨t,rest,now,pushes,-⟩
    · exact done
    · rw [idle t] at pushes
      cases pushes
  fresh c connection seen found at_ none_ := by
    simp only [Fanout.step,Fanout.connect,found,at_,none_]
  resumes c connection seen sequence found at_ asked sent counted := by
    simp only [Fanout.step,Fanout.connect,found,at_,asked,cursorOf_eventId sound.epoch sent counted]
  foreign c connection seen raw found at_ asked foreign := by
    simp only [Fanout.step,Fanout.connect,found,at_,asked,cursorOf_foreign foreign]
  unknown c connection seen found at_ := by
    simp only [Fanout.step,Fanout.connect,found,at_]
    rfl
  trail c connection reader reads := by
    have following := sound.following c connection reads.1
    rw [reads.2] at following
    exact Followed.trail following
  next c connection reader _ := by
    have buffered := sound.buffered connection.site
    rw [read_eq,SiteLog.read,← last_eq]
    constructor
    · rintro ⟨sequence,after,lost⟩
      rw [lost_iff buffered] at lost
      rw [if_pos ((buffered.hasLost_iff _).mpr (by omega))]
    · intro resync
      split at resync
      · rename_i gone
        rw [buffered.hasLost_iff] at gone
        exact ⟨reader.cursor + 1,Nat.lt_succ_self _,(lost_iff buffered _).mpr ⟨Nat.succ_pos _,gone⟩⟩
      · cases resync
  anonymous c connection reader reads anonymous := by
    have following := sound.following c connection reads.1
    rw [reads.2] at following
    obtain ⟨first,sent,joined,starts,trail⟩ := Followed.trail following
    intro frame member
    rw [joined] at member
    rcases List.mem_append.mp member with start | later
    · rcases starts with rfl | ⟨-,rfl⟩
      · cases start
      · exact Or.inr (by rw [List.mem_singleton.mp start])
    · exact trail.anonymous anonymous frame later
  caughtUp c connection reader reads waits woken := by
    have following := sound.following c connection reads.1
    rw [reads.2] at following
    have followed : Followed s.hub (s.history connection.site) connection reader := following
    obtain ⟨empty,ahead⟩ := followed.waiting waits
    have bounded := followed.bounded
    have wake := (sound.buffered connection.site).wake
    rw [last_eq] at bounded ⊢
    exact ⟨empty,by omega⟩

/-- While no two deliveries hold events under one message id, the streams keep their promises. -/
theorem streams_exclusive (uuid : Nat) (actions : List (Action τ γ))
    (exclusive : StateMachine.Along Fanout.step Exclusive (Fanout.initial uuid) actions) :
    StateMachine.Throughout Fanout.step Streams (Fanout.initial uuid) actions :=
  StateMachine.throughout_of_along Fanout.step Sound Streams Exclusive
    (fun _ _ _ sound exclusive stepped => sound.step exclusive stepped) (fun _ => Sound.streams) _ actions
    (initial_sound uuid) exclusive

/-- One delivery, and an anonymous connection that resumes after the first event. -/
def oneDelivery : List (Action Unit Unit) :=
  [.begin_ () 7,.stage () "site" (.releasePublished 1 "2026-01-01") none 0,.finish () true,.settle () 5,.push (),.push (),
    .admission () "site" (some "client") (some "x.1".toList) .default,.subscribe (),.resume (),.resync (),.take (),.fill ()]

theorem streams_exclusive_one_delivery :
    StateMachine.Throughout Fanout.step Streams (Fanout.initial 0) oneDelivery := by
  refine streams_exclusive 0 oneDelivery (StateMachine.along_of_forall _ _ _ _ fun s action _ => ?_)
  cases action with
  | stage => exact fun _ _ _ other _ different => absurd (Subsingleton.elim _ _) different
  | settle => exact fun _ _ _ other _ different => absurd (Subsingleton.elim _ _) different
  | _ => trivial

/-- The delivery `true` is rolled back, and before it settles the delivery `false` of the same id commits. -/
def rolledBackBeside : List (Action Bool Unit) :=
  [.begin_ true 7,.stage true "site" (.draftChanged "draft" "1" "a") none 0,.finish true false,
    .begin_ false 7,.stage false "site" (.releasePublished 1 "2026-01-01") none 0,.finish false true,
    .settle false 5,.push false,.push false]

theorem rolled_back_event_appended : ∃ s : Fanout Bool Unit,
    StateMachine.run Fanout.step (Fanout.initial 0) rolledBackBeside = some s ∧
      (s.history "site").map Stored.event = [.draftChanged "draft" "1" "a",.releasePublished 1 "2026-01-01"] ∧
      s.turns true = some (.ended 7 [⟨"site",.draftChanged "draft" "1" "a",0⟩] false) ∧ ¬Streams s := by
  have ran : ((StateMachine.run Fanout.step (Fanout.initial 0) rolledBackBeside).map fun s : Fanout Bool Unit =>
      ((s.history "site").map Stored.event,s.turns true,s.settlements)) =
      some ([.draftChanged "draft" "1" "a",.releasePublished 1 "2026-01-01"],
        some (.ended 7 [⟨"site",.draftChanged "draft" "1" "a",0⟩] false),
        [⟨[⟨"site",.releasePublished 1 "2026-01-01",0⟩],true,
          [⟨"site",.draftChanged "draft" "1" "a",0⟩,⟨"site",.releasePublished 1 "2026-01-01",0⟩]⟩]) := by
    decide +kernel
  obtain ⟨s,ran,same⟩ := Option.map_eq_some_iff.mp ran
  obtain ⟨history,same⟩ := Prod.mk.inj same
  obtain ⟨turn,settlements⟩ := Prod.mk.inj same
  refine ⟨s,ran,history,turn,fun streams => ?_⟩
  have truthful := streams.settled _ (by rw [settlements]; exact List.mem_singleton_self _)
  exact absurd truthful (by decide)

end Promises

end Ratatoskr.PublicApi.SiteStream
