import Ratatoskr.Eventing.Topology

/-! Starts of Edge at one broker, request by request. Whatever the broker holds at first and however the starts fall, what
is there stays as it is, and a start that succeeds leaves everything in place. -/
namespace Ratatoskr.Edge

open Dialogue (Secure either)
open Eventing

section Starting

/-- `NatsPublisher::ensure_stream` -/
def ensureStream (spec : StreamSpec) : ExceptT PublishError (Dialogue BusRequest BusRequest.Answer) StreamState :=
  (ensure spec).adapt fun _ => .notAcknowledged

/-- What a start logs of a stream that it found with other limits -/
def warned (spec : StreamSpec) (mismatches : List String) : List (String × List String) :=
  if mismatches.isEmpty then [] else [(spec.name,mismatches)]

def warnings (spec : StreamSpec) : StreamState → List (String × List String)
  | .created => []
  | .existing mismatches => warned spec mismatches

/-- A start of Edge until its routes are built, with what it logs -/
def ensureFixedBusTopology : ExceptT String (Dialogue BusRequest BusRequest.Answer) (List (String × List String)) := do
  let commands ← (ensureStream .commandStream).adapt fun error => "the command stream could not be declared: " ++ error.text
  let events ← (ensureStream .eventStream).adapt fun error => "the event stream could not be declared: " ++ error.text
  ensureFixedTopology.adapt fun error =>
    "the fixed consumers and KV bucket could not be declared: the bus could not be reached: " ++ error.text
  return warnings .commandStream commands ++ warnings .eventStream events

end Starting

section Invariants

variable (start : Broker)

/-- What is wanted is as it was at first, or new and as wanted. -/
def Kept (broker : Broker) : Prop :=
  ∀ place config, wanted place = some config → broker place = start place ∨ start place = none ∧ broker place = some config

/-- What is wanted and there stays as it is. -/
def Standing (before later : Broker) : Prop :=
  ∀ place held, (wanted place).isSome = true → before place = some held → later place = some held

/-- A start changes nothing else. -/
def Sparing (before later : Broker) : Prop := Standing before later ∧ ∀ place, wanted place = none → later place = before place

/-- A durable or the bucket is there and is not what is wanted. -/
def Conflicting : Prop :=
  ∃ place config held, (∀ name, place ≠ .stream name) ∧ wanted place = some config ∧ start place = some held ∧ held ≠ config

end Invariants

section Requests

variable {start broker later moved : Broker} {place : Place} {config : place.Held}

theorem Standing.refl (broker : Broker) : Standing broker broker := fun _ _ _ there => there

theorem Standing.trans {first second third : Broker} (before : Standing first second) (after : Standing second third) :
    Standing first third :=
  fun place held fixed there => after place held fixed (before place held fixed there)

theorem Sparing.refl (broker : Broker) : Sparing broker broker := ⟨.refl broker,fun _ _ => rfl⟩

theorem Kept.absent (kept : Kept start broker) (fixed : wanted place = some config) (none_ : broker place = none) :
    start place = none := by
  rcases kept place config fixed with same | ⟨absent,_⟩
  · rw [← same,none_]
  · exact absent

theorem Kept.clear (kept : Kept start broker) (fixed : wanted place = some config) (absent : start place = none) :
    broker place = none ∨ broker place = some config := by
  rcases kept place config fixed with same | ⟨_,new⟩
  · exact Or.inl (same.trans absent)
  · exact Or.inr new

theorem Kept.origin {held : place.Held} (kept : Kept start broker) (fixed : wanted place = some config)
    (there : broker place = some held) : held = config ∨ start place = some held := by
  rcases kept place config fixed with same | ⟨_,new⟩
  · exact Or.inr (same ▸ there)
  · exact Or.inl (Option.some.inj (there.symm.trans new))

theorem update_self (there : broker place = some config) : Function.update broker place (some config) = broker := by
  rw [← there]
  exact Function.update_eq_self place broker

theorem storeNew_other {held : place.Held} (there : broker place = some held) (other : held ≠ config) :
    broker.storeNew place config = (.error (.failed "stream name already in use with a different configuration"),broker) := by
  rw [Broker.storeNew,there]
  exact if_neg other

/-- Where nothing else is, a request to create stores what it is given, unless the stream is missing. -/
theorem create_clear (clear : broker place = none ∨ broker place = some config) :
    broker.create place config = (.ok config,Function.update broker place (some config)) ∨
      (∃ stream name, place = .consumer stream name ∧ broker (.stream stream) = none) ∧
        broker.create place config = (.error (.notFound "stream not found"),broker) := by
  have new (given : broker.create place config = broker.storeNew place config) :
      broker.create place config = (.ok config,Function.update broker place (some config)) := by
    rw [given,Broker.storeNew]
    rcases clear with none_ | there
    · rw [none_]
      rfl
    · rw [there]
      simp only [if_true,update_self there]
  cases place with
  | stream name => exact Or.inl (new rfl)
  | bucket name => exact Or.inl (new rfl)
  | consumer stream name =>
    rw [Broker.create]
    split
    · exact Or.inl rfl
    · rename_i missing
      exact Or.inr ⟨⟨stream,name,rfl,Option.not_isSome_iff_eq_none.mp missing⟩,rfl⟩

theorem kept_update (kept : Kept start broker) (fixed : wanted place = some config)
    (clear : broker place = none ∨ broker place = some config) :
    Kept start (Function.update broker place (some config)) ∧ Sparing broker (Function.update broker place (some config)) := by
  refine ⟨fun other wish wished => ?_,fun other held _ there => ?_,fun other unwanted => ?_⟩
  · by_cases same : other = place
    · subst same
      obtain rfl := Option.some.inj (fixed.symm.trans wished)
      rw [Function.update_self]
      rcases clear with none_ | there
      · exact Or.inr ⟨kept.absent fixed none_,rfl⟩
      · exact (kept other config wished).imp there.symm.trans fun new => ⟨new.1,rfl⟩
    · rw [Function.update_of_ne same]
      exact kept other wish wished
  · by_cases same : other = place
    · subst same
      rw [Function.update_self]
      rcases clear with none_ | found
      · rw [none_] at there
        cases there
      · exact found.symm.trans there
    · rwa [Function.update_of_ne same]
  · refine Function.update_of_ne (fun same => ?_) ..
    subst same
    rw [fixed] at unwanted
    cases unwanted

/-- A request to create what is wanted, where nothing else is, before or after it is carried out. -/
theorem serve_create {fate : Fate} {answer : Except Fault place.Held} (kept : Kept start broker) (fixed : wanted place = some config)
    (clear : broker place = none ∨ broker place = some config)
    (served : serve broker fate (.create place config) = some (answer,moved)) :
    Kept start moved ∧ Sparing broker moved ∧ (∀ held, answer = .ok held → held = config ∧ moved place = some config) ∧
      (fate = .served → (∀ stream name, place = .consumer stream name → (broker (.stream stream)).isSome = true) →
        answer = .ok config) := by
  have whole : Kept start (broker.create place config).2 ∧ Sparing broker (broker.create place config).2 := by
    rcases create_clear clear with made | ⟨_,refused⟩
    · rw [made]
      exact kept_update kept fixed clear
    · rw [refused]
      exact ⟨kept,.refl broker⟩
  obtain ⟨rfl,rfl⟩ := Prod.mk.inj (Option.some.inj served)
  cases fate with
  | served =>
    refine ⟨whole.1,whole.2,fun held value => ?_,fun _ ready => ?_⟩
    · have stored : (broker.create place config).1 = .ok held := value
      change held = config ∧ (broker.create place config).2 place = some config
      rcases create_clear clear with made | ⟨_,refused⟩
      · rw [made] at stored ⊢
        exact ⟨(Except.ok.inj stored).symm,Function.update_self ..⟩
      · rw [refused] at stored
        cases stored
    · change (broker.create place config).1 = .ok config
      rcases create_clear clear with made | ⟨⟨stream,name,rfl,missing⟩,_⟩
      · rw [made]
      · have there := ready stream name rfl
        rw [missing] at there
        cases there
  | refused text => exact ⟨kept,.refl broker,nofun,nofun⟩
  | lost text => exact ⟨whole.1,whole.2,nofun,nofun⟩

end Requests

section Programs

variable (start : Broker) (Allowed : Fate → Prop) (Faulty : Prop)

/-- A program of one start, among others -/
abbrev Secures {α : Type} (after : α → Broker → Prop) (program : Bus α) (broker : Broker) : Prop :=
  Secure serve Allowed (Kept start) Standing Sparing (either after fun (_ : BusError) _ => Faulty) program.run broker

variable {start Allowed Faulty} (faulty : ∀ fate, Allowed fate → fate = .served ∨ Faulty) {broker : Broker} {place : Place}
  {config : place.Held}
include faulty

theorem secures_info {held : place.Held} (fixed : (wanted place).isSome = true) (there : broker place = some held) :
    Secures start Allowed Faulty (fun found broker => found = held ∧ broker place = some held) (call (.info place)) broker := by
  intro later fate answer moved kept onward allowed served
  obtain ⟨rfl,rfl⟩ := Prod.mk.inj (Option.some.inj served)
  have still := onward place held fixed there
  cases fate with
  | served =>
    refine ⟨kept,.refl later,?_⟩
    simp only [Broker.carryOut,still]
    exact ⟨rfl,still⟩
  | refused text => exact ⟨kept,.refl later,(faulty _ allowed).resolve_left nofun⟩
  | lost text => exact ⟨kept,.refl later,(faulty _ allowed).resolve_left nofun⟩

theorem secures_isFound {name : String} {config : StreamConfig} (fixed : wanted (.stream name) = some config) :
    Secures start Allowed Faulty (fun existed _ => existed = false → Faulty ∨ start (.stream name) = none) (isFound name) broker := by
  intro later fate answer moved kept onward allowed served
  obtain ⟨rfl,rfl⟩ := Prod.mk.inj (Option.some.inj served)
  cases fate with
  | served =>
    refine ⟨kept,.refl later,fun absent => Or.inr (kept.absent fixed ?_)⟩
    change (Except.isOk ((later (.stream name)).elim _ _)) = false at absent
    cases there : later (.stream name) with
    | none => rfl
    | some held =>
      rw [there] at absent
      cases absent
  | refused text => exact ⟨kept,.refl later,fun _ => Or.inl ((faulty _ allowed).resolve_left nofun)⟩
  | lost text => exact ⟨kept,.refl later,fun _ => Or.inl ((faulty _ allowed).resolve_left nofun)⟩

/-- The stream of a durable is there. -/
def Ready (place : Place) (broker : Broker) : Prop :=
  ∀ stream name, place = .consumer stream name → (wanted (.stream stream)).isSome = true ∧ (broker (.stream stream)).isSome = true

omit faulty in
theorem Ready.stays {later : Broker} (onward : Standing broker later) (ready : Ready place broker) : Ready place later := by
  intro stream name same
  obtain ⟨fixed,there⟩ := ready stream name same
  obtain ⟨held,there⟩ := Option.isSome_iff_exists.mp there
  exact ⟨fixed,Option.isSome_of_eq_some (onward _ held fixed there)⟩

theorem secures_create (fixed : wanted place = some config) (absent : start place = none) (ready : Ready place broker) :
    Secures start Allowed Faulty (fun held broker => held = config ∧ broker place = some config) (call (.create place config)) broker := by
  intro later fate answer moved kept onward allowed served
  obtain ⟨kept',sparing,value,answered⟩ := serve_create kept fixed (kept.clear fixed absent) served
  refine ⟨kept',sparing,?_⟩
  cases answer with
  | ok held => exact value held rfl
  | error fault =>
    refine (faulty fate allowed).resolve_left fun given => ?_
    cases answered given fun stream name same => ((ready.stays onward) stream name same).2

theorem secures_getOrCreate (fixed : wanted place = some config) (ready : Ready place broker) :
    Secures start Allowed Faulty (fun found broker => broker place = some found ∧ (found = config ∨ start place = some found))
      (getOrCreate place config) broker := by
  intro later fate answer moved kept onward allowed served
  obtain ⟨rfl,rfl⟩ := Prod.mk.inj (Option.some.inj served)
  cases fate with
  | served =>
    refine ⟨kept,.refl later,?_⟩
    cases there : later place with
    | some held =>
      simp only [Broker.carryOut,there]
      exact ⟨there,kept.origin fixed there⟩
    | none =>
      simp only [Broker.carryOut,there]
      refine (secures_create faulty fixed (kept.absent fixed there) (ready.stays onward)).weaken fun result broker held => ?_
      cases result with
      | ok found => exact ⟨held.1 ▸ held.2,Or.inl held.1⟩
      | error error => exact held
  | refused text => exact ⟨kept,.refl later,(faulty _ allowed).resolve_left nofun⟩
  | lost text => exact ⟨kept,.refl later,(faulty _ allowed).resolve_left nofun⟩

/-- What is stored under the name of a stream, and what a start says of it -/
def Declared (Faulty : Prop) (spec : StreamSpec) (state : StreamState) (broker : Broker) : Prop :=
  ∃ stored, broker (.stream spec.name) = some stored ∧
    (state = .existing (differences stored spec.config) ∨ state = .created ∧ (Faulty ∨ stored = spec.config))

theorem secures_ensure {spec : StreamSpec} (listed : spec = .commandStream ∨ spec = .eventStream) :
    Secures start Allowed Faulty (Declared Faulty spec) (ensure spec) broker := by
  have fixed := wanted_stream listed
  refine Dialogue.secure_try (secures_isFound faulty fixed) fun existed broker known => ?_
  refine Dialogue.secure_try (secures_getOrCreate faulty fixed nofun) fun found broker held => ?_
  obtain ⟨there,origin⟩ := held
  cases existed with
  | false =>
    refine ⟨found,there,Or.inr ⟨rfl,?_⟩⟩
    rcases known rfl with faulty | absent
    · exact Or.inl faulty
    · rw [absent] at origin
      exact Or.inr (origin.resolve_right nofun)
  | true =>
    refine Dialogue.secure_try (secures_info faulty (Option.isSome_of_eq_some fixed) there) fun stored broker same => ?_
    obtain ⟨rfl,there⟩ := same
    exact ⟨stored,there,Or.inl rfl⟩

omit faulty in
theorem Declared.stays {spec : StreamSpec} (listed : spec = .commandStream ∨ spec = .eventStream) {state : StreamState}
    {later : Broker} (onward : Standing broker later) (declared : Declared Faulty spec state broker) :
    Declared Faulty spec state later := by
  obtain ⟨stored,there,said⟩ := declared
  exact ⟨stored,onward _ stored (Option.isSome_of_eq_some (wanted_stream listed)) there,said⟩

def StreamsThere (broker : Broker) : Prop :=
  ∀ name, name = StreamSpec.commandStream.name ∨ name = StreamSpec.eventStream.name → ∃ stored, broker (.stream name) = some stored

omit faulty in
theorem fixed_stream {name : String} (listed : name = StreamSpec.commandStream.name ∨ name = StreamSpec.eventStream.name) :
    (wanted (.stream name)).isSome = true := by
  rcases listed with rfl | rfl <;> rfl

omit faulty in
theorem StreamsThere.stays {later : Broker} (onward : Standing broker later) (there : StreamsThere broker) : StreamsThere later := by
  intro name listed
  obtain ⟨stored,there⟩ := there name listed
  exact ⟨stored,onward _ stored (fixed_stream listed) there⟩

omit faulty in
theorem StreamsThere.ready {spec : FixedConsumerSpec} (listed : spec ∈ fixedConsumers) (there : StreamsThere broker) :
    Ready spec.place broker := by
  rintro _ _ ⟨⟩
  obtain ⟨stored,there⟩ := there spec.stream (stream_of_consumer spec listed)
  exact ⟨fixed_stream (stream_of_consumer spec listed),Option.isSome_of_eq_some there⟩

def Placed (specs : List FixedConsumerSpec) (broker : Broker) : Prop := ∀ spec ∈ specs, broker spec.place = some spec.config

variable (conflict : Conflicting start → Faulty)
include conflict

omit faulty conflict in
theorem Placed.stays {specs : List FixedConsumerSpec} {later : Broker} (listed : ∀ spec ∈ specs, spec ∈ fixedConsumers)
    (onward : Standing broker later) (placed : Placed specs broker) : Placed specs later :=
  fun spec member => onward _ _ (Option.isSome_of_eq_some (wanted_consumer (listed spec member))) (placed spec member)

/-- On the specs: those before are in place, and stay there. -/
theorem secures_ensureFixedConsumers (specs : List FixedConsumerSpec) (listed : ∀ spec ∈ specs, spec ∈ fixedConsumers)
    (there : StreamsThere broker) :
    Secures start Allowed Faulty (fun _ => Placed specs) (ensureFixedConsumers specs) broker := by
  induction specs generalizing broker with
  | nil => exact fun spec member => absurd member List.not_mem_nil
  | cons spec specs ih =>
    have known := listed spec List.mem_cons_self
    have fixed := wanted_consumer known
    obtain ⟨stored,stream⟩ := there spec.stream (stream_of_consumer spec known)
    refine Dialogue.secure_try ((secures_info faulty (fixed_stream (stream_of_consumer spec known)) stream).frame_value
      StreamsThere (fun _ _ sparing => sparing.1) (fun _ _ => StreamsThere.stays) there) fun _ broker held => ?_
    refine Dialogue.secure_try ((secures_getOrCreate faulty fixed (held.2.ready known)).frame_value
      StreamsThere (fun _ _ sparing => sparing.1) (fun _ _ => StreamsThere.stays) held.2) fun found broker held => ?_
    obtain ⟨⟨placed,origin⟩,there⟩ := held
    cases differs : spec.differs found with
    | true =>
      simp only [if_true]
      have other : found ≠ spec.config := fun same => by
        rw [differs_eq_false.mpr same] at differs
        cases differs
      exact conflict ⟨spec.place,spec.config,found,nofun,fixed,origin.resolve_left other,other⟩
    | false =>
      obtain rfl := differs_eq_false.mp differs
      refine ((ih (fun later member => listed later (List.mem_cons_of_mem _ member)) there).frame_value
        (fun broker => broker spec.place = some spec.config) (fun _ _ sparing => sparing.1)
        (fun _ _ onward => onward _ _ (Option.isSome_of_eq_some fixed)) placed).weaken ?_
      intro result broker held
      cases result with
      | ok _ =>
        intro other member
        rcases List.mem_cons.mp member with rfl | member
        · exact held.2
        · exact held.1 other member
      | error error => exact held

theorem secures_ensureCompletionBucket :
    Secures start Allowed Faulty (fun _ broker => broker (.bucket completionBucket.bucket) = some completionBucket)
      ensureCompletionBucket broker := by
  have fixed : wanted (.bucket completionBucket.bucket) = some completionBucket := by
    rw [wanted,if_pos rfl]
    rfl
  have called : Secures start Allowed Faulty (fun _ broker => broker (.bucket completionBucket.bucket) = some completionBucket)
      (call (.create (.bucket completionBucket.bucket) completionBucket)) broker := by
    intro later fate answer moved kept onward allowed served
    by_cases clear : later (.bucket completionBucket.bucket) = none ∨
      later (.bucket completionBucket.bucket) = some completionBucket
    · obtain ⟨kept',sparing,value,answered⟩ := serve_create kept fixed clear served
      refine ⟨kept',sparing,?_⟩
      cases answer with
      | ok held => exact (value held rfl).2
      | error fault => exact (faulty fate allowed).resolve_left fun given => nomatch answered given nofun
    · obtain ⟨held,there⟩ := Option.ne_none_iff_exists'.mp (not_or.mp clear).1
      have other : held ≠ completionBucket := fun same => clear (Or.inr (same ▸ there))
      have faulted := conflict ⟨_,_,held,nofun,fixed,(kept.origin fixed there).resolve_left other,other⟩
      have refused : later.create (.bucket completionBucket.bucket) completionBucket = _ := storeNew_other there other
      obtain ⟨rfl,rfl⟩ := Prod.mk.inj (Option.some.inj served)
      cases fate with
      | served =>
        simp only [Broker.carryOut,refused]
        exact ⟨kept,.refl later,faulted⟩
      | refused text => exact ⟨kept,.refl later,faulted⟩
      | lost text =>
        simp only [Broker.carryOut,refused]
        exact ⟨kept,.refl later,faulted⟩
  exact Dialogue.secure_try called fun _ _ there => there

theorem secures_further {before specs : List FixedConsumerSpec} (listed : ∀ spec ∈ before ++ specs, spec ∈ fixedConsumers)
    (holds : Placed before broker ∧ StreamsThere broker) :
    Secures start Allowed Faulty (fun _ broker => Placed (before ++ specs) broker ∧ StreamsThere broker)
      (ensureFixedConsumers specs) broker := by
  have earlier := fun spec member => listed spec (List.mem_append_left _ member)
  refine ((secures_ensureFixedConsumers faulty conflict specs (fun spec member => listed spec (List.mem_append_right _ member))
    holds.2).frame_value (fun broker => Placed before broker ∧ StreamsThere broker) (fun _ _ sparing => sparing.1)
      (fun _ _ onward both => ⟨both.1.stays earlier onward,both.2.stays onward⟩) holds).weaken fun result broker held => ?_
  cases result with
  | ok _ => exact ⟨List.forall_mem_append.mpr ⟨held.2.1,held.1⟩,held.2.2⟩
  | error error => exact held

/-- All that a start makes sure of is in place. -/
structure InPlace (broker : Broker) : Prop where
  streams : StreamsThere broker
  consumers : Placed fixedConsumers broker
  bucket : broker (.bucket completionBucket.bucket) = some completionBucket

theorem secures_ensureFixedTopology (there : StreamsThere broker) :
    Secures start Allowed Faulty (fun _ => InPlace) ensureFixedTopology broker := by
  have parts : (∀ spec ∈ socialCaptureConsumers ++ telegramNotificationConsumers ++ aiArchiveReportConsumers,
      spec ∈ fixedConsumers) := fun spec member => List.mem_append_left _ member
  refine Dialogue.secure_try (secures_further faulty conflict (fun spec member => parts spec ?_)
    ⟨fun spec member => absurd member List.not_mem_nil,there⟩) fun _ broker held => ?_
  · exact List.mem_append_left _ (List.mem_append_left _ member)
  refine Dialogue.secure_try (secures_further faulty conflict (fun spec member => parts spec (List.mem_append_left _ member)) held)
    fun _ broker held => ?_
  refine Dialogue.secure_try (secures_further faulty conflict parts held) fun _ broker held => ?_
  refine Dialogue.secure_try (secures_further faulty conflict (fun spec member => member) held) fun _ broker held => ?_
  refine ((secures_ensureCompletionBucket faulty conflict).frame_value
    (fun broker => Placed fixedConsumers broker ∧ StreamsThere broker) (fun _ _ sparing => sparing.1)
    (fun _ _ onward both => ⟨both.1.stays (fun spec member => member) onward,both.2.stays onward⟩) held).weaken
      fun result broker held => ?_
  cases result with
  | ok _ => exact ⟨held.2.2,held.2.1,held.1⟩
  | error error => exact held

/-- What a start has to log of the streams that a broker holds -/
def reported (broker : Broker) : List (String × List String) :=
  [StreamSpec.commandStream,StreamSpec.eventStream].flatMap fun spec =>
    (broker (.stream spec.name)).elim [] fun stored => warned spec (differences stored spec.config)

/-- A start succeeded, with what it logged. -/
structure Started (Faulty : Prop) (logged : List (String × List String)) (broker : Broker) : Prop extends InPlace broker where
  reports : logged.Sublist (reported broker)
  complete : Faulty ∨ logged = reported broker

omit faulty conflict in
theorem differences_self (config : StreamConfig) : differences config config = [] := by simp [differences]

omit faulty conflict in
theorem Declared.reports {spec : StreamSpec} {state : StreamState} (declared : Declared Faulty spec state broker) :
    ∃ stored, broker (.stream spec.name) = some stored ∧
      (warnings spec state).Sublist (warned spec (differences stored spec.config)) ∧
      (Faulty ∨ warnings spec state = warned spec (differences stored spec.config)) := by
  obtain ⟨stored,there,rfl | ⟨rfl,said⟩⟩ := declared
  · exact ⟨stored,there,List.Sublist.refl _,Or.inr rfl⟩
  · refine ⟨stored,there,List.nil_sublist _,said.imp_right ?_⟩
    rintro rfl
    rw [differences_self]
    rfl

theorem secures_ensureFixedBusTopology (broker : Broker) :
    Secure serve Allowed (Kept start) Standing Sparing (either (Started Faulty) fun _ _ => Faulty) ensureFixedBusTopology.run broker := by
  have declares {spec : StreamSpec} (listed : spec = .commandStream ∨ spec = .eventStream) (broker : Broker)
      (text : PublishError → String) : Secure serve Allowed (Kept start) Standing Sparing
        (either (Declared Faulty spec) fun _ _ => Faulty) ((ensureStream spec).adapt text).run broker :=
    Dialogue.secure_adapt (Dialogue.secure_adapt (secures_ensure faulty listed) fun _ _ failed => failed) fun _ _ failed => failed
  refine Dialogue.secure_try (declares (Or.inl rfl) broker _) fun commands broker first => ?_
  refine Dialogue.secure_try ((declares (Or.inr rfl) broker _).frame_value (Declared Faulty .commandStream commands)
    (fun _ _ sparing => sparing.1) (fun _ _ => Declared.stays (Or.inl rfl)) first) fun events broker both => ?_
  have there : StreamsThere broker := by
    obtain ⟨⟨eventsStored,eventsThere,_⟩,commandsStored,commandsThere,_⟩ := both
    rintro name (rfl | rfl)
    · exact ⟨commandsStored,commandsThere⟩
    · exact ⟨eventsStored,eventsThere⟩
  refine Dialogue.secure_try ((Dialogue.secure_adapt (secures_ensureFixedTopology faulty conflict there)
    fun _ _ failed => failed).frame_value
      (fun broker => Declared Faulty .commandStream commands broker ∧ Declared Faulty .eventStream events broker)
      (fun _ _ sparing => sparing.1)
      (fun _ _ onward both => ⟨both.1.stays (Or.inl rfl) onward,both.2.stays (Or.inr rfl) onward⟩) ⟨both.2,both.1⟩)
    fun _ broker held => ?_
  obtain ⟨inPlace,first,second⟩ := held
  obtain ⟨stored,there,some_,all_⟩ := first.reports
  obtain ⟨stored',there',some_',all_'⟩ := second.reports
  have said : reported broker = warned .commandStream (differences stored StreamSpec.commandStream.config) ++
      warned .eventStream (differences stored' StreamSpec.eventStream.config) := by
    rw [reported,List.flatMap_cons,List.flatMap_cons,List.flatMap_nil,List.append_nil,there,there']
    rfl
  refine ⟨inPlace,said ▸ some_.append some_',?_⟩
  rcases all_ with failed | all_
  · exact Or.inl failed
  rcases all_' with failed | all_'
  · exact Or.inl failed
  · exact Or.inr (said ▸ congrArg₂ _ all_ all_')

end Programs

section Runs

variable {start broker : Broker}

/-- What others do at the broker -/
structure Elsewhere where
  place : Place
  config : Option place.Held

/-- The others leave alone what a start wants. -/
def elsewhere (broker : Broker) (move : Elsewhere) : Option Broker :=
  if (wanted move.place).isSome then none else some (Function.update broker move.place move.config)

abbrev Starts : Type := Tasks.System Broker (Option (Dialogue BusRequest BusRequest.Answer (Except String (List (String × List String)))))

def starts : Tasks.Machine Broker (Option (Dialogue BusRequest BusRequest.Answer (Except String (List (String × List String)))))
    Fate Unit Elsewhere :=
  Dialogue.machine serve (fun _ => ensureFixedBusTopology.run) elsewhere

/-- No start is under way. -/
def calm (broker : Broker) : Starts := ⟨broker,fun _ => none⟩

theorem elsewhere_cases {move : Elsewhere} {later : Broker} (moved : elsewhere broker move = some later) :
    wanted move.place = none ∧ later = Function.update broker move.place move.config := by
  rw [elsewhere] at moved
  split at moved
  · cases moved
  · rename_i free
    exact ⟨Option.not_isSome_iff_eq_none.mp free,(Option.some.inj moved).symm⟩

theorem elsewhere_wanted {move : Elsewhere} {later : Broker} (moved : elsewhere broker move = some later) {place : Place}
    (fixed : (wanted place).isSome = true) : later place = broker place := by
  obtain ⟨free,rfl⟩ := elsewhere_cases moved
  refine Function.update_of_ne (fun same => ?_) ..
  rw [same,free] at fixed
  cases fixed

theorem InPlace.stays {later : Broker} (onward : Standing broker later) (inPlace : InPlace broker) : InPlace later where
  streams := inPlace.streams.stays onward
  consumers := inPlace.consumers.stays (fun _ member => member) onward
  bucket := onward _ _ (by decide +kernel) inPlace.bucket

theorem reported_stays {later : Broker} (onward : Standing broker later) (there : StreamsThere broker) :
    reported later = reported broker := by
  obtain ⟨commands,stored⟩ := there _ (Or.inl rfl)
  obtain ⟨events,stored'⟩ := there _ (Or.inr rfl)
  have still := onward _ commands (fixed_stream (Or.inl rfl)) stored
  have still' := onward _ events (fixed_stream (Or.inr rfl)) stored'
  simp only [reported,List.flatMap_cons,List.flatMap_nil,stored,stored',still,still']

theorem Started.stays {Faulty : Prop} {logged : List (String × List String)} {later : Broker} (onward : Standing broker later)
    (started : Started Faulty logged broker) : Started Faulty logged later where
  toInPlace := started.toInPlace.stays onward
  reports := reported_stays onward started.streams ▸ started.reports
  complete := reported_stays onward started.streams ▸ started.complete

theorem starts_keep (start : Broker) (Allowed : Fate → Prop) (Faulty : Prop) (faulty : ∀ fate, Allowed fate → fate = .served ∨ Faulty)
    (conflict : Conflicting start → Faulty) :
    starts.Keeps (fun _ action => Dialogue.Meets Allowed action) (Kept start) (fun _ => Standing)
      (fun broker _ task => ∀ body ∈ task,
        Secure serve Allowed (Kept start) Standing Sparing (either (Started Faulty) fun _ _ => Faulty) body broker) := by
  refine Dialogue.keeps (fun _ _ sparing => sparing.1) Standing.refl (fun _ _ _ => Standing.trans) ?_
    (fun _ broker _ => secures_ensureFixedBusTopology faulty conflict broker) ?_
  · intro result before later _ onward held
    cases result with
    | ok logged => exact held.stays onward
    | error error => exact held
  · intro before move later kept moved
    refine ⟨fun place config fixed => ?_,fun place held fixed there => (elsewhere_wanted moved fixed).trans there⟩
    rw [elsewhere_wanted moved (Option.isSome_of_eq_some fixed)]
    exact kept place config fixed

/-- Where all is in place, what was there at first was not in the way. -/
theorem not_conflicting (kept : Kept start broker) (inPlace : InPlace broker) : ¬Conflicting start := by
  rintro ⟨place,config,held,other,fixed,there,differs⟩
  have placed : broker place = some config := by
    cases place with
    | stream name => exact absurd rfl (other name)
    | consumer stream name =>
      obtain ⟨spec,found,rfl⟩ := Option.map_eq_some_iff.mp fixed
      have named := List.find?_some found
      rw [Bool.and_eq_true,beq_iff_eq,beq_iff_eq] at named
      obtain ⟨rfl,rfl⟩ := named
      exact inPlace.consumers spec (List.mem_of_find?_eq_some found)
    | bucket name =>
      rw [wanted] at fixed
      split at fixed
      · rename_i same
        subst same
        obtain rfl := Option.some.inj fixed
        exact inPlace.bucket
      · cases fixed
  rcases kept place config fixed with same | ⟨absent,_⟩
  · exact differs (Option.some.inj (there.symm.trans (same.symm.trans placed)))
  · rw [there] at absent
    cases absent

/-- What is to be logged was there at first. -/
theorem reported_kept (kept : Kept start broker) : reported broker = reported start := by
  have same {spec : StreamSpec} (listed : spec = .commandStream ∨ spec = .eventStream) :
      ((broker (.stream spec.name)).elim [] fun stored => warned spec (differences stored spec.config)) =
        (start (.stream spec.name)).elim [] fun stored => warned spec (differences stored spec.config) := by
    rcases kept _ _ (wanted_stream listed) with same | ⟨absent,new⟩
    · rw [same]
    · rw [absent,new]
      change warned spec (differences spec.config spec.config) = []
      rw [differences_self]
      rfl
  simp only [reported,List.flatMap_cons,List.flatMap_nil,same (Or.inl rfl),same (Or.inr rfl)]

end Runs

section Bounds

open Dialogue (Within within_done within_try within_adapt)

theorem within_call (request : BusRequest) : Within 1 (call request).run := fun _ => within_done _

theorem within_getOrCreate (place : Place) (config : place.Held) : Within 2 (getOrCreate place config).run := by
  intro answer
  match answer with
  | .ok held => exact within_done _
  | .error (.notFound text) => exact within_call _
  | .error (.failed text) => exact within_done _

theorem within_ensure (spec : StreamSpec) : Within 4 (ensure spec).run := by
  have first : Within 1 (isFound spec.name).run := fun _ => within_done _
  change Within (1 + (2 + 1)) _
  refine within_try first fun existed => within_try (within_getOrCreate _ _) fun _ => ?_
  cases existed with
  | false => exact within_done _
  | true =>
    change Within (1 + 0) _
    exact within_try (within_call _) fun _ => within_done _

theorem within_ensureFixedConsumers (specs : List FixedConsumerSpec) :
    Within (3 * specs.length) (ensureFixedConsumers specs).run := by
  induction specs with
  | nil => exact within_done _
  | cons spec specs ih =>
    have counted : 3 * (spec :: specs).length = 1 + (2 + 3 * specs.length) := by
      rw [List.length_cons]
      omega
    rw [counted]
    refine within_try (within_call _) fun _ => within_try (within_getOrCreate _ _) fun found => ?_
    cases differs : spec.differs found with
    | true => exact within_done _
    | false => exact ih

/-- The requests of a start -/
theorem within_ensureFixedBusTopology : Within 117 ensureFixedBusTopology.run := by
  change Within (4 + (4 + ((9 + (3 + (6 + (90 + (1 + 0))))) + 0))) _
  refine within_try (within_adapt (within_adapt (within_ensure _))) fun _ =>
    within_try (within_adapt (within_adapt (within_ensure _))) fun _ =>
      within_try (within_adapt ?_) fun _ => within_done _
  refine within_try (within_ensureFixedConsumers socialCaptureConsumers) fun _ =>
    within_try (within_ensureFixedConsumers telegramNotificationConsumers) fun _ =>
      within_try (within_ensureFixedConsumers aiArchiveReportConsumers) fun _ =>
        within_try (within_ensureFixedConsumers domainConsumers) fun _ => within_try (within_call _) fun _ => within_done _

end Bounds

section Results

variable {start : Broker} {next : Starts}

/-- Every request is answered. -/
def Answered (actions : List (Tasks.Action Fate Unit Elsewhere)) : Prop :=
  ∀ action ∈ actions, Dialogue.Meets (fun fate => fate = .served) action

theorem calm_sound (start : Broker) {Allowed : Fate → Prop} {Faulty : Prop} :
    Dialogue.Sound serve Allowed (Kept start) Standing Sparing (either (Started Faulty) fun _ _ => Faulty) (calm start) := by
  refine ⟨fun _ _ _ => Or.inl rfl,fun _ _ stored => ?_⟩
  cases stored

theorem starts_sound (start : Broker) (Allowed : Fate → Prop) (Faulty : Prop)
    (faulty : ∀ fate, Allowed fate → fate = .served ∨ Faulty) (conflict : Conflicting start → Faulty)
    (actions : List (Tasks.Action Fate Unit Elsewhere)) (met : ∀ action ∈ actions, Dialogue.Meets Allowed action)
    (ran : StateMachine.run starts.step (calm start) actions = some next) :
    Dialogue.Sound serve Allowed (Kept start) Standing Sparing (either (Started Faulty) fun _ _ => Faulty) next :=
  (starts_keep start Allowed Faulty faulty conflict).run actions
    (StateMachine.along_of_forall _ _ _ _ fun _ action member => met action member)
    (calm_sound start) ran

/-- A broker whose first durable reads another subject -/
def renamedFilter : Broker :=
  Function.update (Function.update (fun _ => none) (.stream "ratatoskr_commands") (some StreamSpec.commandStream.config))
    (.consumer "ratatoskr_commands" "ratatoskr_x_browser_capture")
    (some { (FixedConsumerSpec.standard .commandStream "ratatoskr_x_browser_capture" "cmd.x.capture.requested.v1").config with
      filterSubject := "cmd.content.capture.requested.v1" })

/-- Two starts, of which one goes on to its end -/
def refusedStart : List (Tasks.Action Fate Unit Elsewhere) :=
  [.begin_ 0 (),.begin_ 1 (),.resume 1 .served] ++ List.replicate 8 (.resume 0 .served)

end Results

end Ratatoskr.Edge
