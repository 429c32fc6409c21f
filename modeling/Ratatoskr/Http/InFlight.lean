import Mathlib.Data.List.Perm.Basic
import Ratatoskr.Contracts
import Ratatoskr.Lib.Run

/-! The two counters of the requests in flight. `shed` gives its count back through a guard, however its
request ends; `observe` gives its count back after the response, which a dropped request never reaches. -/
namespace Ratatoskr.Http

open StateMachine

/-- How far a request inside `observe` has come: before `shed`, refused or let through by it, or answered. -/
inductive Stage where
  | outer | refusing | running | answered
deriving DecidableEq

/-- The guard of `shed` is alive. -/
def Stage.guarded : Stage → Bool
  | .refusing | .running => true
  | .outer | .answered => false

/-- `Concurrency::new` -/
def concurrencyBound (limit : Nat) : Nat := max limit 1

/-- `public.max_concurrent_requests` that validation takes -/
def isConcurrencyLimit (limit : Nat) : Bool := 1 ≤ limit && limit ≤ 4096

/-- One public router: `inFlight` is what shutdown reads, `concurrent` is the count of `Concurrency`.
`requests` are inside `observe`; `closings` pairs what shutdown reported with how many they were then. -/
structure Listener where
  inFlight : Int
  concurrent : Int
  requests : List Stage
  closings : List (Int × Nat)
deriving DecidableEq

/-- What happens to the request at a place of the list. A drop is a client that disconnects; `panicked` and
`timedOut` unwind to `CatchPanicLayer` and to `TimeoutLayer`, inside `observe`. -/
inductive RequestEvent where
  | start
  | shed (index : Nat)
  | finish (index : Nat)
  | panicked (index : Nat)
  | timedOut (index : Nat)
  | complete (index : Nat)
  | drop (index : Nat)
  | close
deriving DecidableEq

namespace Listener

def initial : Listener := ⟨0,0,[],[]⟩

/-- What `Drop` of `InFlight` leaves of the count, when the guard is there. -/
def released (s : Listener) (stage : Stage) : Int := if stage.guarded then s.concurrent - 1 else s.concurrent

/-- `next.run` of `observe` ends with a response, whoever wrote it. -/
def respond (s : Listener) (index : Nat) (stage : Stage) : Listener :=
  { s with concurrent := s.released stage, requests := s.requests.set index .answered }

def unwind (s : Listener) (index : Nat) : Listener :=
  match s.requests[index]? with
  | none | some .answered => s
  | some stage => s.respond index stage

/-- An event that does not apply to the request changes nothing. -/
def step (limit : Nat) (s : Listener) : RequestEvent → Listener
  | .start => { s with inFlight := s.inFlight + 1, requests := s.requests ++ [.outer] }
  | .shed index =>
    match s.requests[index]? with
    | some .outer =>
      { s with
        concurrent := s.concurrent + 1
        requests := s.requests.set index (if concurrencyBound limit ≤ s.concurrent then .refusing else .running) }
    | _ => s
  | .finish index =>
    match s.requests[index]? with
    | some .running => s.respond index .running
    | some .refusing => s.respond index .refusing
    | _ => s
  | .panicked index => s.unwind index
  | .timedOut index => s.unwind index
  | .complete index =>
    match s.requests[index]? with
    | some .answered => { s with inFlight := s.inFlight - 1, requests := s.requests.eraseIdx index }
    | _ => s
  -- no code of `observe` runs
  | .drop index =>
    match s.requests[index]? with
    | some stage => { s with concurrent := s.released stage, requests := s.requests.eraseIdx index }
    | none => s
  | .close => { s with closings := s.closings ++ [(s.inFlight,s.requests.length)] }

/-- Both counters are the numbers of the requests inside, and the bound is kept. -/
structure Counts (limit : Nat) (s : Listener) : Prop where
  observed : s.inFlight = s.requests.length
  guarded : s.concurrent = s.requests.countP Stage.guarded
  bounded : s.requests.count .running ≤ limit
  reported : ∀ closing ∈ s.closings, closing.1 = closing.2

end Listener

section Places

variable {α : Type} {places : List α} {index : Nat} {here : α} (found : places[index]? = some here) (counted : α → Bool)

include found

theorem length_eraseIdx_place : (places.eraseIdx index).length + 1 = places.length := by
  obtain ⟨inside,rfl⟩ := List.getElem?_eq_some_iff.mp found
  exact (List.getElem_cons_eraseIdx_perm inside).length_eq

theorem countP_eraseIdx_place :
    (places.eraseIdx index).countP counted + (if counted here then 1 else 0) = places.countP counted := by
  obtain ⟨inside,rfl⟩ := List.getElem?_eq_some_iff.mp found
  rw [← List.countP_cons]
  exact (List.getElem_cons_eraseIdx_perm inside).countP_eq counted

theorem countP_set_place (other : α) :
    (places.set index other).countP counted + (if counted here then 1 else 0) =
      places.countP counted + (if counted other then 1 else 0) := by
  have erased := countP_eraseIdx_place found counted
  obtain ⟨inside,_⟩ := List.getElem?_eq_some_iff.mp found
  have placed := (List.set_perm_cons_eraseIdx inside other).countP_eq counted
  rw [List.countP_cons] at placed
  omega

end Places

namespace Listener

variable {limit : Nat} {s : Listener} {index : Nat} {stage : Stage}

/-- What holds of a listener whatever its requests do. -/
structure Guarded (limit : Nat) (s : Listener) : Prop where
  guarded : s.concurrent = s.requests.countP Stage.guarded
  bounded : s.requests.count .running ≤ limit

theorem running_le_guarded (requests : List Stage) : requests.count .running ≤ requests.countP Stage.guarded := by
  rw [List.count]
  apply List.countP_mono_left
  intro stage _ running
  rw [beq_iff_eq.mp running]
  rfl

theorem Guarded.respond (kept : s.Guarded limit) (found : s.requests[index]? = some stage) :
    (s.respond index stage).Guarded limit := by
  have guards := countP_set_place found Stage.guarded .answered
  have runs := countP_set_place found (· == .running) .answered
  have bounded := kept.bounded
  rw [List.count] at bounded
  constructor
  · have before := kept.guarded
    cases stage <;> simp [Listener.respond,released,Stage.guarded] at guards ⊢ <;> omega
  · rw [List.count]
    cases stage <;> simp [Listener.respond] at runs ⊢ <;> omega

theorem Guarded.unwind (kept : s.Guarded limit) (index : Nat) : (s.unwind index).Guarded limit := by
  unfold Listener.unwind
  split
  · exact kept
  · exact kept
  · exact kept.respond ‹_›

theorem Guarded.erase (kept : s.Guarded limit) (found : s.requests[index]? = some stage) (count : Int) :
    Guarded limit { s with
      inFlight := count
      concurrent := s.released stage
      requests := s.requests.eraseIdx index } := by
  have guards := countP_eraseIdx_place found Stage.guarded
  have runs := countP_eraseIdx_place found (· == .running)
  have bounded := kept.bounded
  rw [List.count] at bounded
  constructor
  · have before := kept.guarded
    cases stage <;> simp [released,Stage.guarded] at guards ⊢ <;> omega
  · rw [List.count]
    dsimp only
    omega

/-- A request is let through only while fewer than `limit` guards are alive. -/
theorem Guarded.shed (valid : isConcurrencyLimit limit = true) (kept : s.Guarded limit)
    (found : s.requests[index]? = some .outer) : Guarded limit { s with
      concurrent := s.concurrent + 1
      requests := s.requests.set index (if concurrencyBound limit ≤ s.concurrent then .refusing else .running) } := by
  have before := kept.guarded
  have bounded := kept.bounded
  have fewer := running_le_guarded s.requests
  simp only [isConcurrencyLimit,Bool.and_eq_true,decide_eq_true_eq] at valid
  have bound : concurrencyBound limit = limit := Nat.max_eq_left valid.1
  split
  · have guards := countP_set_place found Stage.guarded .refusing
    have runs := countP_set_place found (· == .running) .refusing
    rw [List.count] at bounded fewer
    simp [Stage.guarded] at guards runs
    exact ⟨by dsimp only; omega,by rw [List.count]; dsimp only; omega⟩
  · have guards := countP_set_place found Stage.guarded .running
    have runs := countP_set_place found (· == .running) .running
    rw [List.count] at bounded fewer
    simp [Stage.guarded] at guards runs
    exact ⟨by dsimp only; omega,by rw [List.count]; dsimp only; omega⟩

theorem Guarded.step (valid : isConcurrencyLimit limit = true) (kept : s.Guarded limit) (event : RequestEvent) :
    (s.step limit event).Guarded limit := by
  cases event with
  | start =>
    constructor
    · simp [Listener.step,kept.guarded,Stage.guarded]
    · simpa [Listener.step] using kept.bounded
  | shed index =>
    simp only [Listener.step]
    split
    · exact kept.shed valid ‹_›
    · exact kept
  | finish index =>
    simp only [Listener.step]
    split
    · exact kept.respond ‹_›
    · exact kept.respond ‹_›
    · exact kept
  | panicked index => exact kept.unwind index
  | timedOut index => exact kept.unwind index
  | complete index =>
    simp only [Listener.step]
    split
    · exact kept.erase ‹s.requests[index]? = some .answered› (s.inFlight - 1)
    · exact kept
  | drop index =>
    simp only [Listener.step]
    split
    · exact kept.erase ‹_› s.inFlight
    · exact kept
  | close => exact ⟨kept.guarded,kept.bounded⟩

/-- The event drops a request that `observe` has counted. -/
def abandons (s : Listener) : RequestEvent → Bool
  | .drop index => index < s.requests.length
  | _ => false

/-- What a step adds to the count of `observe` it adds to the requests, unless it drops one. -/
theorem observed_step (limit : Nat) (s : Listener) (event : RequestEvent) :
    (s.step limit event).inFlight - (s.step limit event).requests.length =
      s.inFlight - s.requests.length + if s.abandons event then 1 else 0 := by
  have unwound (index : Nat) : (s.unwind index).inFlight - (s.unwind index).requests.length =
      s.inFlight - s.requests.length := by
    unfold Listener.unwind
    split <;> simp [Listener.respond]
  cases event with
  | start =>
    have longer : (s.requests ++ [Stage.outer]).length = s.requests.length + 1 := List.length_append
    simp only [Listener.step,abandons,longer,Bool.false_eq_true,if_false]
    omega
  | shed index =>
    simp only [Listener.step,abandons]
    split <;> simp
  | finish index =>
    simp only [Listener.step,abandons]
    split <;> simp [Listener.respond]
  | panicked index => simpa [Listener.step,abandons] using unwound index
  | timedOut index => simpa [Listener.step,abandons] using unwound index
  | complete index =>
    simp only [Listener.step,abandons]
    split
    · have erased := length_eraseIdx_place ‹s.requests[index]? = some .answered›
      simp
      omega
    · simp
  | drop index =>
    simp only [Listener.step,abandons]
    split
    · rename_i stage found
      have erased := length_eraseIdx_place found
      have inside : index < s.requests.length := (List.getElem?_eq_some_iff.mp found).1
      simp [inside]
      omega
    · rename_i absent
      have outside : ¬index < s.requests.length := by simpa using absent
      simp [outside]
  | close => simp [Listener.step,abandons]

theorem closings_step (s : Listener) (event : RequestEvent) (closing : Int × Nat)
    (reported : closing ∈ (s.step limit event).closings) :
    closing ∈ s.closings ∨ closing = (s.inFlight,s.requests.length) := by
  have unwound (index : Nat) : (s.unwind index).closings = s.closings := by
    unfold Listener.unwind
    split <;> rfl
  cases event with
  | close => simpa [Listener.step] using reported
  | start => exact Or.inl reported
  | panicked index => exact Or.inl (unwound index ▸ reported)
  | timedOut index => exact Or.inl (unwound index ▸ reported)
  | shed index | finish index | complete index | drop index =>
    simp only [Listener.step] at reported
    split at reported <;> exact Or.inl reported

theorem Counts.guards (counts : s.Counts limit) : s.Guarded limit := ⟨counts.guarded,counts.bounded⟩

/-- Both counts return to zero. -/
theorem Counts.idle (counts : s.Counts limit) (idle : s.requests = []) : s.inFlight = 0 ∧ s.concurrent = 0 := by
  have observed := counts.observed
  have guarded := counts.guarded
  simp only [idle,List.length_nil,List.countP_nil] at observed guarded
  exact ⟨observed,guarded⟩

/-- A step keeps the counts exactly when it drops nothing. -/
theorem counts_step (valid : isConcurrencyLimit limit = true) (counts : s.Counts limit) (event : RequestEvent) :
    (s.step limit event).Counts limit ↔ s.abandons event = false := by
  have guards := counts.guards.step valid event
  have moved := observed_step limit s event
  have observed := counts.observed
  constructor
  · intro after
    have later := after.observed
    cases dropped : s.abandons event with
    | false => rfl
    | true =>
      simp only [dropped,if_true] at moved
      omega
  · intro kept
    simp only [kept,Bool.false_eq_true,if_false] at moved
    refine ⟨by omega,guards.guarded,guards.bounded,fun closing reported => ?_⟩
    rcases closings_step s event closing reported with old | rfl
    · exact counts.reported closing old
    · exact observed

end Listener

/-- The listener over a sequence of events -/
def serving (limit : Nat) (s : Listener) (event : RequestEvent) : Option Listener := some (s.step limit event)

theorem initial_counts (limit : Nat) : Listener.initial.Counts limit := ⟨rfl,rfl,Nat.zero_le limit,by simp [Listener.initial]⟩

/-- Whatever the requests do, the guards are counted and the bound is kept. -/
theorem serving_guarded {limit : Nat} (valid : isConcurrencyLimit limit = true) (events : List RequestEvent) :
    Throughout (serving limit) (Listener.Guarded limit) Listener.initial events :=
  throughout_of_along (serving limit) (Listener.Guarded limit) (Listener.Guarded limit) (fun _ _ => True)
    (fun _ event _ kept _ stepped => Option.some.inj stepped ▸ kept.step valid event) (fun _ kept => kept) _ events
    (initial_counts limit).guards (along_of_forall _ _ _ _ fun _ _ _ => trivial)

/-- Both counts are right in every state of a run exactly when no request inside `observe` is dropped in it. -/
theorem in_flight_counted_iff {limit : Nat} (valid : isConcurrencyLimit limit = true) (events : List RequestEvent) :
    Throughout (serving limit) (Listener.Counts limit) Listener.initial events ↔
      Along (serving limit) (fun s event => s.abandons event = false) Listener.initial events := by
  refine throughout_iff_along (serving limit) (fun _ => True) (Listener.Counts limit) _ (fun _ _ _ _ _ => trivial)
    (fun _ _ => rfl) (fun s event next _ counts stepped => ?_) _ events trivial (initial_counts limit)
  obtain rfl := Option.some.inj stepped
  exact Listener.counts_step valid counts event

/-- A panic and a timeout are counted right, at shutdown too. -/
theorem in_flight_counted_unwound : Throughout (serving 1) (Listener.Counts 1) Listener.initial
    [.start,.shed 0,.start,.shed 1,.panicked 0,.timedOut 1,.complete 0,.close,.complete 0] :=
  (in_flight_counted_iff (by decide) _).mpr (by decide)

/-- A client that disconnects in the middle of its request is counted at shutdown. -/
theorem disconnected_client_counted : ∃ limit events, isConcurrencyLimit limit = true ∧
    ¬Throughout (serving limit) (Listener.Counts limit) Listener.initial events := by
  refine ⟨1,[.start,.shed 0,.drop 0,.close],rfl,fun counted => ?_⟩
  have last := (((counted.2 _ rfl).2 _ rfl).2 _ rfl).2 _ rfl
  exact absurd (last.reported (1,0) (by decide)) (by decide)

end Ratatoskr.Http
