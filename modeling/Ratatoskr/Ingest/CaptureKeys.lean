import Ratatoskr.Idempotency.Keys

/-! The idempotency keys that capture commands carry: when two captures of one owner, each accepted
on its own, are one capture to the service that receives the commands. -/
namespace Ratatoskr.Ingest

open Transaction Idempotency PublicApi

/-- The key of the operation that an emission belongs to. -/
def operationKey (emission : Emission) : OperationKey where
  ownerUserId := emission.ownerUserId
  kind := "content.capture.submit"
  idempotencyKey :=
    match emission.source with
    | none => emission.clientKey
    | some sourceId => qualify sourceId emission.clientKey

/-- The keys are digests of what the clients sent, and the emissions are of operations whose keys,
and whose doors or client keys with them, all differ. -/
structure Emitted (settings : Settings) (s : Edge) : Prop where
  digests : ∀ emission ∈ s.emitted, emission.idempotencyKey = settings.ofKey emission.clientKey
  minted : ∀ emission ∈ s.emitted, operationKey emission ∈ s.minted
  apart : s.emitted.Pairwise fun earlier later => operationKey earlier ≠ operationKey later

section Step

variable {settings : Settings} {contract : CaptureContract} {s next : Edge}

theorem emission_carries (rows : Db) (request : Request) (emission : Emission)
    (emits : request.emission settings contract rows = some emission) :
    emission.idempotencyKey = settings.ofKey emission.clientKey ∧
      operationKey emission = request.key settings contract := by
  cases request with
  | intake | archive => cases emits
  | capture given =>
    simp only [Request.emission] at emits
    split at emits
    · rename_i envelope built
      simp only [Option.ite_none_right_eq_some,Option.some.injEq] at emits
      obtain ⟨_,rfl⟩ := emits
      refine ⟨(command_carries settings contract given envelope built).1,?_⟩
      simp only [operationKey,Request.key,Request.submission,Capture.intake,Capture.route]
      cases given.source <;> rfl
    · cases emits
  | signal given =>
    simp only [Request.emission] at emits
    split at emits
    · rename_i envelope built
      simp only [Option.ite_none_right_eq_some,Option.some.injEq] at emits
      obtain ⟨_,rfl⟩ := emits
      simp only [Signal.envelope,ContentCaptureCommand.envelope,Option.ite_none_right_eq_some,Option.some.injEq] at built
      obtain ⟨_,rfl⟩ := built
      refine ⟨rfl,?_⟩
      simp only [operationKey,Request.key,Request.submission,Signal.submission]
      cases given.source.target
      rfl
    · cases emits

theorem emitted_step (keyed : Keyed s) (emitted : Emitted settings s) (move : Move)
    (stepped : s.step settings contract move = some next) : Emitted settings next := by
  have grown := step_minted move stepped
  have kept (same : next.emitted = s.emitted) : Emitted settings next := by
    obtain ⟨digests,minted,apart⟩ := emitted
    exact ⟨same ▸ digests,same ▸ fun emission member => grown (minted emission member),same ▸ apart⟩
  cases move with
  | collect visited now => exact kept (Option.some.inj stepped ▸ rfl)
  | write writer =>
    simp only [Edge.step] at stepped
    split at stepped <;> exact kept (Option.some.inj stepped ▸ rfl)
  | submit request =>
    simp only [Edge.step] at stepped
    split at stepped
    · rename_i value rows ended
      obtain rfl := Option.some.inj stepped
      obtain ⟨unused,_⟩ := exec_request_done s.rows request value rows ended
      cases emits : request.emission settings contract s.rows with
      | none => exact emits ▸ kept (by simp [emits])
      | some emission =>
        obtain ⟨digest,key⟩ := emission_carries s.rows request emission emits
        refine ⟨fun other member => ?_,fun other member => ?_,?_⟩
        · rcases List.mem_append.mp member with old | new
          · exact emitted.digests other old
          · obtain rfl := List.mem_singleton.mp new
            exact digest
        · rcases List.mem_append.mp member with old | new
          · exact grown (emitted.minted other old)
          · obtain rfl := List.mem_singleton.mp new
            exact key ▸ List.mem_append_right _ List.mem_cons_self
        · refine List.pairwise_append.mpr ⟨emitted.apart,List.pairwise_singleton _ _,fun earlier old later new same => ?_⟩
          obtain rfl := List.mem_singleton.mp new
          -- the unique index has had no such key
          have taken := (keyed _).mpr (emitted.minted earlier old)
          rw [same,key,unused] at taken
          cases taken
    · exact Option.some.inj stepped ▸ emitted

end Step

/-- No two of the client keys have one digest. -/
def CollisionFree (settings : Settings) (s : Edge) : Prop := ∀ emission ∈ s.emitted, ∀ other ∈ s.emitted,
  settings.ofKey emission.clientKey = settings.ofKey other.clientKey → emission.clientKey = other.clientKey

/-- The capture commands of one owner carry different keys exactly when no two of them came under
one client key through different doors. -/
theorem capture_keys_differ_iff (settings : Settings) (contract : CaptureContract) (moves : List Move) (s : Edge)
    (ran : StateMachine.run (Edge.step settings contract) Edge.initial moves = some s)
    (collisionFree : CollisionFree settings s) :
    (s.emitted.Pairwise fun earlier later => earlier.ownerUserId = later.ownerUserId →
        earlier.idempotencyKey ≠ later.idempotencyKey) ↔
      s.emitted.Pairwise fun earlier later => earlier.ownerUserId = later.ownerUserId →
        earlier.clientKey = later.clientKey → earlier.source = later.source := by
  obtain ⟨_,emitted⟩ := StateMachine.run_invariant _ (fun s => Keyed s ∧ Emitted settings s)
    (fun _ move _ both stepped => ⟨keyed_step both.1 move stepped,emitted_step both.1 both.2 move stepped⟩) _ moves s
    ⟨fun key => by simp [Edge.initial],List.forall_mem_nil _,List.forall_mem_nil _,List.Pairwise.nil⟩ ran
  constructor
  · refine fun differ => List.Pairwise.imp_of_mem (fun member member' different owner same => ?_) differ
    refine absurd ?_ (different owner)
    rw [emitted.digests _ member,emitted.digests _ member',same]
  · refine fun doors => (emitted.apart.and doors).imp_of_mem fun {earlier later} member member' both owner digests => ?_
    obtain ⟨apart,door⟩ := both
    rw [emitted.digests _ member,emitted.digests _ member'] at digests
    have same := collisionFree _ member _ member' digests
    have source := door owner same
    exact apart (by simp only [operationKey,owner,same,source])

section Sources

def firstSource : SourceId := ⟨"0198c0de-0000-7000-8000-000000000001",by decide +kernel⟩

def secondSource : SourceId := ⟨"0198c0de-0000-7000-8000-000000000002",by decide +kernel⟩

/-- The digests of the identifiers, of the qualified keys and of the body that the signals have. -/
def signalSettings : Settings where
  sha256 bytes :=
    if bytes = "key-1".toUTF8.toList then 0xbe2974546978e3739e6d6da85c4be9f334ce32df2b9fd4b6ff1b55c0d57e9d44
    else if bytes = "key-2".toUTF8.toList then 0x7c36b0a9dedde119c75165957c6c9c187e65df1ee5db87c4c58ad503ad88cbe3
    else if bytes = (qualify firstSource "key-1").toUTF8.toList then
      0x1383811a47f8766c3307dd2bd6f7391a3524c6efb9f5cf316bb3801905e8a51d
    else if bytes = (qualify secondSource "key-1").toUTF8.toList then
      0x88750fabbf5585a4cdeaaeb0d900894dbd4251242381bb9346b0b2a9a263c895
    else if bytes = (qualify secondSource "key-2").toUTF8.toList then
      0x734285d2cb8432d76a426e5d9306e0a1a9e81d0dccdf05a5370d3b8ab792c594
    else 0x44136fa355b3678a1146ad16f7e8649e94fb4fc21fe77e8310c060f61caaff8a
  idempotencyTtl := 1000000000

/-- A signal of the only owner; the number tells its rows from those of others. -/
def signalOf (sourceId : SourceId) (key : String) (number : Nat) : Request := .signal {
  source := ⟨sourceId,1,.contentCapture⟩
  key
  url := "https://example.org/"
  body := "{}".toUTF8.toList
  correlation := "correlation:1"
  now := 0
  recordId := number
  operationId := number
  auditEventId := number
  outboxId := number
  commandId := number }

/-- The emission of such a signal. -/
def emissionOf (sourceId : SourceId) (key : String) (number : Nat) : Emission :=
  ⟨some sourceId,1,key,number,signalSettings.ofKey key⟩

/-- Two sources of one owner choose one identifier, and the commands of their captures have one key. -/
theorem two_sources_share_command_key :
    ∃ s, StateMachine.run (Edge.step signalSettings plainContract) Edge.initial
        [.submit (signalOf firstSource "key-1" 1),.submit (signalOf secondSource "key-1" 2)] = some s ∧
      ∃ first second, s.emitted = [first,second] ∧ first.operationId ≠ second.operationId ∧
        first.ownerUserId = second.ownerUserId ∧ first.idempotencyKey = second.idempotencyKey := by
  have ran : ((StateMachine.run (Edge.step signalSettings plainContract) Edge.initial
      [.submit (signalOf firstSource "key-1" 1),.submit (signalOf secondSource "key-1" 2)]).map Edge.emitted) =
        some [emissionOf firstSource "key-1" 1,emissionOf secondSource "key-1" 2] := by decide +kernel
  obtain ⟨s,reached,emitted⟩ := Option.map_eq_some_iff.mp ran
  exact ⟨s,reached,_,_,emitted,fun same => (by cases same),rfl,rfl⟩

/-- Under identifiers of their own the two captures are two to everybody. -/
theorem two_identifiers_differ :
    ∃ s, StateMachine.run (Edge.step signalSettings plainContract) Edge.initial
        [.submit (signalOf firstSource "key-1" 1),.submit (signalOf secondSource "key-2" 2)] = some s ∧
      s.emitted.length = 2 ∧ s.emitted.Pairwise fun earlier later => earlier.ownerUserId = later.ownerUserId →
        earlier.idempotencyKey ≠ later.idempotencyKey := by
  have ran : ((StateMachine.run (Edge.step signalSettings plainContract) Edge.initial
      [.submit (signalOf firstSource "key-1" 1),.submit (signalOf secondSource "key-2" 2)]).map Edge.emitted) =
        some [emissionOf firstSource "key-1" 1,emissionOf secondSource "key-2" 2] := by decide +kernel
  obtain ⟨s,reached,emitted⟩ := Option.map_eq_some_iff.mp ran
  refine ⟨s,reached,congrArg List.length emitted,
    (capture_keys_differ_iff signalSettings plainContract _ s reached ?_).mpr ?_⟩
  · rw [CollisionFree,emitted]
    decide +kernel
  · rw [emitted]
    decide +kernel

end Sources

end Ratatoskr.Ingest
