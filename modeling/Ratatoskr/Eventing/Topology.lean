import Ratatoskr.Eventing.Redelivery
import Ratatoskr.Eventing.Retention
import Ratatoskr.Lib.Dialogue

/-! The streams, durables and the bucket that every start of Edge makes sure of, request by request. -/
namespace Ratatoskr.Eventing

section Streams

inductive WhenFull where
  | refusePublish | dropOldest

/-- One stream with the limits it is created with -/
structure StreamSpec where
  name : String
  subjects : List String
  maxBytes : Int
  maxAge : Timestamp
  whenFull : WhenFull

inductive RetentionPolicy where
  | limits | interest | workQueue
deriving DecidableEq

inductive StorageType where
  | file | memory
deriving DecidableEq

inductive DiscardPolicy where
  | old | new
deriving DecidableEq

/-- The fields of a JetStream configuration that a spec states -/
structure StreamConfig where
  name : String
  subjects : List String
  retention : RetentionPolicy
  storage : StorageType
  discard : DiscardPolicy
  maxBytes : Int
  maxAge : Timestamp
  duplicateWindow : Timestamp
  numReplicas : Nat
deriving DecidableEq

def defaultMaxBytes : Int := 1024 * 1024 * 1024

namespace StreamSpec

/-- A full command stream refuses the publish. -/
def commands (name : String) (subjects : List String) : StreamSpec := ⟨name,subjects,defaultMaxBytes,Eventing.maxAge,.refusePublish⟩

/-- A full event stream drops its oldest message. -/
def events (name : String) (subjects : List String) : StreamSpec := ⟨name,subjects,defaultMaxBytes,Eventing.maxAge,.dropOldest⟩

def commandStream : StreamSpec := commands "ratatoskr_commands" ["cmd.>"]
def eventStream : StreamSpec := events "ratatoskr_events" ["evt.>"]

def config (spec : StreamSpec) : StreamConfig where
  name := spec.name
  subjects := spec.subjects
  retention := .limits
  storage := .file
  discard := match spec.whenFull with
    | .refusePublish => .new
    | .dropOldest => .old
  maxBytes := spec.maxBytes
  maxAge := spec.maxAge
  duplicateWindow := Eventing.duplicateWindow
  numReplicas := 1

end StreamSpec

/-- The limits in which a stored stream differs, by name -/
def differences (stored wanted : StreamConfig) : List String :=
  [("max_bytes",decide (stored.maxBytes ≠ wanted.maxBytes)),("max_age",decide (stored.maxAge ≠ wanted.maxAge)),
    ("discard",decide (stored.discard ≠ wanted.discard)),
    ("duplicate_window",decide (stored.duplicateWindow ≠ wanted.duplicateWindow)),
    ("retention",decide (stored.retention ≠ wanted.retention))].filterMap fun field => if field.2 then some field.1 else none

inductive StreamState where
  | created
  | existing (mismatches : List String)

end Streams

section Durables

inductive AckMode where
  | explicit | none
deriving DecidableEq

inductive StartAt where
  | all | new
deriving DecidableEq

inductive AckPolicy where
  | explicit | none | all
deriving DecidableEq

inductive DeliverPolicy where
  | all | last | new
deriving DecidableEq

inductive ReplayPolicy where
  | instant | original
deriving DecidableEq

/-- The fields of a JetStream durable that a spec states or a start compares -/
structure ConsumerConfig where
  durableName : Option String
  filterSubject : String
  ackPolicy : AckPolicy
  deliverPolicy : DeliverPolicy
  ackWait : Timestamp
  maxDeliver : Int
  replayPolicy : ReplayPolicy
  deliverSubject : Option String
deriving DecidableEq

structure FixedConsumerSpec where
  stream : String
  durableName : String
  filterSubject : String
  alsoFilterSubject : Option String
  ack : AckMode
  start : StartAt
  ackWaitSeconds : Nat
  maxDeliver : Int
deriving DecidableEq

namespace FixedConsumerSpec

def standard (stream : StreamSpec) (durableName filterSubject : String) : FixedConsumerSpec :=
  ⟨stream.name,durableName,filterSubject,none,.explicit,.all,30,-1⟩

def withAckWaitSeconds (spec : FixedConsumerSpec) (seconds : Nat) : FixedConsumerSpec := { spec with ackWaitSeconds := seconds }
def withMaxDeliver (spec : FixedConsumerSpec) (attempts : Int) : FixedConsumerSpec := { spec with maxDeliver := attempts }

/-- A pull consumer; a second filter is no part of it. -/
def config (spec : FixedConsumerSpec) : ConsumerConfig where
  durableName := some spec.durableName
  filterSubject := spec.filterSubject
  ackPolicy := match spec.ack with
    | .explicit => .explicit
    | .none => .none
  deliverPolicy := match spec.start with
    | .all => .all
    | .new => .new
  ackWait := spec.ackWaitSeconds * 1000000000
  maxDeliver := spec.maxDeliver
  replayPolicy := .instant
  deliverSubject := none

end FixedConsumerSpec

open FixedConsumerSpec (standard)
open StreamSpec (commandStream eventStream)

def socialCaptureConsumers : List FixedConsumerSpec :=
  [standard commandStream "ratatoskr_x_browser_capture" "cmd.x.capture.requested.v1",
    standard commandStream "ratatoskr_instagram_browser_capture" "cmd.instagram.capture.requested.v1",
    standard commandStream "threads_browser_capture" "cmd.threads.capture.requested.v1"]

def telegramNotificationConsumers : List FixedConsumerSpec :=
  [standard eventStream "ratatoskr_telegram_notifications" "evt.platform.notification.raised.v1"]

def aiArchiveReportConsumers : List FixedConsumerSpec :=
  [standard eventStream "platform_ai_archive_chatgpt_projection" "evt.ai-archive.chatgpt.operation.reported.v1",
    standard eventStream "platform_ai_archive_claude_projection" "evt.ai-archive.claude.operation.reported.v1"]

def deletionAcknowledgedSubject : String := "evt.knowledge.deletion.acknowledged.v1"

def domainConsumers : List FixedConsumerSpec :=
  [(standard commandStream "ratatoskr_extractor_capture" "cmd.content.capture.requested.v1").withMaxDeliver 12,
    ((standard commandStream "ratatoskr_browser_worker" "cmd.content.render.requested.v1").withAckWaitSeconds 300).withMaxDeliver 12,
    standard commandStream "ratatoskr_knowledge_channel_recap" "cmd.knowledge.channel_digest_recap.requested.v1",
    standard commandStream "ratatoskr_channel_digest_subscriptions" "cmd.channel_digest.subscription.set_requested.v1",
    standard commandStream "ratatoskr_channel_digest_runs" "cmd.channel_digest.run.requested.v1",
    standard commandStream "ratatoskr_channel_digest_schedule_occurrences" "cmd.channel_digest.schedule.occurrence_requested.v1",
    standard commandStream "ratatoskr_vault_backup_policy" "cmd.vault.backup_policy.apply_requested.v1",
    standard commandStream "ratatoskr_notes_write_requests" "cmd.notes.file.write_requested.v1",
    (standard eventStream "ratatoskr_knowledge_documents" "evt.content.document.extracted.v1").withAckWaitSeconds 120,
    (standard eventStream "ratatoskr_knowledge_social_sources" "evt.social.source.>").withAckWaitSeconds 120,
    (standard eventStream "ratatoskr_knowledge_ai_archive" "evt.ai_archive.>").withAckWaitSeconds 120,
    (standard eventStream "ratatoskr_knowledge_repository_requests" "evt.knowledge.repository_analysis.requested.v1").withAckWaitSeconds 120,
    (standard eventStream "ratatoskr_knowledge_notes_files" "evt.notes.file.changed.v1").withAckWaitSeconds 120,
    (standard eventStream "ratatoskr_knowledge_notes_vaults" "evt.notes.vault.>").withAckWaitSeconds 120,
    standard eventStream "ratatoskr_github_analysis_completed" "evt.knowledge.repository_analysis.completed.v1",
    standard eventStream "ratatoskr_github_analysis_failed" "evt.knowledge.repository_analysis.failed.v1",
    standard eventStream "ratatoskr_github_policy_acknowledged" "evt.vault.backup_policy.acknowledged.v1",
    standard eventStream "ratatoskr_x_extractor_reports" "evt.platform.operation.reported.v1",
    standard eventStream "ratatoskr_channel_digest_recap_completed" "evt.knowledge.channel_digest_recap.completed.v1",
    standard eventStream "ratatoskr_channel_digest_recap_failed" "evt.knowledge.channel_digest_recap.failed.v1",
    standard eventStream "ratatoskr_chatgpt_deletion_acks" deletionAcknowledgedSubject,
    standard eventStream "ratatoskr_claude_deletion_acks" deletionAcknowledgedSubject,
    standard eventStream "ratatoskr_x_deletion_acks" deletionAcknowledgedSubject,
    standard eventStream "ratatoskr_instagram_deletion_acks" deletionAcknowledgedSubject,
    standard eventStream "ratatoskr_threads_deletion_acks" deletionAcknowledgedSubject,
    ⟨eventStream.name,"ratatoskr_extractor_render_awaits","evt.content.render.>",none,.none,.new,30,-1⟩,
    (standard commandStream "ratatoskr_sites_release_builds" "cmd.sites.release.build_requested.v1").withAckWaitSeconds 300,
    (standard eventStream "ratatoskr_sites_note_changes" "evt.notes.file.changed.v1").withAckWaitSeconds 120,
    standard eventStream "ratatoskr_sites_vault_disconnections" "evt.notes.vault.disconnected.v1",
    standard eventStream "ratatoskr_sites_approvals" "evt.platform.site_approval.changed.v1"]

end Durables

section Broker

structure BucketConfig where
  bucket : String
  description : String
  maxAge : Timestamp
deriving DecidableEq

def completionBucket : BucketConfig where
  bucket := "browser_worker_completions"
  description := "Render completions recorded by the extractor browser worker"
  maxAge := 24 * hour

/-- What a broker holds by name -/
inductive Place where
  | stream (name : String)
  | consumer (stream name : String)
  | bucket (name : String)
deriving DecidableEq

def Place.Held : Place → Type
  | .stream _ => StreamConfig
  | .consumer _ _ => ConsumerConfig
  | .bucket _ => BucketConfig

instance : (place : Place) → DecidableEq place.Held
  | .stream _ => inferInstanceAs (DecidableEq StreamConfig)
  | .consumer _ _ => inferInstanceAs (DecidableEq ConsumerConfig)
  | .bucket _ => inferInstanceAs (DecidableEq BucketConfig)

abbrev Broker := (place : Place) → Option place.Held

inductive BusRequest where
  | info (place : Place)
  | create (place : Place) (config : place.Held)

def BusRequest.place : BusRequest → Place
  | .info place | .create place _ => place

inductive Fault where
  | notFound (text : String)
  | failed (text : String)

def Fault.text : Fault → String
  | .notFound text | .failed text => text

abbrev BusRequest.Answer (request : BusRequest) : Type := Except Fault request.place.Held

def Broker.store (broker : Broker) (place : Place) (config : place.Held) : Except Fault place.Held × Broker :=
  (.ok config,Function.update broker place (some config))

def Broker.storeNew (broker : Broker) (place : Place) (config : place.Held) : Except Fault place.Held × Broker :=
  match broker place with
  | none => broker.store place config
  | some held =>
    if held = config then (.ok held,broker)
    else (.error (.failed "stream name already in use with a different configuration"),broker)

/-- A stream or bucket keeps its configuration; a durable takes the new one. -/
def Broker.create (broker : Broker) : (place : Place) → place.Held → Except Fault place.Held × Broker
  | .stream name,config => broker.storeNew (.stream name) config
  | .consumer stream name,config =>
    if (broker (.stream stream)).isSome then broker.store (.consumer stream name) config
    else (.error (.notFound "stream not found"),broker)
  | .bucket name,config => broker.storeNew (.bucket name) config

def Broker.carryOut (broker : Broker) : (request : BusRequest) → request.Answer × Broker
  | .info place => ((broker place).elim (.error (.notFound "not found")) .ok,broker)
  | .create place config => broker.create place config

/-- A request is answered, or fails before or after it is carried out. -/
inductive Fate where
  | served
  | refused (text : String)
  | lost (text : String)

def serve (broker : Broker) (fate : Fate) (request : BusRequest) : Option (request.Answer × Broker) :=
  some <| match fate with
    | .served => broker.carryOut request
    | .refused text => (.error (.failed text),broker)
    | .lost text => (.error (.failed text),(broker.carryOut request).2)

end Broker

section Programs

/-- `EventingError::Bus` -/
structure BusError where
  text : String

abbrev Bus : Type → Type := ExceptT BusError (Dialogue BusRequest BusRequest.Answer)

/-- A call of the client that is one request -/
def call (request : BusRequest) : Bus request.place.Held :=
  .mk <| .ask request fun answer => .done (answer.mapError fun fault => ⟨fault.text⟩)

/-- `get_stream(..).is_ok()` -/
def isFound (name : String) : Bus Bool := .mk <| .ask (.info (.stream name)) fun answer => .done (.ok answer.isOk)

/-- `get_or_create_stream` and `get_or_create_consumer`: only what is not found is created. -/
def getOrCreate (place : Place) (config : place.Held) : Bus place.Held :=
  .mk <| .ask (.info place) fun
    | .ok held => .done (.ok held)
    | .error (.notFound _) => (call (.create place config)).run
    | .error (.failed text) => .done (.error ⟨text⟩)

def ensure (spec : StreamSpec) : Bus StreamState := do
  -- a look that fails counts as absent, so that a stream that is there can be reported as created
  let existed ← isFound spec.name
  let _ ← getOrCreate (.stream spec.name) spec.config
  if !existed then return .created
  let stored ← call (.info (.stream spec.name))
  return .existing (differences stored spec.config)

def FixedConsumerSpec.differs (spec : FixedConsumerSpec) (found : ConsumerConfig) : Bool :=
  found.durableName != spec.config.durableName || found.filterSubject != spec.config.filterSubject ||
    found.ackPolicy != spec.config.ackPolicy || found.deliverPolicy != spec.config.deliverPolicy ||
    found.ackWait != spec.config.ackWait || found.maxDeliver != spec.config.maxDeliver ||
    found.replayPolicy != spec.config.replayPolicy || found.deliverSubject.isSome

def FixedConsumerSpec.place (spec : FixedConsumerSpec) : Place := .consumer spec.stream spec.durableName

/-- Every durable is there with its configuration; one that differs is an error and stays. -/
def ensureFixedConsumers : List FixedConsumerSpec → Bus Unit
  | [] => pure ()
  | spec :: specs => do
    let _ ← call (.info (.stream spec.stream))
    let found ← getOrCreate spec.place spec.config
    if spec.differs found then
      throw ⟨"the pre-provisioned consumer " ++ spec.durableName ++ " on " ++ spec.stream ++
        " does not match its fixed filter and delivery policy"⟩
    ensureFixedConsumers specs

def ensureCompletionBucket : Bus Unit := do
  let _ ← call (.create (.bucket completionBucket.bucket) completionBucket)

def ensureDomainTopology : Bus Unit := do
  ensureFixedConsumers domainConsumers
  ensureCompletionBucket

def ensureFixedTopology : Bus Unit := do
  ensureFixedConsumers socialCaptureConsumers
  ensureFixedConsumers telegramNotificationConsumers
  ensureFixedConsumers aiArchiveReportConsumers
  ensureDomainTopology

end Programs

section Fixed

def fixedConsumers : List FixedConsumerSpec :=
  socialCaptureConsumers ++ telegramNotificationConsumers ++ aiArchiveReportConsumers ++ domainConsumers

/-- What a start wants at a place; other places are none of its business. -/
def wanted : (place : Place) → Option place.Held
  | .stream name => ([StreamSpec.commandStream,StreamSpec.eventStream].find? fun spec => spec.name == name).map StreamSpec.config
  | .consumer stream name =>
    (fixedConsumers.find? fun spec => spec.stream == stream && spec.durableName == name).map FixedConsumerSpec.config
  | .bucket name => if name = completionBucket.bucket then some completionBucket else none

theorem find_consumer : ∀ spec ∈ fixedConsumers,
    (fixedConsumers.find? fun other => other.stream == spec.stream && other.durableName == spec.durableName) = some spec := by
  decide +kernel

/-- No two durables share their place. -/
theorem wanted_consumer {spec : FixedConsumerSpec} (listed : spec ∈ fixedConsumers) : wanted spec.place = some spec.config :=
  congrArg (Option.map FixedConsumerSpec.config) (find_consumer spec listed)

theorem wanted_stream {spec : StreamSpec} (listed : spec = .commandStream ∨ spec = .eventStream) :
    wanted (.stream spec.name) = some spec.config := by
  rcases listed with rfl | rfl <;> rfl

theorem stream_of_consumer : ∀ spec ∈ fixedConsumers,
    spec.stream = StreamSpec.commandStream.name ∨ spec.stream = StreamSpec.eventStream.name := by
  decide +kernel

theorem differs_eq_false {spec : FixedConsumerSpec} {found : ConsumerConfig} :
    spec.differs found = false ↔ found = spec.config := by
  obtain ⟨name,filter,acks,starts,waits,delivers,replays,subject⟩ := found
  simp [FixedConsumerSpec.differs,FixedConsumerSpec.config,and_assoc]

end Fixed

end Ratatoskr.Eventing
