import Ratatoskr.Operations.Dispatch
import Ratatoskr.PublicApi.Intake

/-! The accepting routes of the public API, and the preparation of an archive, whose transaction binds
its operation instead of enqueueing a command. -/
namespace Ratatoskr.PublicApi

open Transaction Operations

namespace Routes

def captures (social : Option SocialCaptureProvider) : Route :=
  ⟨"/v1/captures","content.capture.submit","content.capture.submit",some (captureReporter social)⟩

def captureBlobs : Route :=
  ⟨"/v1/captures/blobs","content.capture.submit","content.capture.submit",some extractorProducer⟩

def subscriptions : Route :=
  ⟨"/v1/channel-digests/subscriptions","channel_digest.subscription.set","channel_digest.subscription.set",
    some "ratatoskr-channel-digests"⟩

def runs : Route :=
  ⟨"/v1/channel-digests/runs","channel_digest.run","channel_digest.run.request",some "ratatoskr-channel-digests"⟩

def siteEdits : Route := ⟨"/v1/sites/edits","notes.file.write","notes.file.write",some "ratatoskr-notes"⟩

def siteReleases : Route := ⟨"/v1/sites/releases","sites.release.build","sites.release.build",some "ratatoskr-sites"⟩

def fileWrites : Route := ⟨"/v1/notes/writes","notes.file.write","notes.file.write",some "ratatoskr-notes"⟩

def writeMode : Route :=
  ⟨"/v1/notes/connections/write-mode","notes.connection.write_mode","notes.connection.write_mode",some "ratatoskr-notes"⟩

def archives (provider : String) : Route :=
  ⟨"/v1/ai-archives/" ++ provider,"ai_archive.import","ai_archive.prepare",none⟩

end Routes

/-- A declared archive of one provider. -/
structure ArchivePreparation extends Arrival where
  provider : String
  deviceId : Option Nat
  sha256 : String
  byteSize : Int

namespace ArchivePreparation

variable (settings : Settings) (preparation : ArchivePreparation)

def submission : Submission := { Routes.archives preparation.provider,preparation.toArrival with }

def acceptance : AiArchiveAcceptance where
  ownerUserId := preparation.userId
  deviceId := preparation.deviceId.getD 0
  provider := preparation.provider
  sha256 := preparation.sha256
  byteSize := preparation.byteSize
  acceptedAt := toOffset preparation.now

def accept : Tx TableRow Answer OperationId :=
  preparation.submission.accept settings fun _ => recordAiArchiveAcceptance preparation.operationId preparation.acceptance

end ArchivePreparation

end Ratatoskr.PublicApi
