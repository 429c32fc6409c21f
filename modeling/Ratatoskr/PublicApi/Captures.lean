import Ratatoskr.PublicApi.Routes

/-! Submitting a capture, by address or by stored bytes, and the command each becomes. -/
namespace Ratatoskr.PublicApi

open Transaction Operations

structure BlobRef where
  ownerService : String
  digest : String
  lengthBytes : Nat
deriving DecidableEq

inductive CaptureSource where
  | url (url : String)
  | blob (blob : BlobRef)
deriving DecidableEq

/-- What a capture command carries; the client's key only as its digest. -/
structure CaptureEnvelope where
  subject : String
  commandId : MessageId
  operationId : OperationId
  tenantId : UserId
  correlationId : String
  idempotencyKey : Digest
  issuedAt : Timestamp
  source : CaptureSource
  provider : Option SocialCaptureProvider
deriving DecidableEq

/-- The grammars of the contracts for what a capture names, the subjects of the social services and
the wire form of a command. -/
structure CaptureContract where
  accepts : CaptureSource → Bool
  isPermalink : String → Bool
  commandSubject : SocialCaptureProvider → String
  render : CaptureEnvelope → String

/-- `cmd.` and the type of the command that the extractor consumes -/
def captureSubject : String := "cmd.content.capture.requested.v1"

structure ContentCaptureCommand where
  commandId : MessageId
  operationId : OperationId
  principal : UserId
  correlationId : String
  idempotencyKey : String
  issuedAt : Timestamp
  source : CaptureSource

def ContentCaptureCommand.envelope (settings : Settings) (contract : CaptureContract) (command : ContentCaptureCommand) :
    Option CaptureEnvelope :=
  if contract.accepts command.source && isNamespaced command.correlationId then
    some ⟨captureSubject,command.commandId,command.operationId,command.principal,command.correlationId,
      settings.ofKey command.idempotencyKey,command.issuedAt,command.source,none⟩
  else none

def CaptureEnvelope.prepared (contract : CaptureContract) (envelope : CaptureEnvelope) : Prepared :=
  ⟨envelope.subject,envelope.commandId,contract.render envelope⟩

/-- A capture that its route lets through. -/
structure Capture extends Arrival where
  outboxId : Nat
  commandId : MessageId
  source : CaptureSource
  social : Option SocialCaptureProvider

namespace Capture

variable (settings : Settings) (contract : CaptureContract) (capture : Capture)

def contentCommand : Except FailureKind CaptureEnvelope :=
  match ContentCaptureCommand.envelope settings contract
      ⟨capture.commandId,capture.operationId,capture.userId,capture.correlation,capture.key,capture.now,capture.source⟩ with
  | some envelope => .ok envelope
  | none => .error .requestTimeout

/-- The command for the social service that owns an explicit capture. -/
def socialCommand (url : String) (provider : SocialCaptureProvider) : Except FailureKind CaptureEnvelope :=
  if contract.isPermalink url then
    .ok ⟨contract.commandSubject provider,capture.commandId,capture.operationId,capture.userId,
      "operation:" ++ toString capture.operationId,settings.ofKey capture.key,capture.now,.url url,some provider⟩
  else .error .invalidRequest

/-- The only command that belongs to the capture. -/
def command : Except FailureKind CaptureEnvelope :=
  match capture.source,capture.social with
  | .url url,some provider => capture.socialCommand settings contract url provider
  | _,_ => capture.contentCommand settings contract

def route : Route :=
  match capture.source with
  | .url _ => Routes.captures capture.social
  | .blob _ => Routes.captureBlobs

/-- `submit` and `submit_blob` -/
def intake : Intake where
  toRoute := capture.route
  toArrival := capture.toArrival
  outboxId := capture.outboxId
  siteEdit := none
  prepare _ := (capture.command settings contract).map fun envelope => some (envelope.prepared contract)

end Capture

/-- Every command of a capture carries the digest of the client's key, and its own command id. -/
theorem command_carries (settings : Settings) (contract : CaptureContract) (capture : Capture) (envelope : CaptureEnvelope)
    (built : capture.command settings contract = .ok envelope) :
    envelope.idempotencyKey = settings.ofKey capture.key ∧ envelope.commandId = capture.commandId ∧
      envelope.tenantId = capture.userId ∧ envelope.operationId = capture.operationId := by
  simp only [Capture.command] at built
  split at built
  · simp only [Capture.socialCommand] at built
    split at built
    · obtain rfl := Except.ok.inj built
      exact ⟨rfl,rfl,rfl,rfl⟩
    · cases built
  · simp only [Capture.contentCommand,ContentCaptureCommand.envelope] at built
    split at built
    · rename_i found same
      split at same
      · obtain rfl := Option.some.inj same
        obtain rfl := Except.ok.inj built
        exact ⟨rfl,rfl,rfl,rfl⟩
      · cases same
    · cases built

end Ratatoskr.PublicApi
