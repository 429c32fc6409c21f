import Ratatoskr.PublicApi.Captures

/-! The webhook adapter: a second door for captures, behind which many sources of one owner stand. -/
namespace Ratatoskr.Ingest

open Transaction Operations PublicApi

/-- The hyphenated text of a uuid. -/
def isUuid (text : String) : Bool :=
  let groups := text.toList.splitOn '-'
  groups.map List.length == [8,4,4,4,12] && groups.flatten.all fun c => (hexValue c).isSome

abbrev SourceId := Checked isUuid

inductive Target where
  | contentCapture
deriving DecidableEq

namespace Target

def operationKind : Target → String
  | contentCapture => "content.capture.submit"

def reporter : Target → String
  | contentCapture => "ratatoskr-extractor"

/-- `cmd.` and the command type -/
def subject : Target → String
  | contentCapture => captureSubject

end Target

structure WebhookSource where
  sourceId : SourceId
  ownerUserId : UserId
  target : Target

/-- The identifier of one delivery: the source, then the identifier the source chose. -/
def qualify (sourceId : SourceId) (externalId : String) : String := sourceId.val ++ ":" ++ externalId

/-- An authenticated delivery with the identifier its source chose for it. -/
structure Signal where
  source : WebhookSource
  key : String
  url : String
  body : List UInt8
  correlation : String
  now : Timestamp
  recordId : Nat
  operationId : OperationId
  auditEventId : Nat
  outboxId : Nat
  commandId : MessageId

namespace Signal

variable (settings : Settings) (contract : CaptureContract) (signal : Signal)

/-- The ledger and the operation have the qualified key. -/
def submission : Submission where
  route := "/v1/ingest/webhooks"
  kind := signal.source.target.operationKind
  auditAction := "ingest.webhook.receive"
  reporter := some signal.source.target.reporter
  userId := signal.source.ownerUserId
  sessionId := none
  key := qualify signal.source.sourceId signal.key
  fingerprint := signal.body
  correlation := signal.correlation
  now := signal.now
  recordId := signal.recordId
  operationId := signal.operationId
  auditEventId := signal.auditEventId

/-- The command has the key as the source sent it. -/
def envelope : Option CaptureEnvelope :=
  ContentCaptureCommand.envelope settings contract
    ⟨signal.commandId,signal.operationId,signal.source.ownerUserId,signal.correlation,signal.key,signal.now,.url signal.url⟩

def work : Tx TableRow Answer Unit :=
  match signal.envelope settings contract with
  | none => .abandon (.refused .requestTimeout)
  | some envelope => do
    let _ ← Eventing.Outbox.enqueue signal.outboxId signal.commandId signal.source.target.subject
      (contract.render envelope) (some signal.operationId) signal.now

def accept : Tx TableRow Answer OperationId := signal.submission.accept settings fun _ => signal.work settings contract

end Signal

theorem uuid_length (sourceId : SourceId) : sourceId.val.toList.length = 36 := by
  have valid := sourceId.property
  simp only [isUuid,Bool.and_eq_true,beq_iff_eq] at valid
  have joined : ['-'].intercalate (sourceId.val.toList.splitOn '-') = sourceId.val.toList := List.intercalate_splitOn '-'
  rcases groups : sourceId.val.toList.splitOn '-' with _ | ⟨a,_ | ⟨b,_ | ⟨c,_ | ⟨d,_ | ⟨e,_ | ⟨f,rest⟩⟩⟩⟩⟩⟩ <;>
    rw [groups] at valid joined <;> simp at valid
  obtain ⟨⟨first,second,third,fourth,fifth⟩,_⟩ := valid
  rw [← joined]
  simp [List.intercalate,first,second,third,fourth,fifth]

/-- Two qualified keys are one only where the source and its identifier are. -/
theorem qualify_injective (sourceId other : SourceId) (externalId otherId : String)
    (same : qualify sourceId externalId = qualify other otherId) : sourceId = other ∧ externalId = otherId := by
  have texts := congrArg String.toList same
  simp only [qualify,String.toList_append] at texts
  rw [List.append_assoc,List.append_assoc] at texts
  obtain ⟨sources,tails⟩ := List.append_inj texts ((uuid_length sourceId).trans (uuid_length other).symm)
  obtain ⟨_,ids⟩ := List.append_inj tails rfl
  exact ⟨Subtype.ext (String.toList_inj.mp sources),String.toList_inj.mp ids⟩

end Ratatoskr.Ingest
