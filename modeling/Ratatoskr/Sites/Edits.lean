import Ratatoskr.Gateway.Loopback
import Ratatoskr.Lib.Exchanges
import Ratatoskr.Lib.Percent
import Ratatoskr.Messages.Envelopes

/-! Owner editing from a site. An upload, an edit and the read of a conflict, as the requests that they make one after the
other to the sites service, to the notes service and to the transaction that admits an edit. -/
namespace Ratatoskr.Sites

open Gateway (Body GatewayConfig HeaderMap HeaderName Library Loopback Transport fetchJson loopback mint)
open Messages (FileWriteRequested)
open PublicApi (FailureKind SiteId)

section Documents

structure ContentDigest where
  algorithm : String
  hex : String
deriving DecidableEq

/-- A stored content; what else its document says is kept with it. -/
structure BlobRef where
  digest : ContentDigest
  document : Json

structure UpdateFile where
  path : String
  baseHash : String
  blob : BlobRef

structure SiteEditRequest where
  sourceRef : String
  baseHash : String
  contentBlob : BlobRef
  contentHash : String
  idempotencyKey : String

/-- Where the sites service finds a source -/
structure Scoped where
  connectionId : Nat
  path : String

/-- What both views of a conflict say of it -/
structure ConflictView where
  conflictId : Nat
  operationId : OperationId
  state : String
  texts : Json
  textsOverLimit : List String
  baseHash : Option String
  currentHash : Option String
  writerHash : Option String
  mergeProposal : Option Json

structure NotesConflict extends ConflictView where
  connectionId : Nat
  path : String

structure SiteConflict extends ConflictView where
  sourceRef : String

structure SiteBlobUploaded where
  contentBlob : BlobRef
  contentHash : String

/-- What the contracts parse and write, and the digest with its text -/
structure EditContract where
  library : Library
  sha256 : List UInt8 → Digest
  hex : Digest → String
  parseUuid : String → Option Nat
  isSourceRef : String → Bool
  isDigestHex : String → Bool
  isVaultWritePath : String → Bool
  isWriteOrigin : String → Bool
  editRequest : List UInt8 → Option SiteEditRequest
  scopedSource : List UInt8 → Option Scoped
  inScope : List UInt8 → Option String
  notesConflict : List UInt8 → Option NotesConflict
  blobRef : Json → Option BlobRef
  updateFile : UpdateFile → Json
  valid : FileWriteRequested → Bool

end Documents

section Requests

/-- An edit that is to be admitted: its key, what it is fingerprinted over, its row and its command -/
structure EditIntake where
  principal : Gateway.Caller
  correlation : String
  key : String
  fingerprint : List UInt8
  row : SiteEdit
  command : FileWriteRequested

inductive Ask where
  | send (request : Loopback)
  | intake (edit : EditIntake)

abbrev Ask.Answer : Ask → Type
  | .send _ => Transport
  | .intake _ => Except FailureKind OperationId

abbrev Talk (α : Type) := ExceptT FailureKind (Dialogue Ask Ask.Answer) α

/-- A site owner session of the site, and the correlation of its request -/
structure SiteCall where
  principal : Gateway.Caller
  correlation : String
  site : SiteId

def headerOrigin : HeaderName := .fromStatic "x-ratatoskr-origin" (by decide)

variable (contract : EditContract) (gateway : GatewayConfig) (call : SiteCall)

def siteClaims : HeaderMap :=
  mint (Gateway.forwardedHeaders contract.library.uuid [] ⟨call.principal,none,none,call.correlation⟩) headerOrigin
    ("site:" ++ call.site)

def maxContentBytes : Nat := 16777216
def maxEditBytes : Nat := 16384
def maxAnswerBytes : Nat := 4194304

/-- A typed question to a service; one that cannot be addressed is not asked. -/
def ask {α : Type} (service method path : String) (headers : HeaderMap) (body : List UInt8)
    (decode : List UInt8 → Option α) : Talk α :=
  match loopback contract.library gateway service method path headers body with
  | .error refusal => .mk (.done (.error refusal))
  | .ok request => .mk (.ask (.send request) fun transport => .done (fetchJson gateway true maxAnswerBytes decode transport))

def scopePath (sourceRef : String) : String := "/internal/sites/" ++ call.site ++ "/sources/" ++ sourceRef

def scopeOf (sourceRef : String) : Talk Scoped :=
  if contract.isSourceRef sourceRef then
    ask contract gateway "sites" "GET" (scopePath call sourceRef) (siteClaims contract call) [] contract.scopedSource
  else .mk (.done (.error .notFound))

def notesJson {α : Type} (method path : String) (headers : HeaderMap) (body : List UInt8) (decode : List UInt8 → Option α) :
    Talk α := ask contract gateway "notes" method path headers body decode

end Requests

section Uploads

variable (contract : EditContract) (gateway : GatewayConfig) (call : SiteCall)

/-- Content over the bound of the route or of the read is too large, whether or not it breaks off. -/
def readContent (routeBound : Nat) (body : Body) : Except FailureKind (List UInt8) :=
  if min routeBound maxContentBytes < body.bytes.length then .error .payloadTooLarge
  else if !body.whole then .error .invalidRequest
  else if body.bytes.isEmpty then .error .invalidRequest
  else .ok body.bytes

def blobsPath (connectionId : Nat) : String := "/v1/notes/connections/" ++ contract.library.uuid connectionId ++ "/blobs"

def jsonClaims : HeaderMap := mint (siteClaims contract call) Gateway.contentType "application/json"
def chunkClaims : HeaderMap := mint (siteClaims contract call) Gateway.contentType "application/octet-stream"

/-- `CHUNK_SIZE_MAX_BYTES` -/
def chunkSizeMaxBytes : Nat := 16777216

def declared (content : List UInt8) : List UInt8 :=
  contract.library.render (.object [("declared_size_bytes",.number (toString content.length)),
    ("media_type",.string "text/markdown"),
    ("digest",.object [("algorithm",.string "sha256"),("hex",.string (contract.hex (contract.sha256 content)))]),
    ("chunk_size_bytes",.number (toString chunkSizeMaxBytes))])

def resumption (token : String) : List UInt8 := contract.library.render (.object [("resumption_token",.string token)])

def sessionPath (blobs token : String) : String := blobs ++ "/" ++ token
def chunkPath (blobs token : String) : String := sessionPath blobs token ++ "/chunks/0"
def finalizePath (blobs token : String) : String := sessionPath blobs token ++ "/finalize"

/-- The token of an opened session -/
def tokenOf (opened : Json) : Option String := (opened.get "resumption_token").bind Json.asStr

/-- The chunk, and once it is there the end of the session -/
def transfer (blobs token : String) (content : List UInt8) : Talk Json := do
  let _ ← notesJson contract gateway "PUT" (chunkPath blobs token) (chunkClaims contract call) content contract.library.json
  notesJson contract gateway "POST" (finalizePath blobs token) (jsonClaims contract call) (resumption contract token)
    contract.library.json

/-- Best effort: whatever is answered, the upload goes on. -/
def closeSession (blobs token : String) : Dialogue Ask Ask.Answer Unit :=
  match loopback contract.library gateway "notes" "DELETE" (sessionPath blobs token) (siteClaims contract call) [] with
  | .error _ => .done ()
  | .ok request => .ask (.send request) fun _ => .done ()

/-- A session whose transfer failed is closed. -/
def transferOrClose (blobs token : String) (content : List UInt8) : Talk Json :=
  .mk ((transfer contract gateway call blobs token content).run.bind fun finalized =>
    match finalized with
    | .ok document => .done (.ok document)
    | .error refusal => (closeSession contract gateway call blobs token).bind fun _ => .done (.error refusal))

/-- What notes says it stored -/
def stored (finalized : Json) (content : List UInt8) : Except FailureKind SiteBlobUploaded :=
  if (finalized.get "outcome").bind Json.asStr ≠ some "stored" then .error .upstreamInvalidResponse
  else
    match (finalized.get "blob_ref").bind contract.blobRef with
    | none => .error .upstreamInvalidResponse
    | some contentBlob => .ok ⟨contentBlob,contract.hex (contract.sha256 content)⟩

def uploadContent (sourceRef : String) (routeBound : Nat) (body : Body) : Talk SiteBlobUploaded := do
  let place ← scopeOf contract gateway call sourceRef
  let content ← ExceptT.mk (.done (readContent routeBound body))
  let blobs := blobsPath contract place.connectionId
  let opened ← notesJson contract gateway "POST" blobs (jsonClaims contract call) (declared contract content)
    contract.library.json
  let token ← ExceptT.mk (.done ((tokenOf opened).elim (.error .upstreamInvalidResponse) .ok))
  let finalized ← transferOrClose contract gateway call blobs token content
  ExceptT.mk (.done (stored contract finalized content))

end Uploads

section Edits

variable (contract : EditContract) (gateway : GatewayConfig) (call : SiteCall)

def check (bytes : List UInt8) : Except FailureKind SiteEditRequest :=
  match contract.editRequest bytes with
  | none => .error .invalidRequest
  | some request =>
    if !contract.isDigestHex request.baseHash || !contract.isDigestHex request.contentHash then .error .invalidRequest
    else if request.idempotencyKey.isEmpty || 255 < request.idempotencyKey.utf8ByteSize then .error .invalidRequest
    else if request.contentBlob.digest ≠ ⟨"sha256",request.contentHash⟩ then .error .invalidRequest
    else if !contract.isSourceRef request.sourceRef then .error .invalidRequest
    else .ok request

/-- `notes_writes::command`; the operation id is set once the operation is minted. -/
def writeCommand (connectionId : Nat) (operation : Json) (key origin : String) : Except FailureKind FileWriteRequested :=
  let idempotencyKey := contract.sha256 key.toUTF8.toList
  if !contract.isDigestHex (contract.hex idempotencyKey) then .error .requestTimeout
  else if !contract.isWriteOrigin origin then .error .invalidRequest
  else
    let command : FileWriteRequested := ⟨0,idempotencyKey,connectionId,origin,operation⟩
    if !contract.valid command then .error .invalidRequest else .ok command

/-- The command of an edit at the place that the sites service answered -/
def editCommand (request : SiteEditRequest) (place : Scoped) : Except FailureKind FileWriteRequested :=
  if !contract.isVaultWritePath place.path then .error .upstreamInvalidResponse
  else writeCommand contract place.connectionId
    (contract.updateFile ⟨place.path,request.baseHash,request.contentBlob⟩) request.idempotencyKey ("site:" ++ call.site)

def editFingerprint (bytes : List UInt8) : List UInt8 := ("site-edits/" ++ call.site ++ "\n").toUTF8.toList ++ bytes

def editIntake (bytes : List UInt8) (request : SiteEditRequest) (command : FileWriteRequested) : EditIntake :=
  ⟨call.principal,call.correlation,request.idempotencyKey,editFingerprint call bytes,
    ⟨call.site,request.sourceRef,request.contentHash⟩,command⟩

def acceptEdit (body : Body) : Talk OperationId := do
  let bytes ← ExceptT.mk (.done ((body.toBytes maxEditBytes).elim (.error .invalidRequest) .ok))
  let request ← ExceptT.mk (.done (check contract bytes))
  let place ← scopeOf contract gateway call request.sourceRef
  let command ← ExceptT.mk (.done (editCommand contract call request place))
  ExceptT.mk (.ask (.intake (editIntake call bytes request command)) fun minted => .done minted)

end Edits

section Conflicts

variable (contract : EditContract) (gateway : GatewayConfig) (call : SiteCall)

def conflictPath (conflictId : Nat) : String := "/v1/notes/conflicts/" ++ contract.library.uuid conflictId

/-- `serde_urlencoded_pair` -/
def urlencodedPair (connectionId path : String) : String :=
  "connection_id=" ++ connectionId ++ "&path=" ++ String.ofList (Percent.encode path.toUTF8.toList)

def inScopePath (connectionId : Nat) (path : String) : String :=
  "/internal/sites/" ++ call.site ++ "/scope?" ++ urlencodedPair (contract.library.uuid connectionId) path

/-- Neither the connection nor the vault path is answered. -/
def readConflict (conflictId : String) : Talk SiteConflict :=
  match contract.parseUuid conflictId with
  | none => .mk (.done (.error .notFound))
  | some conflictId => do
    let notes ← notesJson contract gateway "GET" (conflictPath contract conflictId) (siteClaims contract call) []
      contract.notesConflict
    let sourceRef ← ask contract gateway "sites" "GET" (inScopePath contract call notes.connectionId notes.path)
      (siteClaims contract call) [] contract.inScope
    pure ⟨notes.toConflictView,sourceRef⟩

end Conflicts

section Routes

inductive OwnerRequest where
  | upload (sourceRef : String) (routeBound : Nat) (body : Body)
  | edit (body : Body)
  | conflict (conflictId : String)

inductive OwnerReply where
  | uploaded (uploaded : SiteBlobUploaded)
  | accepted (operationId : OperationId)
  | conflict (conflict : SiteConflict)

/-- `upload`, `edit` and `conflict` -/
def OwnerRequest.program (contract : EditContract) (gateway : GatewayConfig) (call : SiteCall) :
    OwnerRequest → Talk OwnerReply
  | .upload sourceRef routeBound body => do return .uploaded (← uploadContent contract gateway call sourceRef routeBound body)
  | .edit body => do return .accepted (← acceptEdit contract gateway call body)
  | .conflict conflictId => do return .conflict (← readConflict contract gateway call conflictId)

end Routes

end Ratatoskr.Sites
