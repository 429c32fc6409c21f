import Ratatoskr.Archives.Tables

/-! The requests on a transfer session and the sweep of the staging root, as what each does between
two of its awaited statements and file operations. -/
namespace Ratatoskr.Archives

open Operations PublicApi

/-- How a statement ended for its caller; `lost` took effect and was not answered. -/
inductive Fate where
  | done | failed | lost
deriving DecidableEq

/-- What a statement leaves. -/
def Fate.leaves {α : Type} (fate : Fate) (before after : α) : α := if fate = .failed then before else after

/-- What an awaited operation came back with. -/
inductive Event where
  | looked (found : Bool)
  | statement (fate : Fate)
  | minted (token : Token) (fate : Fate)
  | file (succeeds : Bool)
  | partly (kept : FileName → Bool)
  | read (most : Nat)
  | responded (status : Nat)
  | scanned (names : List Token)

/-- How a request is answered. -/
inductive Answer where
  | rejected (kind : FailureKind)
  | opened (token : Token) (chunkSizeBytes : Nat) (expiresAt : Timestamp)
  | received (token : Token) (chunkIndex receivedChunksCount : Nat) (idempotentReplay : Bool)
  | stored (ownerService digest mediaType : String) (lengthBytes : Nat)
  | digestMismatch (declared computed : String)
  | relayed (status : Nat)
deriving DecidableEq

/-- An archive body that was streamed to its end: the rows it was assembled from and its bytes. -/
structure Forwarded where
  request : Nat
  binding : TransferBinding
  rows : List (Nat × Chunk)
  body : List UInt8

/-- The answer of a receiver to a delivery. -/
structure Verdict where
  request : Nat
  operationId : OperationId
  token : Token
  status : Nat
deriving DecidableEq

/-- The database, the staging root and the clock. The rest is what happened so far: the tokens that were
drawn, the chunks that were recorded, the rows that reopens and sweeps deleted as they then were, the
bodies that were streamed to their end and the answers of the receivers. -/
structure World where
  tables : Tables
  staging : Staging
  clock : Timestamp
  minted : List Token
  recorded : List (Token × Nat × Chunk)
  replaced : List Transfer
  reaped : List Transfer
  forwarded : List Forwarded
  verdicts : List Verdict

/-- The instant of the database. -/
def World.now (world : World) : Int := toOffset world.clock

def World.binding (world : World) (principal : Principal) (provider : String) (operationId : OperationId)
    (token : Token) : Option TransferBinding :=
  world.tables.transferBinding world.now principal provider operationId token

section Open

structure UploadSessionRequest where
  declaredSizeBytes : Nat
  chunkSizeBytes : Nat
  mediaType : String
  digest : String

/-- A request to `open_transfer`, with what the JSON reader makes of its body. -/
structure OpenTransfer where
  provider : String
  operationId : OperationId
  principal : Principal
  body : Option UploadSessionRequest

/-- Where an `open_transfer` awaits. -/
inductive Opening where
  | authorizing
  | accepting (request : UploadSessionRequest)
  | looking (request : UploadSessionRequest) (expectedChunks : Nat) (now : Timestamp)
  | deleting (request : UploadSessionRequest) (expectedChunks : Nat) (now : Timestamp) (old : Token)
  | clearing (request : UploadSessionRequest) (expectedChunks : Nat) (now : Timestamp) (old : Token)
  | inserting (request : UploadSessionRequest) (expectedChunks : Nat) (now : Timestamp)
  | creating (request : UploadSessionRequest) (token : Token) (expiresAt : Timestamp)
  | answered (answer : Answer)

def archiveMediaType : String := "application/zip"

/-- The session that replays at the instant `now`: finalized, or open and not expired. -/
def replays (now : Timestamp) (row : Transfer) : Bool :=
  match row.sessionState with
  | .finalized => true
  | .open_ => now < fromOffset row.expiresAt
  | .failed => false

/-- Whether a stored session has the declaration of the request. -/
def declares (request : UploadSessionRequest) (row : Transfer) : Bool :=
  row.declaredSizeBytes == request.declaredSizeBytes && row.mediaType == request.mediaType &&
    row.digestSha256 == request.digest && row.chunkSizeBytes == request.chunkSizeBytes

/-- Whether the acceptance binds this caller and this declaration. -/
def OpenTransfer.bound (call : OpenTransfer) (request : UploadSessionRequest) (acceptance : AiArchiveAcceptance) : Bool :=
  acceptance.ownerUserId == call.principal.userId && some acceptance.deviceId == call.principal.deviceId &&
    acceptance.provider == call.provider && acceptance.byteSize == request.declaredSizeBytes &&
    acceptance.sha256 == request.digest

def dayLater (now : Timestamp) : Timestamp := now + Identity.hours 24

def OpenTransfer.row (call : OpenTransfer) (request : UploadSessionRequest) (expectedChunks : Nat) (now : Timestamp)
    (token : Token) : Transfer where
  resumptionToken := token
  operationId := call.operationId
  declaredSizeBytes := request.declaredSizeBytes
  mediaType := request.mediaType
  digestSha256 := request.digest
  chunkSizeBytes := request.chunkSizeBytes
  expectedChunks := expectedChunks
  sessionState := .open_
  expiresAt := toOffset (dayLater now)
  openedAt := toOffset now

variable (library : Library) (call : OpenTransfer) (world : World)

/-- What the stored session of the operation makes of the request. -/
def OpenTransfer.found (request : UploadSessionRequest) (expectedChunks : Nat) (now : Timestamp) : Opening :=
  match world.tables.sessionOf call.operationId with
  | none => .inserting request expectedChunks now
  | some row =>
    if replays now row then
      if declares request row then
        .answered (.opened row.resumptionToken request.chunkSizeBytes (fromOffset row.expiresAt))
      else .answered (.rejected .idempotencyConflict)
    else .deleting request expectedChunks now row.resumptionToken

/-- What `open_transfer` does when an awaited operation came back. -/
def openTransfer : Opening → Event → Option (World × Opening)
  | .authorizing,.looked found =>
    if !isSupportedProvider call.provider || !isExportAgent call.principal found then
      some (world,.answered (.rejected .notFound))
    else match call.body with
      | none => some (world,.answered (.rejected .invalidRequest))
      | some request =>
        if request.mediaType == archiveMediaType then some (world,.accepting request)
        else some (world,.answered (.rejected .invalidRequest))
  | .accepting request,.statement fate =>
    if fate = .done then
      match world.tables.acceptance call.operationId with
      | none => some (world,.answered (.rejected .notFound))
      | some acceptance =>
        if call.bound request acceptance then
          match library.plan request.declaredSizeBytes request.chunkSizeBytes with
          | none => some (world,.answered (.rejected .invalidRequest))
          | some plan => some (world,.looking request plan.expectedChunkCount world.clock)
        else some (world,.answered (.rejected .notFound))
    else some (world,.answered (.rejected .requestTimeout))
  | .looking request expectedChunks now,.statement fate =>
    if fate = .done then some (world,call.found world request expectedChunks now)
    else some (world,.answered (.rejected .requestTimeout))
  | .deleting request expectedChunks now old,.statement fate =>
    let gone := fun row : Transfer => row.operationId == call.operationId
    let later := { world with
      tables := fate.leaves world.tables (world.tables.deleteTransfers gone)
      replaced := fate.leaves world.replaced (world.tables.transfers.filter gone ++ world.replaced) }
    if fate = .done then some (later,.clearing request expectedChunks now old)
    else some (later,.answered (.rejected .requestTimeout))
  | .clearing request expectedChunks now old,.file succeeds =>
    if succeeds then
      some ({ world with staging := world.staging.removeFolder old },.inserting request expectedChunks now)
    else some (world,.inserting request expectedChunks now)
  | .clearing request expectedChunks now old,.partly kept =>
    some ({ world with staging := world.staging.thinFolder old kept world.clock },.inserting request expectedChunks now)
  | .inserting request expectedChunks now,.minted token fate =>
    if isTokenName token && !world.minted.contains token then
      match world.tables.insertTransfer (call.row request expectedChunks now token) with
      | none => some ({ world with minted := token :: world.minted },.answered (.rejected .requestTimeout))
      | some later =>
        let world := { world with minted := token :: world.minted, tables := fate.leaves world.tables later }
        if fate = .done then some (world,.creating request token (dayLater now))
        else some (world,.answered (.rejected .requestTimeout))
    else none
  | .creating request token expiresAt,.file succeeds =>
    if succeeds then
      some ({ world with staging := world.staging.makeFolder token world.clock },
        .answered (.opened token request.chunkSizeBytes expiresAt))
    else some (world,.answered (.rejected .requestTimeout))
  | _,_ => none

end Open

section Put

/-- A request to `put_chunk` -/
structure PutChunk where
  provider : String
  operationId : OperationId
  principal : Principal
  token : Token
  index : Nat
  body : List UInt8

/-- Where a `put_chunk` awaits. -/
inductive Putting where
  | authorizing
  | binding
  | checking (binding : TransferBinding)
  | entering (binding : TransferBinding)
  | creating (binding : TransferBinding)
  | writing (binding : TransferBinding) (file : StagedFile)
  | syncing (binding : TransferBinding) (file : StagedFile)
  | publishing (binding : TransferBinding)
  | recording (binding : TransferBinding)
  | counting (binding : TransferBinding) (idempotentReplay : Bool)
  | discarding
  | answered (answer : Answer)

variable (library : Library) (call : PutChunk) (number : Nat) (world : World)

def PutChunk.chunk : Chunk := ⟨library.sha256 call.body,call.body.length⟩

def PutChunk.temporary : FileName := .temporary call.index number

/-- Whether the chunk has the length that the plan of the session gives its index. -/
def PutChunk.admitted (binding : TransferBinding) : Putting :=
  if binding.finalized then .answered (.rejected .notFound)
  else match library.plan binding.declaredSizeBytes binding.chunkSizeBytes with
    | none => .answered (.rejected .requestTimeout)
    | some plan =>
      if plan.chunkLen call.index = some call.body.length then .checking binding
      else .answered (.rejected .invalidRequest)

/-- What `put_chunk` does when an awaited operation came back. -/
def putChunk : Putting → Event → Option (World × Putting)
  | .authorizing,.looked found =>
    if !isSupportedProvider call.provider || !isExportAgent call.principal found then
      some (world,.answered (.rejected .notFound))
    else some (world,.binding)
  | .binding,.statement fate =>
    if fate = .done then
      match world.binding call.principal call.provider call.operationId call.token with
      | none => some (world,.answered (.rejected .notFound))
      | some binding => some (world,call.admitted library binding)
    else some (world,.answered (.rejected .notFound))
  | .checking binding,.statement fate =>
    if fate = .done then
      match world.tables.chunks binding.token call.index with
      | some row =>
        if row = call.chunk library then some (world,.counting binding true)
        else some (world,.answered (.rejected .idempotencyConflict))
      | none => some (world,.entering binding)
    else some (world,.answered (.rejected .requestTimeout))
  | .entering binding,.file succeeds =>
    if succeeds then some ({ world with staging := world.staging.makeFolder binding.token world.clock },.creating binding)
    else some (world,.answered (.rejected .requestTimeout))
  | .creating binding,.file succeeds =>
    match if succeeds then world.staging.create binding.token (call.temporary number) world.clock else none with
    | some (staging,file) => some ({ world with staging := staging },.writing binding file)
    | none => some (world,.answered (.rejected .requestTimeout))
  | .writing binding file,.file succeeds =>
    if succeeds then some ({ world with staging := world.staging.write 0 file 0 call.body },.syncing binding file)
    else some (world,.discarding)
  | .syncing binding _,.file succeeds =>
    if succeeds then some (world,.publishing binding) else some (world,.discarding)
  | .publishing binding,.file succeeds =>
    match if succeeds then world.staging.rename binding.token (call.temporary number) (.chunk call.index) world.clock
        else none with
    | some staging => some ({ world with staging := staging },.recording binding)
    | none => some (world,.discarding)
  | .recording binding,.statement fate =>
    match world.tables.insertChunk binding.token call.index (call.chunk library) with
    | none => some (world,.answered (.rejected .requestTimeout))
    | some later =>
      let recorded := (binding.token,call.index,call.chunk library) :: world.recorded
      let world := { world with
        tables := fate.leaves world.tables later, recorded := fate.leaves world.recorded recorded }
      if fate = .done then some (world,.counting binding false)
      else some (world,.answered (.rejected .requestTimeout))
  | .counting binding replay,.statement fate =>
    let count := if fate = .done then (world.tables.chunkRows binding.token).length else 0
    some (world,.answered (.received binding.token call.index count replay))
  | .discarding,.file succeeds =>
    match if succeeds then world.staging.unlink call.token (call.temporary number) world.clock else none with
    | some staging => some ({ world with staging := staging },.answered (.rejected .requestTimeout))
    | none => some (world,.answered (.rejected .requestTimeout))
  | _,_ => none

end Put

section Finalize

/-- A request to `finalize_transfer`, with the token that its body names. -/
structure FinalizeTransfer where
  provider : String
  operationId : OperationId
  principal : Principal
  token : Token
  body : Option Token

/-- The assembly of an archive: the rows it goes by, those still to come, and the bytes so far. -/
structure Assembly where
  binding : TransferBinding
  rows : List (Nat × Chunk)
  file : StagedFile
  expectedIndex : Nat
  rest : List (Nat × Chunk)
  assembled : List UInt8
  assembledSize : Nat

/-- Where a `finalize_transfer` awaits. -/
inductive Finalizing where
  | authorizing
  | binding
  | listing (binding : TransferBinding)
  | creating (binding : TransferBinding) (rows : List (Nat × Chunk))
  | reading (assembly : Assembly) (row : Nat × Chunk)
  | appending (assembly : Assembly) (chunk : List UInt8)
  | syncing (assembly : Assembly)
  | dropping (binding : TransferBinding) (computed : String)
  | failing (binding : TransferBinding) (computed : String)
  | renaming (binding : TransferBinding) (rows : List (Nat × Chunk))
  | opening (binding : TransferBinding) (rows : List (Nat × Chunk))
  | streaming (binding : TransferBinding) (rows : List (Nat × Chunk)) (file : StagedFile) (sent : List UInt8)
  | awaiting (binding : TransferBinding)
  | recording (binding : TransferBinding)
  | clearing (binding : TransferBinding)
  | refusing (binding : TransferBinding) (status : Nat)
  | ending (binding : TransferBinding) (status : Nat)
  | discarding (binding : TransferBinding) (status : Nat)
  | answered (answer : Answer)

/-- `u64::saturating_add` -/
def saturatingAdd (a b : Nat) : Nat := min (a + b) 18446744073709551615

/-- The size of one frame of the forwarded body. -/
def frameBytes : Nat := 64 * 1024

def isSuccess (status : Nat) : Bool := 200 ≤ status && status < 300

/-- A client error other than the two that say "ask again". -/
def isPermanentRefusal (status : Nat) : Bool := 400 ≤ status && status < 500 && status != 408 && status != 429

def storedCompletion (binding : TransferBinding) (provider : String) : Answer :=
  if provider = "chatgpt" then .stored "ratatoskr-chatgpt" binding.digestSha256 binding.mediaType binding.declaredSizeBytes
  else if provider = "claude" then
    .stored "ratatoskr-claude-archive" binding.digestSha256 binding.mediaType binding.declaredSizeBytes
  else .rejected .notFound

variable (library : Library) (call : FinalizeTransfer) (number : Nat) (world : World)

/-- The next row of the assembly, or its end. A row out of its place ends the request. -/
def Assembly.next (assembly : Assembly) : Finalizing :=
  match assembly.rest with
  | [] => .syncing assembly
  | row :: _ => if row.1 = assembly.expectedIndex then .reading assembly row else .answered (.rejected .requestTimeout)

/-- Whether the staged bytes of a row are those that were recorded. -/
def Chunk.holds (row : Chunk) (bytes : List UInt8) : Bool :=
  row.sha256 == library.sha256 bytes && row.byteSize == bytes.length

def Assembly.append (assembly : Assembly) (chunk : List UInt8) : Assembly :=
  { assembly with
    expectedIndex := assembly.expectedIndex + 1
    rest := assembly.rest.tail
    assembled := assembly.assembled ++ chunk
    assembledSize := saturatingAdd assembly.assembledSize chunk.length }

/-- Whether the assembled bytes are the declared ones. -/
def Assembly.verified (assembly : Assembly) : Bool :=
  library.sha256 assembly.assembled == assembly.binding.digestSha256 &&
    assembly.assembledSize == assembly.binding.declaredSizeBytes

/-- What the status of the receiver makes of the delivery. -/
def delivered (binding : TransferBinding) (status : Nat) : Finalizing :=
  if isSuccess status then .recording binding
  else if isPermanentRefusal status then .refusing binding status
  else .answered (.relayed status)

/-- The receiver's answer, noted. -/
def World.responded (binding : TransferBinding) (status : Nat) : World :=
  { world with verdicts := ⟨number,call.operationId,binding.token,status⟩ :: world.verdicts }

/-- What `finalize_transfer` does when an awaited operation came back. -/
def finalizeTransfer : Finalizing → Event → Option (World × Finalizing)
  | .authorizing,.looked found =>
    if call.body ≠ some call.token then some (world,.answered (.rejected .invalidRequest))
    else if !isSupportedProvider call.provider || !isExportAgent call.principal found then
      some (world,.answered (.rejected .notFound))
    else some (world,.binding)
  | .binding,.statement fate =>
    if fate = .done then
      match world.binding call.principal call.provider call.operationId call.token with
      | none => some (world,.answered (.rejected .notFound))
      | some binding =>
        if binding.finalized then some (world,.answered (storedCompletion binding call.provider))
        else some (world,.listing binding)
    else some (world,.answered (.rejected .notFound))
  | .listing binding,.statement fate =>
    if fate = .done then
      let rows := world.tables.chunkRows binding.token
      if rows.length = binding.expectedChunks then some (world,.creating binding rows)
      else some (world,.answered (.rejected .invalidRequest))
    else some (world,.answered (.rejected .requestTimeout))
  | .creating binding rows,.file succeeds =>
    match if succeeds then world.staging.create binding.token .assembling world.clock else none with
    | some (staging,file) => some ({ world with staging := staging },Assembly.next ⟨binding,rows,file,0,rows,[],0⟩)
    | none => some (world,.answered (.rejected .requestTimeout))
  | .reading assembly row,.file succeeds =>
    match if succeeds then world.staging.read assembly.binding.token (.chunk row.1) else none with
    | some chunk =>
      if row.2.holds library chunk then some (world,.appending assembly chunk)
      else some (world,.answered (.rejected .requestTimeout))
    | none => some (world,.answered (.rejected .requestTimeout))
  | .appending assembly chunk,.file succeeds =>
    if succeeds then
      some ({ world with staging := world.staging.write 0 assembly.file assembly.assembled.length chunk },
        (assembly.append chunk).next)
    else some (world,.answered (.rejected .requestTimeout))
  | .syncing assembly,.file succeeds =>
    if succeeds then
      if assembly.verified library then some (world,.renaming assembly.binding assembly.rows)
      else some (world,.dropping assembly.binding (library.sha256 assembly.assembled))
    else some (world,.answered (.rejected .requestTimeout))
  | .dropping binding computed,.file succeeds =>
    match if succeeds then world.staging.unlink binding.token .assembling world.clock else none with
    | some staging => some ({ world with staging := staging },.failing binding computed)
    | none => some (world,.failing binding computed)
  | .failing binding computed,.statement fate =>
    some ({ world with tables := fate.leaves world.tables (world.tables.endTransfer binding.token .failed) },
      .answered (.digestMismatch binding.digestSha256 computed))
  | .renaming binding rows,.file succeeds =>
    match if succeeds then world.staging.rename binding.token .assembling .verified world.clock else none with
    | some staging => some ({ world with staging := staging },.opening binding rows)
    | none => some (world,.answered (.rejected .requestTimeout))
  | .opening binding rows,.file succeeds =>
    match if succeeds then world.staging.lookup binding.token .verified else none with
    | some file => some (world,.streaming binding rows file [])
    | none => some (world,.answered (.rejected .requestTimeout))
  | .streaming binding rows file sent,.read most =>
    let frame := ((world.staging.contents file).drop sent.length).take (min most frameBytes)
    if most = 0 then none
    else if frame = [] then
      some ({ world with forwarded := ⟨number,binding,rows,sent⟩ :: world.forwarded },.awaiting binding)
    else some (world,.streaming binding rows file (sent ++ frame))
  | .streaming binding _ _ _,.responded status => some (world.responded call number binding status,delivered binding status)
  | .awaiting binding,.responded status => some (world.responded call number binding status,delivered binding status)
  | .recording binding,.statement fate =>
    let world := { world with tables := fate.leaves world.tables (world.tables.endTransfer binding.token .finalized) }
    if fate = .done then some (world,.clearing binding)
    else some (world,.answered (.rejected .requestTimeout))
  | .clearing binding,.file succeeds =>
    let staging := if succeeds then world.staging.removeFolder binding.token else world.staging
    some ({ world with staging := staging },.answered (storedCompletion binding call.provider))
  | .clearing binding,.partly kept =>
    some ({ world with staging := world.staging.thinFolder binding.token kept world.clock },
      .answered (storedCompletion binding call.provider))
  | .refusing binding status,.statement fate =>
    some ({ world with tables := fate.leaves world.tables (world.tables.endTransfer binding.token .failed) },
      .ending binding status)
  | .ending binding status,.statement fate =>
    some ({ world with tables := fate.leaves world.tables (world.tables.failDelivery call.operationId world.clock) },
      .discarding binding status)
  | .discarding binding status,.file succeeds =>
    let staging := if succeeds then world.staging.removeFolder binding.token else world.staging
    some ({ world with staging := staging },.answered (.relayed status))
  | .discarding binding status,.partly kept =>
    some ({ world with staging := world.staging.thinFolder binding.token kept world.clock },.answered (.relayed status))
  | _,_ => none

end Finalize

section Sweep

/-- The bounds of one sweep. -/
structure SweepLimits where
  maxSessions : Nat
  maxOrphans : Nat
  terminalGrace : Timestamp
  orphanAge : Timestamp

def seconds (count : Int) : Timestamp := count * 1000000000

def SweepLimits.default : SweepLimits := ⟨200,200,seconds 600,seconds 3600⟩

/-- Why a transfer was reaped. -/
inductive Reason where
  | expired | failed | finalized | terminal
deriving DecidableEq

structure SweepReport where
  expired : Nat
  failed : Nat
  finalized : Nat
  terminal : Nat
  orphan : Nat
deriving DecidableEq

def SweepReport.count (report : SweepReport) : Reason → SweepReport
  | .expired => { report with expired := report.expired + 1 }
  | .failed => { report with failed := report.failed + 1 }
  | .finalized => { report with finalized := report.finalized + 1 }
  | .terminal => { report with terminal := report.terminal + 1 }

/-- One directory of the root that was old enough to go when it was scanned. -/
structure Orphan where
  name : Token
  modified : Timestamp
deriving DecidableEq

/-- Where a sweep awaits. -/
inductive Sweeping where
  | selecting
  | reaping (token : Token) (reason : Reason) (rest : List (Token × Reason)) (report : SweepReport)
  | deleting (token : Token) (reason : Reason) (rest : List (Token × Reason)) (report : SweepReport)
  | scanning (report : SweepReport)
  | owning (found : List Orphan) (report : SweepReport)
  | removing (orphan : Orphan) (rest : List Orphan) (report : SweepReport)
  | finished (report : SweepReport)
  | aborted

/-- A sweep, and the instant it began. -/
structure Sweep where
  limits : SweepLimits
  now : Timestamp

variable (sweep : Sweep) (world : World)

/-- The `case` of the candidate query; `none` where its `where` has no place for the row. -/
def Sweep.reason (row : Transfer) : Option Reason :=
  match world.tables.operations (.operation row.operationId) with
  | none => none
  | some record =>
    let record : OperationRecord := record
    if row.sessionState = .failed then some .failed
    else if row.sessionState = .finalized then some .finalized
    else if row.expiresAt ≤ toOffset sweep.now then some .expired
    else if record.operation.terminatedAt.any (· ≤ toOffset (sweep.now - sweep.limits.terminalGrace)) then some .terminal
    else none

/-- `order by t.opened_at, t.resumption_token` -/
def opensBefore (a b : Transfer × Reason) : Bool :=
  a.1.openedAt < b.1.openedAt || (a.1.openedAt == b.1.openedAt && a.1.resumptionToken ≤ b.1.resumptionToken)

/-- The rows of the candidate query. -/
def Sweep.candidates : List (Token × Reason) :=
  (((world.tables.transfers.filterMap fun row => (sweep.reason world row).map fun reason => (row,reason)).insertionSort
    fun a b => opensBefore a b).take sweep.limits.maxSessions).map fun found => (found.1.resumptionToken,found.2)

/-- The next candidate, or the scan for orphans. -/
def Sweeping.reap (rest : List (Token × Reason)) (report : SweepReport) : Sweeping :=
  match rest with
  | [] => .scanning report
  | (token,reason) :: rest => .reaping token reason rest report

def Sweeping.remove (rest : List Orphan) (report : SweepReport) : Sweeping :=
  match rest with
  | [] => .finished report
  | orphan :: rest => .removing orphan rest report

/-- The modification time as the reaper reads it, in whole seconds. -/
def modified (folder : Files.Folder Token FileName) : Timestamp := seconds (folder.modified / 1000000000)

/-- The directories of the scan that are named like a token and old enough, the oldest first. -/
def Sweep.orphanCandidates (names : List Token) : List Orphan :=
  (names.filterMap fun name => (world.staging.folders name).bind fun folder =>
    if isTokenName name && modified folder < sweep.now - sweep.limits.orphanAge then some ⟨name,modified folder⟩
    else none).insertionSort fun a b => a.modified < b.modified ∨ a.modified = b.modified ∧ a.name ≤ b.name

/-- What `sweep_once` does when an awaited operation came back. -/
def sweepOnce : Sweeping → Event → Option (World × Sweeping)
  | .selecting,.statement fate =>
    if fate = .done then some (world,.reap (sweep.candidates world) ⟨0,0,0,0,0⟩) else some (world,.aborted)
  | .reaping token reason rest report,.file succeeds =>
    if succeeds then some ({ world with staging := world.staging.removeFolder token },.deleting token reason rest report)
    else some (world,.reap rest report)
  | .reaping token _ rest report,.partly kept =>
    some ({ world with staging := world.staging.thinFolder token kept world.clock },.reap rest report)
  | .deleting token reason rest report,.statement fate =>
    let gone := fun row : Transfer => row.resumptionToken == token
    let later := { world with
      tables := fate.leaves world.tables (world.tables.deleteTransfers gone)
      reaped := fate.leaves world.reaped (world.tables.transfers.filter gone ++ world.reaped) }
    if fate = .done then some (later,.reap rest (report.count reason)) else some (later,.aborted)
  | .scanning report,.scanned names =>
    let found := sweep.orphanCandidates world names
    if found = [] then some (world,.finished report) else some (world,.owning found report)
  | .owning found report,.statement fate =>
    let unowned := found.filter fun orphan => (world.tables.session orphan.name).isNone
    if fate = .done then some (world,.remove (unowned.take sweep.limits.maxOrphans) report)
    else some (world,.aborted)
  | .removing orphan rest report,.file succeeds =>
    if succeeds then
      some ({ world with staging := world.staging.removeFolder orphan.name },
        .remove rest { report with orphan := report.orphan + 1 })
    else some (world,.remove rest report)
  | .removing orphan rest report,.partly kept =>
    some ({ world with staging := world.staging.thinFolder orphan.name kept world.clock },.remove rest report)
  | _,_ => none

end Sweep

end Ratatoskr.Archives
