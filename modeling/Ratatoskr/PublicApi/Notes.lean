import Ratatoskr.Gateway.Upstream
import Ratatoskr.Lib.Run
import Ratatoskr.Operations.Service

/-! A notes request for which Edge has minted the operation. The forward runs in a task of its own, under the
budget of the route; where it fails, the task ends the operation before it answers. -/
namespace Ratatoskr.PublicApi

open Gateway (Body Library Request Claims Transport UpstreamResponse Response GatewayConfig reject)
open Operations (Forward)
open Transaction

/-- An answer that ends the operation: the code and the retryability of the error, and the response. -/
structure Failing where
  code : ErrorCode
  retryable : Bool
  response : Response

def refuse (fault : FailureKind) : Failing := ⟨fault.fault.code,fault.fault.retryable,reject fault⟩

/-- The code of the envelope that notes answered, or else the one of an answer Edge cannot use. -/
def relayRefusal (library : Library) (relayed : Response) : Failing :=
  let bytes := (relayed.body.toBytes Gateway.maxErrorEnvelopeBytes).getD []
  let response := { relayed with body := ⟨bytes,true⟩ }
  match library.envelope bytes with
  | none => ⟨FailureKind.upstreamInvalidResponse.fault.code,FailureKind.upstreamInvalidResponse.fault.retryable,response⟩
  | some envelope => ⟨envelope.code,envelope.retryable,response⟩

def maxAnswerBytes : Nat := 16384

/-- `notes_writes::accepted` -/
def writeAccepted (library : Library) (operationId : OperationId) : Response :=
  Gateway.jsonResponse library 202
    (.object [("operation_id",.string (library.uuid operationId)),("status",.string "accepted")])

def connectAccepted (library : Library) (operationId : OperationId) (connection : Json) : Response :=
  Gateway.jsonResponse library 202
    (.object [("operation_id",.string (library.uuid operationId)),("status",.string "accepted"),
      ("connection",connection)])

/-- What becomes of the answer of the notes service -/
def forward (library : Library) (kind : Forward) (operationId : OperationId) :
    Except FailureKind UpstreamResponse → Except Failing Response
  | .error fault => .error (refuse fault)
  | .ok response =>
    if Gateway.isClientError response.status || Gateway.isServerError response.status then
      .error (relayRefusal library (Gateway.responseFromUpstream library response))
    else if kind = .writeMode ∧ Gateway.isSuccess response.status = true then .ok (writeAccepted library operationId)
    else if response.status ≠ 202 then .error (refuse .upstreamInvalidResponse)
    else
      match response.body.toBytes maxAnswerBytes with
      | none => .error (refuse .upstreamInvalidResponse)
      | some answer =>
        match library.json answer with
        | none => .error (refuse .upstreamInvalidResponse)
        | some connection => .ok (connectAccepted library operationId connection)

/-- A request whose operation is minted, with what the gateway knows of the notes service. -/
structure Minted where
  library : Library
  gateway : GatewayConfig
  request : Request
  claims : Claims
  operationId : OperationId
  kind : Forward

/-- The answer that tells a client the id of the operation that goes on -/
def Minted.Accepts (call : Minted) (response : Response) : Prop :=
  response = writeAccepted call.library call.operationId ∨
    ∃ connection, response = connectAccepted call.library call.operationId connection

/-- How far the task has come. `late` is set once the budget is spent: what is left then is not cut again. -/
inductive Phase where
  | forwarding
  | failing (late : Bool) (failing : Failing)
  /-- The clock is read, and the transaction is under way. -/
  | writing (late : Bool) (failing : Failing) (now : Timestamp)
  | done (response : Response)

inductive Client where
  | waiting
  | gone
  | answered (response : Response)

/-- Who ended the operation -/
inductive Ender where
  | edge | other
deriving DecidableEq

/-- One request while it is settled. `failed`, `ended` and `stored` are history: whether Edge set out to fail the
operation, who ended it, and the diagnostics that Edge stored. -/
structure Settling where
  rows : Db
  phase : Phase
  client : Client
  failed : Bool
  ended : Option Ender
  stored : List Operations.Diagnostic

inductive NotesEvent where
  /-- The request is sent and answered, or not. -/
  | sent (client : Request → Transport)
  | clock (now : Timestamp)
  /-- The transaction holds the row from its first statement to its end, which is here. -/
  | write
  /-- The budget is spent; a commit that was sent may have landed. -/
  | expire (landed : Bool)
  | respond
  /-- Reports, the reaper and every other writer of operations -/
  | other (action : Operations.Action)
  | disconnect
  /-- `TimeoutLayer` of the public listener answers in place of the handler. -/
  | overdue

def hasEnded (operationId : OperationId) (rows : Db) : Bool :=
  (rows (.operation operationId)).any fun record => Operations.isTerminal (Operations.OperationRecord.operation record).status

def diagnosticsOf (operationId : OperationId) (rows : Db) : List Operations.Diagnostic :=
  ((rows (.operation operationId)).map Operations.OperationRecord.diagnostics).getD []

/-- What `fail` leaves of the rows; an error of the transaction is logged only. -/
def failedRows (call : Minted) (rows : Db) (failing : Failing) (now : Timestamp) : Db :=
  (exec schema (Operations.failNotesForward call.operationId call.kind.stage call.kind.message failing.code
    failing.retryable now) rows).publish rows

/-- The answer of `TimeoutLayer` -/
def timedOut : Response := ⟨504,[],⟨[],true⟩,none⟩

namespace Settling

/-- Somebody moves the operations on, and the history is told. -/
def moved (operationId : OperationId) (ender : Ender) (s : Settling) (later : Db) : Settling :=
  { s with
    rows := later
    ended := if s.ended.isNone && hasEnded operationId later then some ender else s.ended
    stored :=
      match ender with
      | .edge => s.stored ++ (diagnosticsOf operationId later).drop (diagnosticsOf operationId s.rows).length
      | .other => s.stored }

/-- `fail` -/
def fail (call : Minted) (s : Settling) (failing : Failing) (now : Timestamp) : Settling :=
  s.moved call.operationId .edge (failedRows call s.rows failing now)

def expired (s : Settling) : Settling :=
  { s with phase := .failing true (refuse .upstreamTimeout), failed := true }

/-- An event that is not due changes nothing. -/
def step (call : Minted) (s : Settling) : NotesEvent → Settling
  | .sent client =>
    match s.phase with
    | .forwarding =>
      let answer := Gateway.sendNotesMinted call.library call.gateway call.request call.claims call.operationId client
      match forward call.library call.kind call.operationId answer with
      | .ok response => { s with phase := .done response }
      | .error failing => { s with phase := .failing false failing, failed := true }
    | _ => s
  | .clock now =>
    match s.phase with
    | .failing late failing => { s with phase := .writing late failing now }
    | _ => s
  | .write =>
    match s.phase with
    | .writing _ failing now => { s.fail call failing now with phase := .done failing.response }
    | _ => s
  | .expire landed =>
    match s.phase with
    | .forwarding | .failing false _ => s.expired
    | .writing false failing now => if landed then (s.fail call failing now).expired else s.expired
    | _ => s
  | .respond =>
    match s.phase,s.client with
    | .done response,.waiting => { s with client := .answered response }
    | _,_ => s
  | .other action => s.moved call.operationId .other (Operations.step s.rows action)
  | .disconnect =>
    match s.client with
    | .waiting => { s with client := .gone }
    | _ => s
  | .overdue =>
    match s.client with
    | .waiting => { s with client := .answered timedOut }
    | _ => s

/-- What the claim of an answer is: the client learns the id if Edge did not set out to fail the operation, and else
the operation has ended, with the one error of Edge if that ended it and none of Edge's if another had. -/
structure Told (call : Minted) (s : Settling) (response : Response) : Prop where
  accepts : call.Accepts response ↔ s.failed = false
  ended : s.failed = true → hasEnded call.operationId s.rows = true ∧ s.ended.isSome = true
  own : s.ended = some .edge → ∃ diagnostic, s.stored = [diagnostic] ∧ diagnostic ∈ diagnosticsOf call.operationId s.rows
  none_ : s.ended = some .other → s.stored = []

/-- Every answer, of the task or to the client, is told so. -/
def Honest (call : Minted) (s : Settling) : Prop :=
  ∀ response, s.phase = .done response ∨ s.client = .answered response → s.Told call response

end Settling

section Answers

variable (call : Minted)

theorem accepts_status (response : Response) (accepts : call.Accepts response) : response.status = 202 := by
  rcases accepts with rfl | ⟨connection,rfl⟩ <;> rfl

theorem rejects_of_status (response : Response) (error : 400 ≤ response.status) : ¬call.Accepts response := by
  intro accepts
  have accepted := accepts_status call response accepts
  omega

theorem refuse_rejects (fault : FailureKind) : ¬call.Accepts (refuse fault).response :=
  rejects_of_status call _ (fault_status fault).1

/-- An error stays an error, whatever is relayed of it. -/
theorem responseFromUpstream_status (library : Library) (response : UpstreamResponse)
    (error : Gateway.isClientError response.status = true ∨ Gateway.isServerError response.status = true) :
    400 ≤ (Gateway.responseFromUpstream library response).status := by
  have rejected := (fault_status .upstreamInvalidResponse).1
  have high : 400 ≤ response.status := by
    simp only [Gateway.isClientError,Gateway.isServerError,Bool.and_eq_true,decide_eq_true_eq] at error
    omega
  have plain : (!Gateway.isClientError response.status && !Gateway.isServerError response.status) = false := by
    rcases error with client | server
    · rw [client]; rfl
    · rw [server,Bool.not_true,Bool.and_false]
  unfold Gateway.responseFromUpstream
  split
  · exact rejected
  · split
    · exact rejected
    · simp only [plain,Bool.false_eq_true,if_false]
      split
      · exact rejected
      · split
        · exact rejected
        · exact high

/-- The response of an answer that is to be failed never names the operation, and every other one does. -/
theorem forward_accepts (answer : Except FailureKind UpstreamResponse) :
    match forward call.library call.kind call.operationId answer with
    | .ok response => call.Accepts response
    | .error failing => ¬call.Accepts failing.response := by
  cases answer with
  | error fault => exact refuse_rejects call fault
  | ok response =>
    have unusable := refuse_rejects call .upstreamInvalidResponse
    simp only [forward]
    split
    · rename_i answered made
      split at made
      · cases made
      · split at made
        · obtain rfl := Except.ok.inj made
          exact Or.inl rfl
        · split at made
          · cases made
          · split at made
            · cases made
            · split at made
              · cases made
              · rename_i connection _
                obtain rfl := Except.ok.inj made
                exact Or.inr ⟨connection,rfl⟩
    · rename_i failing made
      split at made
      · rename_i error
        obtain rfl := Except.error.inj made
        have high := responseFromUpstream_status call.library response (by simpa using error)
        apply rejects_of_status
        unfold relayRefusal
        dsimp only
        split <;> exact high
      · split at made
        · cases made
        · split at made
          · obtain rfl := Except.error.inj made
            exact unusable
          · split at made
            · obtain rfl := Except.error.inj made
              exact unusable
            · split at made
              · obtain rfl := Except.error.inj made
                exact unusable
              · cases made

end Answers

section Failed

variable (call : Minted) (rows : Db) (failing : Failing) (now : Timestamp)

/-- The error that Edge stores -/
def Minted.error (call : Minted) (failing : Failing) : ErrorEnvelope :=
  ⟨failing.code,⟨call.kind.message,by cases call.kind <;> decide⟩,failing.retryable⟩

theorem failNotesForward_eq : Operations.failNotesForward call.operationId call.kind.stage call.kind.message
      failing.code failing.retryable now =
    Operations.failOperation call.operationId call.kind.stage call.kind.message (.ok (call.error failing)) now := by
  have parsed : Checked.parse isSafeMessage call.kind.message = some (call.error failing).message :=
    Checked.parse_val isSafeMessage (call.error failing).message
  simp only [Operations.failNotesForward,parsed]
  rfl

variable (record : Operations.OperationRecord) (valid : Operations.Valid rows)
  (found : rows (.operation call.operationId) = some record)

include found

/-- An operation that has ended stays as it is. -/
theorem failedRows_ended (ended : Operations.isTerminal record.operation.status = true) :
    failedRows call rows failing now = rows := by
  rw [failedRows,failNotesForward_eq,Operations.exec_failOperation rows call.operationId now record found]
  cases verdict : Operations.apply record.operation.status .failed with
  | advance status => exact absurd verdict (Operations.apply_terminal _ _ _ ended)
  | duplicate | stale | conflict => rfl

include valid

/-- A live operation is ended with the error, unless its status was changed after the clock was read. -/
theorem failedRows_live (live : Operations.isTerminal record.operation.status = false) :
    (record.operation.statusChangedAt ≤ toOffset now ∧ ∃ final : Operations.OperationRecord,
      failedRows call rows failing now = Function.update rows (.operation call.operationId) (some final) ∧
      Operations.isTerminal final.operation.status = true ∧
      final.diagnostics = record.diagnostics ++ [Operations.diagnostic (.error (call.error failing)) now]) ∨
    (toOffset now < record.operation.statusChangedAt ∧ failedRows call rows failing now = rows) := by
  rw [failedRows,failNotesForward_eq,Operations.exec_failOperation rows call.operationId now record found,
    Operations.apply_failed _ live]
  dsimp only
  by_cases later : record.operation.statusChangedAt ≤ toOffset now
  · have short : isShortSafe call.kind.message = true := by cases call.kind <;> decide
    obtain ⟨final,applied⟩ := Operations.failChanges_ok record (some call.kind.stage) now call.kind.message
      (call.error failing) (valid _ _ found).checks live later (by cases call.kind <;> decide) short short
    rw [applied]
    obtain rfl := Operations.applyChanges_ok record final _ applied
    exact Or.inl ⟨later,_,rfl,rfl,rfl⟩
  · refine Or.inr ⟨Int.not_le.mp later,?_⟩
    cases applied : Operations.applyChanges record
        (Operations.failChanges (some call.kind.stage) call.kind.message (call.error failing) now) with
    | error refused => rfl
    | ok final =>
      rw [Operations.failChanges,Operations.applyChanges_append] at applied
      split at applied
      · rename_i middle advanced
        have above : Operations.rank record.operation.status < Operations.rank .failed :=
          ((Operations.apply_advance_iff _ _ _).mp (Operations.apply_failed _ live)).2
        exact absurd (Operations.advanceChanges_ok record .failed (some call.kind.stage) none now middle _
          (valid _ _ found) above (by cases call.kind <;> decide) advanced).2.2 later
      · cases applied

end Failed

namespace Settling

variable (call : Minted) (s : Settling)

/-- What is true of the history, whatever happens. -/
structure Recorded (operationId : OperationId) (s : Settling) : Prop where
  valid : Operations.Valid s.rows
  present : (s.rows (.operation operationId)).isSome
  ended : s.ended.isSome = hasEnded operationId s.rows
  own : s.ended = some .edge → ∃ diagnostic, s.stored = [diagnostic] ∧ diagnostic ∈ diagnosticsOf operationId s.rows
  none_ : s.ended ≠ some .edge → s.stored = []

/-- The phase agrees with whether Edge set out to fail the operation. -/
def Fits (call : Minted) (failed : Bool) : Phase → Prop
  | .forwarding => failed = false
  | .failing _ failing => failed = true ∧ ¬call.Accepts failing.response
  | .writing _ failing _ => failed = true ∧ ¬call.Accepts failing.response
  | .done response => call.Accepts response ↔ failed = false

structure Kept (call : Minted) (s : Settling) : Prop where
  recorded : s.Recorded call.operationId
  phase : Fits call s.failed s.phase
  answered : ∀ response, s.client = .answered response → call.Accepts response → s.phase = .done response

section Rows

variable {operationId : OperationId} {rows later : Db} (grows : Operations.Grows rows later)

include grows

theorem hasEnded_grows (ended : hasEnded operationId rows = true) : hasEnded operationId later = true := by
  obtain ⟨record,found,terminal⟩ := (Option.any_eq_true _ _).mp ended
  obtain ⟨new,kept,extends_⟩ := grows operationId record found
  exact (Option.any_eq_true _ _).mpr ⟨new,kept,by rwa [extends_.terminal terminal]⟩

theorem diagnosticsOf_grows : diagnosticsOf operationId rows <+: diagnosticsOf operationId later := by
  simp only [diagnosticsOf]
  cases found : rows (.operation operationId) with
  | none => exact List.nil_prefix
  | some record =>
    obtain ⟨new,kept,extends_⟩ := grows operationId record found
    rw [kept]
    exact extends_.diagnostics

end Rows

theorem fail_rows (failing : Failing) (now : Timestamp) : (s.fail call failing now).rows = failedRows call s.rows failing now := rfl

theorem Recorded.grow {operationId : OperationId} {s : Settling} (kept : s.Recorded operationId) {later : Db}
    (grows : Operations.Grows s.rows later) : (later (.operation operationId)).isSome := by
  obtain ⟨record,found⟩ := Option.isSome_iff_exists.mp kept.present
  obtain ⟨new,stays,_⟩ := grows operationId record found
  rw [stays]
  rfl

/-- A step of somebody else -/
theorem Recorded.other {operationId : OperationId} {s : Settling} (kept : s.Recorded operationId) {later : Db}
    (valid : Operations.Valid later) (grows : Operations.Grows s.rows later) :
    (s.moved operationId .other later).Recorded operationId := by
  have before := kept.ended
  refine ⟨valid,kept.grow grows,?_,fun own => ?_,fun others => ?_⟩
  · cases already : s.ended with
    | none => cases ended : hasEnded operationId later <;> simp [moved,already,ended]
    | some ender =>
      rw [already] at before
      have still := hasEnded_grows grows before.symm
      simp [moved,already,still]
  · cases already : s.ended with
    | none => cases ended : hasEnded operationId later <;> simp [moved,already,ended] at own
    | some ender =>
      obtain rfl : ender = .edge := by simpa [moved,already] using own
      obtain ⟨diagnostic,stored,member⟩ := kept.own already
      exact ⟨diagnostic,stored,(diagnosticsOf_grows grows).subset member⟩
  · apply kept.none_
    rintro already
    exact others (by simp [moved,already])

theorem moved_same {operationId : OperationId} {s : Settling} (kept : s.Recorded operationId) (ender : Ender) :
    (s.moved operationId ender s.rows).ended = s.ended ∧ (s.moved operationId ender s.rows).stored = s.stored := by
  have before := kept.ended
  constructor
  · cases already : s.ended with
    | none =>
      rw [already] at before
      simp [moved,already,← before]
    | some _ => simp [moved,already]
  · cases ender with
    | edge => simp [moved]
    | other => rfl

theorem fail_valid {s : Settling} (valid : Operations.Valid s.rows) (failing : Failing) (now : Timestamp) :
    Operations.Moves now s.rows (failedRows call s.rows failing now) := by
  have moves := Operations.step_moves s.rows (.write (.notesForward call.operationId call.kind failing.code
    failing.retryable now)) valid
  simp only [Operations.step,Operations.Writer.program,exec_adapt] at moves
  rw [failedRows]
  revert moves
  cases exec schema _ s.rows <;> exact id

/-- `fail`, whenever its transaction runs: the first to end the operation is the only one. -/
theorem Recorded.fail {s : Settling} (kept : s.Recorded call.operationId) (failing : Failing) (now : Timestamp) :
    (s.fail call failing now).Recorded call.operationId := by
  obtain ⟨record,found⟩ := Option.isSome_iff_exists.mp kept.present
  have before := kept.ended
  have idle (same : failedRows call s.rows failing now = s.rows) : (s.fail call failing now).Recorded call.operationId := by
    have unmoved := moved_same kept .edge
    rw [Settling.fail,same]
    exact ⟨kept.valid,kept.present,unmoved.1 ▸ kept.ended,by rw [unmoved.1,unmoved.2]; exact kept.own,
      by rw [unmoved.1,unmoved.2]; exact kept.none_⟩
  cases ended : Operations.isTerminal record.operation.status with
  | true => exact idle (failedRows_ended call s.rows failing now record found ended)
  | false =>
    rcases failedRows_live call s.rows failing now record kept.valid found ended with
      ⟨later,final,made,terminal,attached⟩ | ⟨_,same⟩
    · have live : s.ended = none := by
        rw [hasEnded,found,Option.any_some,ended] at before
        simpa using before
      have unstored := kept.none_ (by rw [live]; nofun)
      have at_ : failedRows call s.rows failing now (.operation call.operationId) = some final := by
        rw [made]
        exact Function.update_self _ _ _
      have past : hasEnded call.operationId (failedRows call s.rows failing now) = true := by
        rw [hasEnded,at_]
        exact terminal
      have added : diagnosticsOf call.operationId (failedRows call s.rows failing now) =
          diagnosticsOf call.operationId s.rows ++ [Operations.diagnostic (.error (call.error failing)) now] := by
        simp only [diagnosticsOf,at_,found]
        exact attached
      have owned : (s.fail call failing now).ended = some .edge := by simp [Settling.fail,moved,live,past]
      have stored : (s.fail call failing now).stored = [Operations.diagnostic (.error (call.error failing)) now] := by
        simp [Settling.fail,moved,unstored,added]
      refine ⟨?_,?_,?_,fun _ => ⟨_,stored,?_⟩,fun others => absurd owned others⟩
      · exact (fail_valid call kept.valid failing now).valid
      · rw [fail_rows,at_]
        rfl
      · rw [owned,fail_rows,past]
        rfl
      · rw [fail_rows,added]
        exact List.mem_append_right _ (List.mem_singleton.mpr rfl)
    · exact idle same

/-- What a step does to the operations -/
theorem step_grows (event : NotesEvent) (valid : Operations.Valid s.rows) : Operations.Grows s.rows (s.step call event).rows := by
  have stay := Operations.Grows.refl s.rows
  have fails (failing : Failing) (now : Timestamp) : Operations.Grows s.rows (s.fail call failing now).rows :=
    (fail_valid call valid failing now).grows
  cases event with
  | sent client =>
    simp only [step]
    split
    · split <;> exact stay
    · exact stay
  | clock now =>
    simp only [step]
    split <;> exact stay
  | write =>
    simp only [step]
    split
    · exact fails _ _
    · exact stay
  | expire landed =>
    simp only [step]
    split
    · exact stay
    · exact stay
    · split
      · exact fails _ _
      · exact stay
    · exact stay
  | respond =>
    simp only [step]
    split <;> exact stay
  | other action => exact (Operations.step_moves s.rows action valid).grows
  | disconnect | overdue =>
    simp only [step]
    split <;> exact stay

/-- A task that is done stays so. -/
theorem step_done (event : NotesEvent) (response : Response) (done : s.phase = .done response) :
    (s.step call event).phase = .done response ∧ (s.step call event).failed = s.failed := by
  cases event with
  | sent | clock | write | expire => simp [step,done]
  | other => exact ⟨done,rfl⟩
  | respond | disconnect | overdue =>
    simp only [step]
    split <;> exact ⟨by assumption,rfl⟩

theorem step_failed (event : NotesEvent) (failed : s.failed = true) : (s.step call event).failed = true := by
  cases event with
  | sent client =>
    simp only [step]
    split
    · split
      · exact failed
      · rfl
    · exact failed
  | clock | write | respond | disconnect | overdue =>
    simp only [step]
    split <;> exact failed
  | expire landed =>
    simp only [step]
    split
    · rfl
    · rfl
    · split <;> rfl
    · exact failed
  | other => exact failed

/-- What is recorded does not depend on the task or on the client. -/
theorem Recorded.congr {operationId : OperationId} {s t : Settling} (kept : s.Recorded operationId) (rows : t.rows = s.rows)
    (ended : t.ended = s.ended) (stored : t.stored = s.stored) : t.Recorded operationId := by
  obtain ⟨_,_,_,_,_,_⟩ := t
  cases rows
  cases ended
  cases stored
  exact ⟨kept.valid,kept.present,kept.ended,kept.own,kept.none_⟩

theorem Recorded.step {s : Settling} (kept : s.Recorded call.operationId) (event : NotesEvent) :
    (s.step call event).Recorded call.operationId := by
  have same {t : Settling} (rows : t.rows = s.rows) (ended : t.ended = s.ended) (stored : t.stored = s.stored) :
      t.Recorded call.operationId := kept.congr rows ended stored
  cases event with
  | sent client =>
    simp only [Settling.step]
    split
    · split <;> exact same rfl rfl rfl
    · exact kept
  | clock | respond | disconnect | overdue =>
    simp only [Settling.step]
    split <;> exact same rfl rfl rfl
  | write =>
    simp only [Settling.step]
    split
    · rename_i failing now _
      exact (kept.fail call failing now).congr rfl rfl rfl
    · exact kept
  | expire landed =>
    simp only [Settling.step]
    split
    · exact same rfl rfl rfl
    · exact same rfl rfl rfl
    · rename_i failing now _
      split
      · exact (kept.fail call failing now).congr rfl rfl rfl
      · exact same rfl rfl rfl
    · exact kept
  | other action =>
    have moves := Operations.step_moves s.rows action kept.valid
    exact kept.other moves.valid moves.grows

theorem Fits.step {s : Settling} (fits : Fits call s.failed s.phase) (event : NotesEvent) :
    Fits call (s.step call event).failed (s.step call event).phase := by
  have timeout : Fits call true (.failing true (refuse .upstreamTimeout)) := ⟨rfl,refuse_rejects call _⟩
  cases event with
  | sent client =>
    simp only [Settling.step]
    split
    · rename_i forwarding
      rw [forwarding] at fits
      have told := forward_accepts call (Gateway.sendNotesMinted call.library call.gateway call.request call.claims
        call.operationId client)
      split
      · rename_i response made
        rw [made] at told
        exact iff_of_true told fits
      · rename_i failing made
        rw [made] at told
        exact ⟨rfl,told⟩
    · exact fits
  | clock now =>
    simp only [Settling.step]
    split
    · rename_i failing writing
      rw [writing] at fits
      exact fits
    · exact fits
  | write =>
    simp only [Settling.step]
    split
    · rename_i failing now writing
      rw [writing] at fits
      exact iff_of_false fits.2 (by simp [Settling.fail,moved,fits.1])
    · exact fits
  | expire landed =>
    simp only [Settling.step]
    split
    · exact timeout
    · exact timeout
    · split <;> exact timeout
    · exact fits
  | respond | disconnect | overdue =>
    simp only [Settling.step]
    split <;> exact fits
  | other action => exact fits

theorem Kept.step {s : Settling} (kept : s.Kept call) (event : NotesEvent) : (s.step call event).Kept call := by
  refine ⟨kept.recorded.step call event,Fits.step call kept.phase event,fun response at_ accepts => ?_⟩
  by_cases before : s.client = .answered response
  · exact (step_done call s event response (kept.answered response before accepts)).1
  cases event with
  | sent client =>
    simp only [Settling.step] at at_
    split at at_
    · split at at_ <;> exact absurd at_ before
    · exact absurd at_ before
  | clock =>
    simp only [Settling.step] at at_
    split at at_ <;> exact absurd at_ before
  | write =>
    simp only [Settling.step] at at_
    split at at_ <;> exact absurd at_ before
  | expire landed =>
    simp only [Settling.step] at at_
    split at at_
    · exact absurd at_ before
    · exact absurd at_ before
    · split at at_ <;> exact absurd at_ before
    · exact absurd at_ before
  | other action => exact absurd at_ before
  | respond =>
    simp only [Settling.step] at at_ ⊢
    split at at_
    · rename_i made done waiting
      obtain rfl := Client.answered.inj at_
      simp [done]
    · exact absurd at_ before
  | disconnect =>
    simp only [Settling.step] at at_
    split at at_
    · cases at_
    · exact absurd at_ before
  | overdue =>
    simp only [Settling.step] at at_
    split at at_
    · obtain rfl := Client.answered.inj at_
      exact absurd accepts (rejects_of_status call timedOut (by decide))
    · exact absurd at_ before

/-- Of what an answer tells, only this much depends on how the request went. -/
theorem Kept.told {s : Settling} (kept : s.Kept call) {response : Response}
    (accepts : call.Accepts response ↔ s.failed = false)
    (ended : s.failed = true → hasEnded call.operationId s.rows = true) : s.Told call response := by
  refine ⟨accepts,fun failed => ⟨ended failed,kept.recorded.ended.trans (ended failed)⟩,kept.recorded.own,fun other => ?_⟩
  apply kept.recorded.none_
  rw [other]
  nofun

/-- What an answer has told stays true. -/
theorem Told.step {s : Settling} (kept : s.Kept call) (event : NotesEvent) {response : Response}
    (told : s.Told call response) (at_ : s.phase = .done response ∨ s.client = .answered response) :
    (s.step call event).Told call response := by
  have next := kept.step call event
  cases failed : s.failed with
  | true =>
    have still := step_failed call s event failed
    have rejected : ¬call.Accepts response := fun accepts => by simp [told.accepts.mp accepts] at failed
    refine next.told call (iff_of_false rejected (by simp [still])) fun _ => ?_
    exact hasEnded_grows (step_grows call s event kept.recorded.valid) (told.ended failed).1
  | false =>
    have accepts := told.accepts.mpr failed
    have done : s.phase = .done response := at_.elim id fun answered => kept.answered response answered accepts
    have same := (step_done call s event response done).2.trans failed
    exact next.told call (iff_of_true accepts same) fun other => by simp [same] at other

/-- At its terminal write the operation has ended or has not changed since the clock was read, and the listener does
not answer for a handler whose operation still goes on. -/
def Timely (call : Minted) (s : Settling) : NotesEvent → Prop
  | .write => ∀ late failing now, s.phase = .writing late failing now →
      ∀ record, s.rows (.operation call.operationId) = some record →
        Operations.isTerminal (Operations.OperationRecord.operation record).status = false →
        record.operation.statusChangedAt ≤ toOffset now
  | .overdue => s.client = .waiting → s.failed = true ∧ hasEnded call.operationId s.rows = true
  | _ => True

/-- The write ends the operation exactly when it comes in time. -/
theorem fail_ends_iff {s : Settling} (kept : s.Recorded call.operationId) (failing : Failing) (now : Timestamp) :
    hasEnded call.operationId (s.fail call failing now).rows = true ↔
      ∀ record, s.rows (.operation call.operationId) = some record →
        Operations.isTerminal (Operations.OperationRecord.operation record).status = false →
        record.operation.statusChangedAt ≤ toOffset now := by
  obtain ⟨record,found⟩ := Option.isSome_iff_exists.mp kept.present
  simp only [found,Option.some.injEq,forall_eq',fail_rows]
  cases ended : Operations.isTerminal record.operation.status with
  | true =>
    rw [failedRows_ended call s.rows failing now record found ended,hasEnded,found,Option.any_some,ended]
    simp
  | false =>
    rcases failedRows_live call s.rows failing now record kept.valid found ended with
      ⟨later,final,made,terminal,_⟩ | ⟨before,same⟩
    · rw [hasEnded,made,Function.update_self]
      exact iff_of_true terminal fun _ => later
    · rw [same,hasEnded,found,Option.any_some,ended]
      exact iff_of_false nofun fun timely => absurd (timely rfl) (Int.not_le.mpr before)

/-- Where an answer comes from -/
theorem step_answers (event : NotesEvent) (response : Response) (fits : Fits call s.failed s.phase)
    (at_ : (s.step call event).phase = .done response ∨ (s.step call event).client = .answered response) :
    (s.phase = .done response ∨ s.client = .answered response) ∨
    ((s.step call event).phase = .done response ∧ (s.step call event).failed = false) ∨
    (event = .write ∧ ∃ late failing now, s.phase = .writing late failing now ∧ response = failing.response) ∨
    event = .overdue ∧ s.client = .waiting ∧ response = timedOut := by
  cases event with
  | sent client =>
    simp only [Settling.step] at at_ ⊢
    split at at_
    · rename_i forwarding
      rw [forwarding] at fits
      split at at_
      · exact at_.elim (fun done => Or.inr (Or.inl ⟨done,fits⟩)) fun answered => Or.inl (Or.inr answered)
      · exact at_.elim nofun fun answered => Or.inl (Or.inr answered)
    · exact Or.inl at_
  | clock now =>
    simp only [Settling.step] at at_
    split at at_
    · exact at_.elim nofun fun answered => Or.inl (Or.inr answered)
    · exact Or.inl at_
  | write =>
    simp only [Settling.step] at at_
    split at at_
    · rename_i late failing now writing
      exact at_.elim (fun done => Or.inr (Or.inr (Or.inl ⟨rfl,late,failing,now,writing,(Phase.done.inj done).symm⟩)))
        fun answered => Or.inl (Or.inr answered)
    · exact Or.inl at_
  | expire landed =>
    simp only [Settling.step] at at_
    split at at_
    · exact at_.elim nofun fun answered => Or.inl (Or.inr answered)
    · exact at_.elim nofun fun answered => Or.inl (Or.inr answered)
    · split at at_ <;> exact at_.elim nofun fun answered => Or.inl (Or.inr answered)
    · exact Or.inl at_
  | other action => exact Or.inl at_
  | respond =>
    simp only [Settling.step] at at_
    split at at_
    · rename_i made done _
      exact at_.elim (fun same => Or.inl (Or.inl same)) fun answered =>
        Or.inl (Or.inl (Client.answered.inj answered ▸ done))
    · exact Or.inl at_
  | disconnect =>
    simp only [Settling.step] at at_
    split at at_
    · exact at_.elim (fun done => Or.inl (Or.inl done)) nofun
    · exact Or.inl at_
  | overdue =>
    simp only [Settling.step] at at_
    split at at_
    · rename_i waiting
      exact at_.elim (fun done => Or.inl (Or.inl done)) fun answered =>
        Or.inr (Or.inr (Or.inr ⟨rfl,waiting,(Client.answered.inj answered).symm⟩))
    · exact Or.inl at_

theorem honest_of_timely {s : Settling} (kept : s.Kept call) (honest : s.Honest call) (event : NotesEvent)
    (timely : s.Timely call event) : (s.step call event).Honest call := by
  intro response at_
  have next := kept.step call event
  rcases step_answers call s event response kept.phase at_ with
    old | ⟨done,kept_⟩ | ⟨rfl,late,failing,now,writing,rfl⟩ | ⟨rfl,waiting,rfl⟩
  · exact (honest response old).step call kept event old
  · have fits := next.phase
    rw [done] at fits
    exact next.told call fits fun failed => by simp [kept_] at failed
  · have fits := kept.phase
    rw [writing] at fits
    have made : s.step call .write = { s.fail call failing now with phase := .done failing.response } := by
      simp [Settling.step,writing]
    refine next.told call (iff_of_false fits.2 (by simp [step_failed call s .write fits.1])) fun _ => ?_
    rw [made]
    exact (fail_ends_iff call kept.recorded failing now).mpr (timely late failing now writing)
  · obtain ⟨failed,ended⟩ := timely waiting
    have still := step_failed call s .overdue failed
    refine next.told call (iff_of_false (rejects_of_status call timedOut (by decide)) (by simp [still])) fun _ => ?_
    exact hasEnded_grows (step_grows call s .overdue kept.recorded.valid) ended

theorem timely_of_honest {s : Settling} (kept : s.Kept call) (event : NotesEvent)
    (honest : (s.step call event).Honest call) : s.Timely call event := by
  cases event with
  | write =>
    intro late failing now writing
    have fits := kept.phase
    rw [writing] at fits
    have made : s.step call .write = { s.fail call failing now with phase := .done failing.response } := by
      simp [Settling.step,writing]
    have told := honest failing.response (Or.inl (by rw [made]))
    have ended := (told.ended (step_failed call s .write fits.1)).1
    rw [made] at ended
    exact (fail_ends_iff call kept.recorded failing now).mp ended
  | overdue =>
    intro waiting
    have made : s.step call .overdue = { s with client := .answered timedOut } := by simp [Settling.step,waiting]
    have told := honest timedOut (Or.inr (by rw [made]))
    rw [made] at told
    have failed : s.failed = true := by
      cases unfailed : s.failed with
      | true => rfl
      | false => exact absurd (told.accepts.mpr unfailed) (rejects_of_status call timedOut (by decide))
    exact ⟨failed,(told.ended failed).1⟩
  | sent | clock | expire | respond | other | disconnect => trivial

def start (operationId : OperationId) (rows : Db) : Settling :=
  ⟨rows,.forwarding,.waiting,false,if hasEnded operationId rows then some .other else none,[]⟩

end Settling

/-- One settled request over a sequence of events -/
def settling (call : Minted) (s : Settling) (event : NotesEvent) : Option Settling := some (s.step call event)

theorem start_kept (call : Minted) (rows : Db) (valid : Operations.Valid rows)
    (minted : (rows (.operation call.operationId)).isSome) : (Settling.start call.operationId rows).Kept call := by
  refine ⟨⟨valid,minted,?_,?_,fun _ => rfl⟩,rfl,nofun⟩
  · simp only [Settling.start]
    split <;> simp [*]
  · intro own
    simp only [Settling.start] at own
    split at own <;> cases own

/-- An answer tells what became of the operation, in every state of a run: exactly when each terminal write of Edge
comes before any later change of the status, and the listener answers for no handler whose operation goes on. -/
theorem notes_answers_honest_iff (call : Minted) (rows : Db) (valid : Operations.Valid rows)
    (minted : (rows (.operation call.operationId)).isSome) (events : List NotesEvent) :
    StateMachine.Throughout (settling call) (Settling.Honest call) (Settling.start call.operationId rows) events ↔
      StateMachine.Along (settling call) (Settling.Timely call) (Settling.start call.operationId rows) events := by
  refine StateMachine.throughout_iff_along (settling call) (Settling.Kept call) _ _ ?_ (fun _ _ => rfl) ?_ _ events
    (start_kept call rows valid minted) ?_
  · rintro s event _ kept ⟨⟩
    exact kept.step call event
  · rintro s event _ kept honest ⟨⟩
    exact ⟨Settling.timely_of_honest call kept event,Settling.honest_of_timely call kept honest event⟩
  · intro response at_
    rcases at_ with done | answered
    · cases done
    · cases answered

section Overtaken

/-- The hyphenated text of a uuid -/
def hyphenated (id : Nat) : String :=
  let digits := Nat.toDigits 16 id
  let hex := List.replicate (32 - digits.length) '0' ++ digits
  let groups := [(0,8),(8,4),(12,4),(16,4),(20,12)].map fun group => (hex.drop group.1).take group.2
  String.ofList (List.intercalate ['-'] groups)

/-- A connect that no notes service answers. -/
def goneConnect : Minted where
  library := ⟨hyphenated,fun _ => true,fun _ => [],fun _ => none,fun _ => none⟩
  gateway :=
    { routes := fun service => if service = "notes" then some ⟨"/v1/notes","127.0.0.1:8098",some .control⟩ else none
      budgets := fun _ => ⟨1048576,15⟩ }
  request := ⟨"POST","/v1/notes/connections",none,[],⟨[],true⟩⟩
  claims := ⟨⟨1,none,.browser⟩,none,none,"request:1"⟩
  operationId := 0
  kind := .connect

def connectMint : Operations.Writer :=
  .mint 0 1 "notes.connection.connect" "request:1" none (some "ratatoskr-notes") none 0

def connectRows : Db := Operations.step Operations.noRows (.write connectMint)

def connectRuns : Eventing.Incoming Operations.Envelope :=
  ⟨1,"evt.ops.operation.reported.v1","ratatoskr-notes",some "user:00000000-0000-0000-0000-000000000001",
    some ⟨0,.running,none,none,[],none,[]⟩⟩

theorem connectRows_valid : Operations.Valid connectRows :=
  (Operations.step_moves Operations.noRows (.write connectMint) Operations.noRows_valid).valid

/-- The service reports that the connect runs at `reported`, after Edge has read its clock. -/
def goneEvents (reported : Timestamp) : List NotesEvent :=
  [.sent fun _ => .unreachable,.clock 1000,.other (.write (.report connectRuns reported)),.write,.respond]

/-- The report moves the operation on first, and the row refuses the older instant of Edge: the client is answered
that the service is unavailable, and the operation runs on. -/
theorem overtaken_connect_runs_on : ∃ final, StateMachine.run (settling goneConnect) (Settling.start 0 connectRows)
      (goneEvents 2000) = some final ∧
    final.client = .answered (reject .upstreamUnavailable) ∧ ¬final.Honest goneConnect := by
  refine ⟨_,rfl,rfl,fun honest => ?_⟩
  have ended := ((honest _ (Or.inr rfl)).ended rfl).1
  revert ended
  decide +kernel

/-- A report that is not later than the clock of Edge leaves the end to it. -/
theorem prompt_connect_is_ended :
    StateMachine.Throughout (settling goneConnect) (Settling.Honest goneConnect) (Settling.start 0 connectRows) (goneEvents 1000) := by
  refine (notes_answers_honest_iff goneConnect connectRows connectRows_valid (by decide +kernel) (goneEvents 1000)).mpr ?_
  refine ⟨trivial,?_⟩
  rintro _ ⟨⟩
  refine ⟨trivial,?_⟩
  rintro _ ⟨⟩
  refine ⟨trivial,?_⟩
  rintro _ ⟨⟩
  refine ⟨fun late failing now writing record found _ => ?_,?_⟩
  · obtain ⟨_,_,rfl⟩ := Phase.writing.inj writing
    obtain rfl := Option.some.inj found
    decide
  · rintro _ ⟨⟩
    refine ⟨trivial,?_⟩
    rintro _ ⟨⟩
    trivial

end Overtaken

end Ratatoskr.PublicApi
