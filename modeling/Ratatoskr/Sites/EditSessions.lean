import Ratatoskr.Sites.EditScopes

/-! The session that an upload opens at notes. Whatever notes answers, the session gets the content as its one chunk, its
end is asked for only then, and one that is not finalized is closed, once. -/
namespace Ratatoskr.Sites

open Dialogue
open Gateway (Body GatewayConfig HeaderMap Loopback Transport fetchJson loopback)
open PublicApi (FailureKind)

section Sessions

/-- What has become of the session of an upload -/
inductive UploadSession where
  | unopened | refused
  | opened (blobs token : String)
  | held (blobs token : String)
  | failed (blobs token : String)
  | finalized (document : Json)
  | closed

variable (contract : EditContract) (gateway : GatewayConfig) (content : List UInt8)

/-- Whether notes has a listener and the path makes a URI there -/
def addressable (path : String) : Bool :=
  (gateway.routes "notes").any fun route => contract.library.isUri (Gateway.loopbackUri route path)

def asksNotes (request : Loopback) (method path : String) (body : List UInt8) : Bool :=
  request.service == "notes" && request.method == method && request.path == path && request.body == body

def closes (request : Loopback) (blobs token : String) : Bool := asksNotes request "DELETE" (sessionPath blobs token) []

/-- Where an answer leaves the session -/
def landed (answer : Except FailureKind Json) (otherwise_ : UploadSession) (read : Json → UploadSession) : UploadSession :=
  match answer with
  | .ok document => read document
  | .error _ => otherwise_

/-- Beside notes nothing gets a body. A session is opened by one declaration of the content, takes the content as its one
chunk and is then finalized. It is closed where one of these failed or has no address. -/
def UploadSession.follow (request : Loopback) (answer : Except FailureKind Json) : UploadSession → Option UploadSession
  | .unopened =>
    if request.service != "notes" then if request.body.isEmpty then some .unopened else none
    else if request.method == "POST" && request.body == declared contract content then
      some (landed answer .refused fun document => (tokenOf document).elim .refused (.opened request.path))
    else none
  | .opened blobs token =>
    if asksNotes request "PUT" (chunkPath blobs token) content then
      some (landed answer (.failed blobs token) fun _ => .held blobs token)
    else if closes request blobs token && !addressable contract gateway (chunkPath blobs token) then some .closed
    else none
  | .held blobs token =>
    if asksNotes request "POST" (finalizePath blobs token) (resumption contract token) then
      some (landed answer (.failed blobs token) .finalized)
    else if closes request blobs token && !addressable contract gateway (finalizePath blobs token) then some .closed
    else none
  | .failed blobs token => if closes request blobs token then some .closed else none
  | .refused | .finalized _ | .closed => none

def UploadSession.step (session : UploadSession) : Exchange Ask.Answer → Option UploadSession
  | ⟨.send request,transport⟩ =>
    session.follow contract gateway content request (fetchJson gateway true maxAnswerBytes contract.library.json transport)
  | ⟨.intake _,_⟩ => none

/-- At its end an upload tells what a finalized session stored, and refuses otherwise. A session is left open only where
it has no address to be closed at. -/
def UploadSession.Settles (result : Except FailureKind SiteBlobUploaded) : UploadSession → Prop
  | .finalized document => result = stored contract document content
  | .opened blobs token | .held blobs token | .failed blobs token =>
    addressable contract gateway (sessionPath blobs token) = false ∧ ∃ refusal, result = .error refusal
  | .unopened | .refused | .closed => ∃ refusal, result = .error refusal

/-- The session after these exchanges -/
def At (made : Exchanges) (session : UploadSession) : Prop :=
  StateMachine.run (UploadSession.step contract gateway content) .unopened made = some session

/-- A request that the session may take, whatever is answered -/
def Follows (made : Exchanges) (asked : Ask) : Prop :=
  ∃ session, At contract gateway content made session ∧
    ∀ answer, ∃ next, session.step contract gateway content ⟨asked,answer⟩ = some next

end Sessions

section Steps

variable {contract : EditContract} {gateway : GatewayConfig} {content : List UInt8} {made : Exchanges}
  {session : UploadSession}

theorem At.snoc {exchange : Exchange Ask.Answer} {next : UploadSession} (here : At contract gateway content made session)
    (stepped : session.step contract gateway content exchange = some next) :
    At contract gateway content (made ++ [exchange]) next :=
  (StateMachine.run_append_eq_some _ _ _ _ _).mpr
    ⟨session,here,(StateMachine.run_cons_eq_some _ _ _ _ _).mpr ⟨next,stepped,rfl⟩⟩

theorem addressable_of_error {method path : String} {headers : HeaderMap} {body : List UInt8} {refusal : FailureKind}
    (refused : loopback contract.library gateway "notes" method path headers body = .error refusal) :
    addressable contract gateway path = false := by
  unfold loopback at refused
  unfold addressable
  cases listed : gateway.routes "notes" with
  | none => rfl
  | some route =>
    rw [listed] at refused
    dsimp only at refused
    split at refused
    · cases refused
    · rename_i unreadable
      simpa using unreadable

/-- A question that the session takes: it is asked and moves the session, or has no address and is refused. -/
theorem follows_notes {method path : String} {headers : HeaderMap} {body : List UInt8} {value : Json → Exchanges → Prop}
    {error : FailureKind → Exchanges → Prop} (here : At contract gateway content made session) (otherwise_ : UploadSession)
    (read : Json → UploadSession)
    (moves : ∀ answer, session.follow contract gateway content ⟨"notes",method,path,headers,body⟩ answer =
      some (landed answer otherwise_ read))
    (good : ∀ document later, At contract gateway content later (read document) → value document later)
    (bad : ∀ refusal later, At contract gateway content later otherwise_ → error refusal later)
    (unaddressed : addressable contract gateway path = false → ∀ refusal, error refusal made) :
    Orderly (Follows contract gateway content) (either value error)
      (notesJson contract gateway method path headers body contract.library.json).run made := by
  unfold notesJson ask
  split
  · rename_i refusal refused
    exact secure_done (unaddressed (addressable_of_error refused) refusal)
  · rename_i request addressed
    obtain rfl := loopback_ok addressed
    refine orderly_turn ⟨session,here,fun transport => ⟨_,moves _⟩⟩ fun transport => secure_done ?_
    have there : At contract gateway content (made ++ [⟨.send ⟨"notes",method,path,headers,body⟩,transport⟩])
        (landed (fetchJson gateway true maxAnswerBytes contract.library.json transport) otherwise_ read) := here.snoc (moves _)
    cases answered : fetchJson gateway true maxAnswerBytes contract.library.json transport with
    | ok document =>
      rw [answered] at there
      exact good document _ there
    | error refusal =>
      rw [answered] at there
      exact bad refusal _ there

/-- A session whose next step failed or has no address -/
inductive Broken (contract : EditContract) (gateway : GatewayConfig) (blobs token : String) : UploadSession → Prop
  | failed : Broken contract gateway blobs token (.failed blobs token)
  | opened (unaddressed : addressable contract gateway (chunkPath blobs token) = false) :
      Broken contract gateway blobs token (.opened blobs token)
  | held (unaddressed : addressable contract gateway (finalizePath blobs token) = false) :
      Broken contract gateway blobs token (.held blobs token)

variable {blobs token : String}

theorem asksNotes_self (method path : String) (headers : HeaderMap) (body : List UInt8) :
    asksNotes ⟨"notes",method,path,headers,body⟩ method path body = true := by
  simp [asksNotes]

theorem asksNotes_other {asked method path given : String} {headers : HeaderMap} {body expected : List UInt8}
    (other : asked ≠ method) : asksNotes ⟨"notes",asked,path,headers,body⟩ method given expected = false := by
  simp [asksNotes,other]

theorem Broken.closes (broken : Broken contract gateway blobs token session) (headers : HeaderMap) (transport : Transport) :
    session.step contract gateway content ⟨.send ⟨"notes","DELETE",sessionPath blobs token,headers,[]⟩,transport⟩ =
      some .closed := by
  have own : Sites.closes ⟨"notes","DELETE",sessionPath blobs token,headers,[]⟩ blobs token = true := asksNotes_self _ _ _ _
  cases broken with
  | failed => simp only [UploadSession.step,UploadSession.follow,own,if_true]
  | opened unaddressed =>
    simp only [UploadSession.step,UploadSession.follow,own,asksNotes_other (by decide : "DELETE" ≠ "PUT"),unaddressed,
      Bool.not_false,Bool.and_true,if_true,Bool.false_eq_true,if_false]
  | held unaddressed =>
    simp only [UploadSession.step,UploadSession.follow,own,asksNotes_other (by decide : "DELETE" ≠ "POST"),unaddressed,
      Bool.not_false,Bool.and_true,if_true,Bool.false_eq_true,if_false]

theorem Broken.settles (broken : Broken contract gateway blobs token session)
    (unaddressed : addressable contract gateway (sessionPath blobs token) = false) (refusal : FailureKind) :
    session.Settles contract gateway content (.error refusal) := by
  cases broken <;> exact ⟨unaddressed,refusal,rfl⟩

end Steps

section Uploads

variable {contract : EditContract} {gateway : GatewayConfig} {call : SiteCall} {content : List UInt8} {made : Exchanges}
  {blobs token : String}

theorem follows_transfer (here : At contract gateway content made (.opened blobs token)) :
    Orderly (Follows contract gateway content)
      (either (fun document later => At contract gateway content later (.finalized document))
        fun _ later => ∃ session, At contract gateway content later session ∧ Broken contract gateway blobs token session)
      (transfer contract gateway call blobs token content).run made := by
  have sends : Orderly (Follows contract gateway content)
      (either (fun _ later => At contract gateway content later (.held blobs token))
        fun _ later => ∃ session, At contract gateway content later session ∧ Broken contract gateway blobs token session)
      (notesJson contract gateway "PUT" (chunkPath blobs token) (chunkClaims contract call) content
        contract.library.json).run made := by
    refine follows_notes here (.failed blobs token) (fun _ => .held blobs token) (fun answer => ?_) (fun _ _ held => held)
      (fun _ later failed => ⟨_,failed,.failed⟩) fun unaddressed _ => ⟨_,here,.opened unaddressed⟩
    simp only [UploadSession.follow,asksNotes_self,if_true]
  refine secure_try sends fun chunk later held => ?_
  refine follows_notes held (.failed blobs token) .finalized (fun answer => ?_) (fun _ _ finalized => finalized)
    (fun _ later failed => ⟨_,failed,.failed⟩) fun unaddressed _ => ⟨_,held,.held unaddressed⟩
  simp only [UploadSession.follow,asksNotes_self,if_true]

/-- A broken session is closed, or has no address. -/
theorem follows_closeSession {session : UploadSession} (here : At contract gateway content made session)
    (broken : Broken contract gateway blobs token session) :
    Orderly (Follows contract gateway content) (fun _ later => ∀ refusal, ∃ last, At contract gateway content later last ∧
        last.Settles contract gateway content (.error refusal))
      (closeSession contract gateway call blobs token) made := by
  unfold closeSession
  split
  · rename_i refused
    exact secure_done fun refusal => ⟨session,here,broken.settles (addressable_of_error refused) refusal⟩
  · rename_i request addressed
    obtain rfl := loopback_ok addressed
    exact orderly_turn ⟨session,here,fun transport => ⟨_,broken.closes _ transport⟩⟩
      fun transport => secure_done fun refusal => ⟨.closed,here.snoc (broken.closes _ transport),refusal,rfl⟩

theorem follows_transferOrClose (here : At contract gateway content made (.opened blobs token)) :
    Orderly (Follows contract gateway content)
      (either (fun document later => At contract gateway content later (.finalized document))
        fun refusal later => ∃ last, At contract gateway content later last ∧
          last.Settles contract gateway content (.error refusal))
      (transferOrClose contract gateway call blobs token content).run made := by
  refine secure_bind (follows_transfer here) fun result later held => ?_
  cases result with
  | ok document => exact held
  | error refusal =>
    obtain ⟨session,broken_,broken⟩ := held
    exact secure_bind (follows_closeSession broken_ broken) fun _ last settled => secure_done (settled refusal)

theorem follows_scopeOf (sourceRef : String) :
    Orderly (Follows contract gateway content) (fun _ later => At contract gateway content later .unopened)
      (scopeOf contract gateway call sourceRef).run [] := by
  unfold scopeOf
  split
  · unfold ask
    split
    · exact secure_done rfl
    · rename_i request addressed
      obtain rfl := loopback_ok addressed
      exact orderly_turn ⟨.unopened,rfl,fun transport => ⟨.unopened,rfl⟩⟩ fun transport => secure_done rfl
  · exact secure_done rfl

end Uploads

section Requests

variable (contract : EditContract) (gateway : GatewayConfig) (call : SiteCall)

/-- The session of an upload, and at its end what it settles -/
theorem follows_uploadContent (sourceRef : String) (routeBound : Nat) (body : Body) :
    Orderly (Follows contract gateway body.bytes) (fun result later => ∃ last, At contract gateway body.bytes later last ∧
        last.Settles contract gateway body.bytes result)
      (uploadContent contract gateway call sourceRef routeBound body).run [] := by
  let told (result : Except FailureKind SiteBlobUploaded) (later : Exchanges) : Prop :=
    ∃ last, At contract gateway body.bytes later last ∧ last.Settles contract gateway body.bytes result
  have ended : Orderly (Follows contract gateway body.bytes)
      (either (fun uploaded => told (.ok uploaded)) fun refusal => told (.error refusal))
      (uploadContent contract gateway call sourceRef routeBound body).run [] := by
    have located : Orderly (Follows contract gateway body.bytes)
        (either (fun _ later => At contract gateway body.bytes later .unopened) fun refusal => told (.error refusal))
        (scopeOf contract gateway call sourceRef).run [] := by
      refine (follows_scopeOf sourceRef).weaken fun result later here => ?_
      cases result with
      | ok place => exact here
      | error refusal => exact ⟨.unopened,here,refusal,rfl⟩
    refine secure_try located fun place found here => ?_
    refine secure_try (orderly_settled (fun content later => content = body.bytes ∧ later = found) (fun content read => ?_)
      fun refusal _ => ⟨.unopened,here,refusal,rfl⟩) fun content before held => ?_
    · unfold readContent at read
      repeat' split at read
      all_goals cases read
      exact ⟨rfl,rfl⟩
    obtain ⟨whole,same⟩ := held
    subst same whole
    have opens : Orderly (Follows contract gateway body.bytes)
        (either (fun document later => At contract gateway body.bytes later
            ((tokenOf document).elim .refused (.opened (blobsPath contract place.connectionId))))
          fun refusal => told (.error refusal))
        (notesJson contract gateway "POST" (blobsPath contract place.connectionId) (jsonClaims contract call)
          (declared contract body.bytes) contract.library.json).run before := by
      refine follows_notes here .refused _ (fun answer => ?_) (fun _ _ opened => opened)
        (fun refusal _ refused => ⟨.refused,refused,refusal,rfl⟩) fun _ refusal => ⟨.unopened,here,refusal,rfl⟩
      simp [UploadSession.follow]
    refine secure_try opens fun document asked opened => ?_
    refine secure_try (orderly_settled (fun token later => later = asked ∧
      At contract gateway body.bytes asked (.opened (blobsPath contract place.connectionId) token)) (fun token read => ?_)
      fun refusal unread => ?_) fun token _ held => ?_
    · cases named : tokenOf document with
      | none =>
        rw [named] at read
        cases read
      | some given =>
        rw [named] at read opened
        obtain rfl := Except.ok.inj read
        exact ⟨rfl,opened⟩
    · cases named : tokenOf document with
      | none =>
        rw [named] at opened
        exact ⟨.refused,opened,refusal,rfl⟩
      | some given =>
        rw [named] at unread
        cases unread
    obtain ⟨same,opened⟩ := held
    subst same
    refine secure_try (follows_transferOrClose opened) fun finalized last at_ => ?_
    exact orderly_settled _ (fun uploaded tells => ⟨.finalized finalized,at_,tells.symm⟩)
      fun refusal tells => ⟨.finalized finalized,at_,tells.symm⟩
  refine ended.weaken fun result later held => ?_
  cases result with
  | ok uploaded => exact held
  | error refusal => exact held

/-- Wherever an upload is left, its exchanges are those of one session, in order, and the content is in nothing but its
chunk. At its end the session is finalized and tells what was stored, or it is closed, was never opened or has no
address. -/
theorem upload_sessions_settle (sourceRef : String) (routeBound : Nat) (body : Body) (exchanges : Exchanges)
    (rest : Dialogue Ask Ask.Answer _)
    (makes : Makes (uploadContent contract gateway call sourceRef routeBound body).run exchanges rest) :
    ∃ session, At contract gateway body.bytes exchanges session ∧
      ∀ result, rest = .done result → session.Settles contract gateway body.bytes result := by
  obtain ⟨each,ends⟩ := makes.orderly anyAnswer (follows_uploadContent contract gateway call sourceRef routeBound body)
  have reached : ∃ session, At contract gateway body.bytes exchanges session := by
    rcases List.eq_nil_or_concat exchanges with rfl | ⟨before,⟨asked,answer⟩,rfl⟩
    · exact ⟨.unopened,rfl⟩
    · obtain ⟨session,here,moves⟩ := each before asked answer [] (List.concat_eq_append ..)
      obtain ⟨next,stepped⟩ := moves answer
      rw [List.concat_eq_append]
      exact ⟨next,At.snoc here stepped⟩
  obtain ⟨session,here⟩ := reached
  refine ⟨session,here,fun result done_ => ?_⟩
  subst done_
  obtain ⟨last,there,settles⟩ := ends
  obtain rfl := Option.some.inj (here.symm.trans there)
  exact settles

end Requests

/-- A session whose chunk does not arrive is closed. -/
theorem upload_sessions_settle_unreachable : ∃ exchanges session, At trialContract trialGateway [1] exchanges session ∧
    exchanges.length = 4 ∧ session.Settles trialContract trialGateway [1] (.error .upstreamUnavailable) := by
  let answered : Transport := .answered ⟨200,[],⟨[],true⟩⟩
  let blobs := blobsPath trialContract 7
  have makes : Makes (uploadContent trialContract trialGateway trialCall "note" 64 ⟨[1],true⟩).run
      [⟨.send ⟨"sites","GET",scopePath trialCall "note",siteClaims trialContract trialCall,[]⟩,answered⟩,
        ⟨.send ⟨"notes","POST",blobs,jsonClaims trialContract trialCall,declared trialContract [1]⟩,answered⟩,
        ⟨.send ⟨"notes","PUT",chunkPath blobs "t",chunkClaims trialContract trialCall,[1]⟩,.unreachable⟩,
        ⟨.send ⟨"notes","DELETE",sessionPath blobs "t",siteClaims trialContract trialCall,[]⟩,.answered ⟨204,[],⟨[],true⟩⟩⟩]
      (.done (.error .upstreamUnavailable)) := .turn (.turn (.turn (.turn (.here _))))
  obtain ⟨session,here,settles⟩ := upload_sessions_settle trialContract trialGateway trialCall "note" 64 ⟨[1],true⟩ _ _ makes
  exact ⟨_,session,here,rfl,settles _ rfl⟩

end Ratatoskr.Sites
