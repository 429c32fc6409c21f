import Ratatoskr.Sites.Edits

/-! What a site owner session reaches outside Edge. Whatever the services answer, nothing is asked of notes about a
connection, and no edit is admitted for one, that the sites service did not name for the site; a conflict is told only
in scope. -/
namespace Ratatoskr.Sites

open Dialogue
open Gateway (Body GatewayConfig HeaderMap HeaderName HeaderValue Loopback Transport fetchJson loopback mint values)
open Multimap (getAll insertAll)
open PublicApi (FailureKind)

abbrev Exchanges := List (Exchange Ask.Answer)

section Purpose

variable (contract : EditContract) (gateway : GatewayConfig) (call : SiteCall)

/-- The question was asked and this was read of its answer. -/
def Answered {α : Type} (decode : List UInt8 → Option α) (made : Exchanges) (request : Loopback) (value : α) : Prop :=
  ∃ transport, (⟨.send request,transport⟩ : Exchange Ask.Answer) ∈ made ∧
    fetchJson gateway true maxAnswerBytes decode transport = .ok value

/-- The sites service has answered, for this site and under its claims, where the source is. -/
def Located (made : Exchanges) (sourceRef : String) (place : Scoped) : Prop :=
  Answered gateway contract.scopedSource made ⟨"sites","GET",scopePath call sourceRef,siteClaims contract call,[]⟩ place

def Under (base path : String) : Prop := ∃ rest, path = base ++ rest

/-- The claims that a site owner session is to have -/
def ownerClaims : List (HeaderName × String) :=
  Gateway.Claims.minted contract.library.uuid ⟨call.principal,none,none,call.correlation⟩ ++
    [(headerOrigin,"site:" ++ call.site)]

/-- Each claim once, and beside the claims nothing but the type of the body -/
structure Claimed (headers : HeaderMap) : Prop where
  claims : ∀ name text value, (name,text) ∈ ownerClaims contract call → HeaderValue.fromStr text = some value →
    getAll headers name = [value]
  only : ∀ name, name ∉ (ownerClaims contract call).map (·.1) → name ≠ Gateway.contentType → getAll headers name = []

/-- Where a request may go once this was exchanged -/
inductive Reachable (made : Exchanges) (request : Loopback) : Prop
  | site (service : request.service = "sites") (reads : request.method = "GET" ∧ request.body = [])
      (path : Under ("/internal/sites/" ++ call.site ++ "/") request.path)
  | conflict (service : request.service = "notes") (reads : request.method = "GET" ∧ request.body = [])
      (path : Under "/v1/notes/conflicts/" request.path)
  | connection (service : request.service = "notes") (sourceRef : String) (place : Scoped)
      (located : Located contract gateway call made sourceRef place)
      (path : Under (blobsPath contract place.connectionId) request.path)

/-- The edit writes the content that it names where the sites service found the source of its row, and in the name of
the site. -/
structure InScope (made : Exchanges) (edit : EditIntake) : Prop where
  owner : edit.principal = call.principal ∧ edit.row.siteId = call.site
  origin : edit.command.origin = "site:" ++ call.site
  located : ∃ place update, Located contract gateway call made edit.row.sourceRef place ∧
    edit.command.connectionId = place.connectionId ∧ edit.command.operation = contract.updateFile update ∧
    update.path = place.path ∧ update.blob.digest = ⟨"sha256",edit.row.revision⟩
  first : ∀ exchange ∈ made, ∃ request, exchange.1 = .send request

def Permitted (made : Exchanges) : Ask → Prop
  | .send request => Claimed contract call request.headers ∧ Reachable contract gateway call made request
  | .intake edit => InScope contract gateway call made edit

/-- The content went to notes as a chunk, and notes took it. -/
def Sent (made : Exchanges) (place : Scoped) (token : String) (content : List UInt8) : Prop :=
  ∃ chunk, Answered gateway contract.library.json made
    ⟨"notes","PUT",chunkPath (blobsPath contract place.connectionId) token,chunkClaims contract call,content⟩ chunk

def Finalized (made : Exchanges) (place : Scoped) (token : String) (document : Json) : Prop :=
  Answered gateway contract.library.json made ⟨"notes","POST",finalizePath (blobsPath contract place.connectionId) token,
    jsonClaims contract call,resumption contract token⟩ document

/-- The content went to notes as the chunk of a session, and notes answered that it stored it. -/
structure Stored (made : Exchanges) (uploaded : SiteBlobUploaded) : Prop where
  sent : ∃ sourceRef place token content document, Located contract gateway call made sourceRef place ∧
    Sent contract gateway call made place token content ∧ Finalized contract gateway call made place token document ∧
    (document.get "outcome").bind Json.asStr = some "stored" ∧
    (document.get "blob_ref").bind contract.blobRef = some uploaded.contentBlob ∧
    uploaded.contentHash = contract.hex (contract.sha256 content)

/-- The view is what notes answered, and the sites service was asked for its very connection and path. -/
structure Disclosed (made : Exchanges) (conflict : SiteConflict) : Prop where
  scoped_ : ∃ conflictId view, Answered gateway contract.notesConflict made
      ⟨"notes","GET",conflictPath contract conflictId,siteClaims contract call,[]⟩ view ∧
    conflict.toConflictView = view.toConflictView ∧
    ∃ text, Answered gateway contract.inScope made ⟨"sites","GET","/internal/sites/" ++ call.site ++ "/scope?" ++
        ("connection_id=" ++ contract.library.uuid view.connectionId ++ "&path=" ++ String.ofList text),
        siteClaims contract call,[]⟩ conflict.sourceRef ∧
      Percent.decode text = some view.path.toUTF8.toList ∧ ∀ c ∈ text, Percent.Plain c

def Justified (made : Exchanges) : OwnerReply → Prop
  | .uploaded uploaded => Stored contract gateway call made uploaded
  | .accepted operationId => ∃ edit, (⟨.intake edit,.ok operationId⟩ : Exchange Ask.Answer) ∈ made
  | .conflict conflict => Disclosed contract gateway call made conflict

end Purpose

section Headers

variable {contract : EditContract} {call : SiteCall}

theorem siteClaims_eq : siteClaims contract call = insertAll [] (values (ownerClaims contract call)) := by
  rw [siteClaims,Gateway.forwardedHeaders_eq,Gateway.mint_eq,ownerClaims]
  simp only [values,List.map_append,insertAll,List.foldl_append]
  rfl

/-- The names that the claims may have -/
def claimNames : List HeaderName :=
  [Gateway.headerUserId,Gateway.headerDeviceId,Gateway.headerSessionKind,Gateway.headerCorrelationId,headerOrigin]

theorem ownerClaims_names : ((ownerClaims contract call).map (·.1)).Sublist claimNames := by
  obtain ⟨⟨userId,deviceId,kind⟩,correlation,site⟩ := call
  cases deviceId <;> exact List.isSublist_iff_sublist.mp rfl

theorem ownerClaims_distinct : ((ownerClaims contract call).map (·.1)).Nodup :=
  List.Nodup.sublist ownerClaims_names (by decide)

theorem contentType_not_claim : Gateway.contentType ∉ (ownerClaims contract call).map (·.1) := by
  intro claimed
  have never : Gateway.contentType ∉ claimNames := by decide
  exact never (ownerClaims_names.subset claimed)

theorem claimed_siteClaims : Claimed contract call (siteClaims contract call) := by
  have names : (values (ownerClaims contract call)).map (·.1) = (ownerClaims contract call).map (·.1) :=
    Gateway.values_names _
  rw [siteClaims_eq]
  refine ⟨fun name text value claimed valid => ?_,fun name unclaimed _ => ?_⟩
  · refine Multimap.getAll_insertAll_of_mem (by rw [names]; exact ownerClaims_distinct) ?_
    exact List.mem_map.mpr ⟨(name,text),claimed,by rw [valid]⟩
  · exact Multimap.getAll_insertAll_of_not_mem (by rwa [names])

/-- The type of the body takes no claim away. -/
theorem claimed_typed {headers : HeaderMap} (claimed : Claimed contract call headers) (type : String) :
    Claimed contract call (mint headers Gateway.contentType type) := by
  rw [Gateway.mint_eq]
  cases HeaderValue.fromStr type with
  | none => exact claimed
  | some typed =>
    refine ⟨fun name text value given valid => ?_,fun name unclaimed other => ?_⟩
    · have different : name ≠ Gateway.contentType := by
        rintro rfl
        exact contentType_not_claim (List.mem_map.mpr ⟨_,given,rfl⟩)
      exact (Multimap.getAll_insert_of_ne different).trans (claimed.claims name text value given valid)
    · exact (Multimap.getAll_insert_of_ne other).trans (claimed.only name unclaimed other)

end Headers

section Steps

variable {contract : EditContract} {gateway : GatewayConfig} {call : SiteCall} {made later : Exchanges}

theorem loopback_ok {service method path : String} {headers : HeaderMap} {body : List UInt8} {request : Loopback}
    (addressed : loopback contract.library gateway service method path headers body = .ok request) :
    request = ⟨service,method,path,headers,body⟩ := by
  unfold loopback at addressed
  split at addressed
  · cases addressed
  · split at addressed
    · exact (Except.ok.inj addressed).symm
    · cases addressed

theorem Answered.mono {α : Type} {decode : List UInt8 → Option α} {request : Loopback} {value : α}
    (answered : Answered gateway decode made request value) (onward : made <+: later) :
    Answered gateway decode later request value := by
  obtain ⟨transport,there,read⟩ := answered
  exact ⟨transport,onward.subset there,read⟩

/-- Nothing but questions was exchanged since. -/
def Questions (made later : Exchanges) : Prop :=
  made <+: later ∧ ∀ exchange ∈ later, exchange ∈ made ∨ ∃ request, exchange.1 = .send request

/-- A question that is permitted, and what was read of its answer -/
theorem orderly_ask {α : Type} {service method path : String} {headers : HeaderMap} {body : List UInt8}
    {decode : List UInt8 → Option α} {Allowed : Exchanges → Ask → Prop}
    (permitted : Allowed made (.send ⟨service,method,path,headers,body⟩)) :
    Orderly Allowed (either (fun value after => Questions made after ∧
      Answered gateway decode after ⟨service,method,path,headers,body⟩ value) fun _ _ => True)
      (ask contract gateway service method path headers body decode).run made := by
  unfold ask
  split
  · exact trivial
  · rename_i request addressed
    obtain rfl := loopback_ok addressed
    refine orderly_turn permitted fun transport => ?_
    refine secure_done ?_
    cases read : fetchJson gateway true maxAnswerBytes decode transport with
    | error refusal => exact trivial
    | ok value =>
      refine ⟨⟨List.prefix_append _ _,fun exchange there => ?_⟩,transport,List.mem_append_right _ List.mem_cons_self,read⟩
      rcases List.mem_append.mp there with before | now
      · exact Or.inl before
      · exact Or.inr ⟨_,congrArg Sigma.fst (List.mem_singleton.mp now)⟩

/-- A step that asks nothing -/
theorem orderly_settled {α : Type} {Allowed : Exchanges → Ask → Prop} (after : α → Exchanges → Prop)
    {error : FailureKind → Exchanges → Prop} {result : Except FailureKind α}
    (met : ∀ value, result = .ok value → after value made)
    (failed : ∀ refusal, result = .error refusal → error refusal made) :
    Orderly Allowed (either after error) (ExceptT.mk (Dialogue.done result : Dialogue Ask Ask.Answer _)).run made := by
  refine secure_done ?_
  cases result with
  | error refusal => exact failed refusal rfl
  | ok value => exact met value rfl

theorem under_joined {base first second joined rest : String} (joins : joined = first ++ second) :
    Under (base ++ first) (base ++ joined ++ rest) :=
  ⟨second ++ rest,by rw [joins,← String.append_assoc,← String.append_assoc]⟩

theorem orderly_scopeOf (sourceRef : String) :
    Orderly (Permitted contract gateway call)
      (either (fun place after => Questions made after ∧ Located contract gateway call after sourceRef place) fun _ _ => True)
      (scopeOf contract gateway call sourceRef).run made := by
  unfold scopeOf
  split
  · exact orderly_ask ⟨claimed_siteClaims,.site rfl ⟨rfl,rfl⟩ (under_joined (by decide : "/sources/" = "/" ++ "sources/"))⟩
  · exact trivial

end Steps

section Uploads

variable {contract : EditContract} {gateway : GatewayConfig} {call : SiteCall} {made : Exchanges} {sourceRef : String}
  {place : Scoped}

/-- Anything below the uploads of a connection may be asked once the source was located there. -/
theorem permitted_below {method path : String} {headers : HeaderMap} {body : List UInt8}
    (located : Located contract gateway call made sourceRef place) (claimed : Claimed contract call headers)
    (below : Under (blobsPath contract place.connectionId) path) :
    Permitted contract gateway call made (.send ⟨"notes",method,path,headers,body⟩) :=
  ⟨claimed,.connection rfl sourceRef place located below⟩

theorem sessionPath_under (blobs token rest : String) : Under blobs (sessionPath blobs token ++ rest) :=
  ⟨"/" ++ token ++ rest,by simp only [sessionPath,String.append_assoc]⟩

theorem orderly_transfer (located : Located contract gateway call made sourceRef place) (token : String)
    (content : List UInt8) : Orderly (Permitted contract gateway call)
      (either (fun document after => made <+: after ∧ Sent contract gateway call after place token content ∧
        Finalized contract gateway call after place token document) fun _ _ => True)
      (transfer contract gateway call (blobsPath contract place.connectionId) token content).run made := by
  refine secure_try (orderly_ask (permitted_below located (claimed_typed claimed_siteClaims _) (sessionPath_under _ _ _)))
    fun chunk middle held => ?_
  obtain ⟨⟨onward,_⟩,sent⟩ := held
  refine (orderly_ask (permitted_below (located.mono onward) (claimed_typed claimed_siteClaims _)
    (sessionPath_under _ _ _))).weaken fun result after held => ?_
  cases result with
  | error refusal => exact trivial
  | ok document => exact ⟨onward.trans held.1.1,⟨chunk,sent.mono held.1.1⟩,held.2⟩

theorem orderly_closeSession (located : Located contract gateway call made sourceRef place) (token : String) :
    Orderly (Permitted contract gateway call) (fun _ _ => True)
      (closeSession contract gateway call (blobsPath contract place.connectionId) token) made := by
  unfold closeSession
  split
  · exact trivial
  · rename_i request addressed
    obtain rfl := loopback_ok addressed
    exact orderly_turn (permitted_below located claimed_siteClaims ⟨"/" ++ token,by rw [sessionPath,String.append_assoc]⟩)
      fun _ => secure_done trivial

theorem orderly_transferOrClose (located : Located contract gateway call made sourceRef place) (token : String)
    (content : List UInt8) : Orderly (Permitted contract gateway call)
      (either (fun document after => made <+: after ∧ Sent contract gateway call after place token content ∧
        Finalized contract gateway call after place token document) fun _ _ => True)
      (transferOrClose contract gateway call (blobsPath contract place.connectionId) token content).run made := by
  refine secure_bind ((orderly_transfer located token content).extends (List.prefix_refl made))
    fun result after held => ?_
  obtain ⟨held,onward⟩ := held
  cases result with
  | ok document => exact held
  | error refusal => exact secure_bind (orderly_closeSession (located.mono onward) token) fun _ _ _ => secure_done trivial

theorem orderly_uploadContent (sourceRef : String) (routeBound : Nat) (body : Body) :
    Orderly (Permitted contract gateway call)
      (either (fun uploaded after => Stored contract gateway call after uploaded) fun _ _ => True)
      (uploadContent contract gateway call sourceRef routeBound body).run [] := by
  refine secure_try (orderly_scopeOf sourceRef) fun place found held => ?_
  obtain ⟨_,located⟩ := held
  refine secure_try (orderly_settled (fun _ after => after = found) (fun _ _ => rfl) fun _ _ => trivial)
    fun content _ same => ?_
  subst same
  refine secure_try (orderly_ask (permitted_below located (claimed_typed claimed_siteClaims _)
    ⟨"",by rw [String.append_empty]⟩)) fun opened asked held => ?_
  obtain ⟨⟨onward,_⟩,_⟩ := held
  refine secure_try (orderly_settled (fun _ after => after = asked) (fun _ _ => rfl) fun _ _ => trivial)
    fun token _ same => ?_
  subst same
  have there := located.mono onward
  refine secure_try (orderly_transferOrClose there token content) fun document ended held => ?_
  obtain ⟨further,sent,finalized⟩ := held
  refine orderly_settled _ (fun uploaded told => ?_) fun _ _ => trivial
  unfold stored at told
  split at told
  · cases told
  · rename_i outcome
    split at told
    · cases told
    · rename_i blob named
      obtain rfl := Except.ok.inj told
      exact ⟨sourceRef,place,token,content,document,there.mono further,sent,finalized,not_not.mp outcome,named,rfl⟩

end Uploads

section Edits

variable {contract : EditContract} {gateway : GatewayConfig} {call : SiteCall} {made : Exchanges}

theorem check_ok {bytes : List UInt8} {request : SiteEditRequest} (checked : check contract bytes = .ok request) :
    request.contentBlob.digest = ⟨"sha256",request.contentHash⟩ := by
  unfold check at checked
  repeat' split at checked
  all_goals cases checked
  rename_i digest _
  exact not_not.mp digest

theorem editCommand_ok {request : SiteEditRequest} {place : Scoped} {command : Messages.FileWriteRequested}
    (built : editCommand contract call request place = .ok command) :
    command.connectionId = place.connectionId ∧ command.origin = "site:" ++ call.site ∧
      command.operation = contract.updateFile ⟨place.path,request.baseHash,request.contentBlob⟩ := by
  unfold editCommand at built
  split at built
  · cases built
  · unfold writeCommand at built
    dsimp only at built
    repeat' split at built
    all_goals cases built
    exact ⟨rfl,rfl,rfl⟩

theorem orderly_acceptEdit (body : Body) :
    Orderly (Permitted contract gateway call)
      (either (fun operationId after => Justified contract gateway call after (.accepted operationId)) fun _ _ => True)
      (acceptEdit contract gateway call body).run [] := by
  refine secure_try (orderly_settled (fun _ after => after = []) (fun _ _ => rfl) fun _ _ => trivial) fun bytes _ same => ?_
  subst same
  refine secure_try (orderly_settled (fun request after => check contract bytes = .ok request ∧ after = [])
    (fun _ checked => ⟨checked,rfl⟩) fun _ _ => trivial) fun request _ held => ?_
  obtain ⟨checked,same⟩ := held
  subst same
  refine secure_try (orderly_scopeOf request.sourceRef) fun place asked held => ?_
  obtain ⟨⟨_,questions⟩,located⟩ := held
  refine secure_try (orderly_settled
    (fun command after => editCommand contract call request place = .ok command ∧ after = asked) (fun _ built => ⟨built,rfl⟩) fun _ _ => trivial) fun command _ held => ?_
  obtain ⟨built,same⟩ := held
  subst same
  obtain ⟨connection,origin,operation⟩ := editCommand_ok built
  refine orderly_turn ⟨⟨rfl,rfl⟩,origin,⟨place,_,located,connection,operation,rfl,check_ok checked⟩,fun exchange there => ?_⟩
    fun minted => secure_done ?_
  · exact (questions exchange there).resolve_left (List.not_mem_nil)
  · cases minted with
    | error refusal => exact trivial
    | ok operationId => exact ⟨_,List.mem_append_right _ List.mem_cons_self⟩

end Edits

section Conflicts

variable {contract : EditContract} {gateway : GatewayConfig} {call : SiteCall} {made : Exchanges}

theorem orderly_readConflict (conflictId : String) :
    Orderly (Permitted contract gateway call)
      (either (fun conflict after => Disclosed contract gateway call after conflict) fun _ _ => True)
      (readConflict contract gateway call conflictId).run [] := by
  unfold readConflict
  split
  · exact trivial
  · rename_i found _
    refine secure_try (orderly_ask ⟨claimed_siteClaims,.conflict rfl ⟨rfl,rfl⟩ ⟨_,rfl⟩⟩) fun view asked held => ?_
    obtain ⟨_,read⟩ := held
    refine secure_try (orderly_ask ⟨claimed_siteClaims,.site rfl ⟨rfl,rfl⟩
      (under_joined (by decide : "/scope?" = "/" ++ "scope?"))⟩) fun sourceRef after held => ?_
    obtain ⟨⟨onward,_⟩,scoped_⟩ := held
    exact secure_done ⟨found,view,read.mono onward,rfl,Percent.encode view.path.toUTF8.toList,scoped_,
      Percent.decode_encode _,Percent.plain_encode _⟩

end Conflicts

section Requests

variable (contract : EditContract) (gateway : GatewayConfig) (call : SiteCall)

theorem orderly_program (request : OwnerRequest) :
    Orderly (Permitted contract gateway call)
      (either (fun reply after => Justified contract gateway call after reply) fun _ _ => True)
      (request.program contract gateway call).run [] := by
  cases request with
  | upload sourceRef routeBound body =>
    exact secure_try (orderly_uploadContent sourceRef routeBound body) fun uploaded after stored => secure_done stored
  | edit body => exact secure_try (orderly_acceptEdit body) fun operationId after admitted => secure_done admitted
  | conflict conflictId =>
    exact secure_try (orderly_readConflict conflictId) fun conflict after disclosed => secure_done disclosed

/-- Some answer to every request -/
def anyAnswer : (asked : Ask) → asked.Answer
  | .send _ => .unreachable
  | .intake _ => .error .requestTimeout

/-- Whatever the services and the store answer, and wherever the request is left: it has asked nothing under other
claims, nothing of notes but a conflict or what lies at the connection of a located source, and at most one edit, where
its source was located. What it tells at its end was answered so. -/
theorem owner_requests_confined (request : OwnerRequest) (exchanges : Exchanges) (rest : Dialogue Ask Ask.Answer _)
    (makes : Makes (request.program contract gateway call).run exchanges rest) :
    (∀ before asked answer later, exchanges = before ++ ⟨asked,answer⟩ :: later →
        Permitted contract gateway call before asked) ∧
      ∀ reply, rest = .done (.ok reply) → Justified contract gateway call exchanges reply := by
  obtain ⟨each,ends⟩ := makes.orderly anyAnswer (orderly_program contract gateway call request)
  refine ⟨fun before asked answer later split => each before asked answer later split,fun reply ended => ?_⟩
  subst ended
  exact ends

end Requests

section Trials

def trialContract : EditContract where
  library := ⟨fun _ => "7",fun _ => true,fun _ => [],fun _ => some (.object [("resumption_token",.string "t")]),fun _ => none⟩
  sha256 _ := 0
  hex _ := "00"
  parseUuid _ := some 7
  isSourceRef _ := true
  isDigestHex _ := true
  isVaultWritePath _ := true
  isWriteOrigin _ := true
  editRequest _ := some ⟨"note","00",⟨⟨"sha256","00"⟩,.null⟩,"00","key"⟩
  scopedSource _ := some ⟨7,"note.md"⟩
  inScope _ := some "note"
  notesConflict _ := none
  blobRef _ := none
  updateFile _ := .null
  valid _ := true

def trialGateway : GatewayConfig := ⟨fun service => some ⟨service,"127.0.0.1:1",some .control⟩,fun _ => ⟨1024,5⟩⟩
def trialCall : SiteCall := ⟨⟨1,none,.siteOwner⟩,"c","site-a"⟩

/-- An edit whose source is located is admitted. -/
theorem owner_requests_confined_edit : ∃ exchanges : Exchanges,
    exchanges.length = 2 ∧ Justified trialContract trialGateway trialCall exchanges (.accepted 9) := by
  have makes : Makes ((OwnerRequest.edit ⟨[],true⟩).program trialContract trialGateway trialCall).run
      [⟨.send ⟨"sites","GET",scopePath trialCall "note",siteClaims trialContract trialCall,[]⟩,.answered ⟨200,[],⟨[],true⟩⟩⟩,
        ⟨.intake _,.ok 9⟩] (.done (.ok (.accepted 9))) := .turn (.turn (.here _))
  exact ⟨_,rfl,(owner_requests_confined trialContract trialGateway trialCall _ _ _ makes).2 _ rfl⟩

end Trials

end Ratatoskr.Sites
