import Ratatoskr.Gateway.Routing
import Ratatoskr.Gateway.Upstream
import Ratatoskr.Sites.Routes
import Ratatoskr.Sites.Tables

/-! Every request under `/v1/sites`: the row of the route table that holds it, the guard of the class of the row, and what
then answers it. -/
namespace Ratatoskr.Sites

open Gateway (HeaderMap HeaderName DeviceRead isUnder stripPrefix resolved)
open Identity (Session SessionKind DeviceId DeviceKind)
open Multimap (getAll)
open PublicApi (FailureKind SiteId)

section Inputs

/-- What is decided elsewhere: the digest of a credential, what names a site, which capabilities are public, and the
parameters of a query. -/
structure RouteContract where
  digestOf : String → Digest
  isSiteId : String → Bool
  isPublic : SiteCapability → Bool
  publicly : ∀ capability, isPublic capability = true ↔
    capability ∈ [SiteCapability.pagesRead,.assetsRead,.searchPublication,.liveRelease]
  formPairs : String → List (String × String)

structure SiteRequest where
  method : Method
  path : String
  query : Option String
  headers : HeaderMap
  emptyBody : Bool

/-- What the stores and limits answer during one request. The sessions are those that their statement selects. -/
structure Answers where
  now : Timestamp
  audience : String
  session : (presented : Digest) → (audience : String) →
    Except Unit (Option {row : Session // row.authenticates presented audience now = true})
  device : DeviceRead
  admits : UserId → Bool
  grants : Except Unit (List Grant)
  hostname : SiteId → Except Unit (Option String)
  approval : SiteId → Except Unit (Option (List String × UserId))
  active : Gateway.Caller → SiteId → Except Unit (List String)
  watched : Except Unit Bool
  admitsPublic : SiteId → Bool

end Inputs

section Fields

def contentLength : HeaderName := .fromStatic "content-length" (by decide)
def originName : HeaderName := .fromStatic "origin" (by decide)
def siteRequestHeader : HeaderName := .fromStatic "x-ratatoskr-site-request" (by decide)

/-- `HeaderMap::get` -/
def firstOf (headers : HeaderMap) (name : HeaderName) : Option Gateway.HeaderValue := (getAll headers name).head?

def eqIgnoreAsciiCase (text : List Char) (other : String) : Bool := text.map Char.toLower == other.toList.map Char.toLower

/-- The digest of the credential after `Bearer` -/
def bearer (contract : RouteContract) (headers : HeaderMap) : Option Digest :=
  match ((firstOf headers Gateway.authorization).bind Gateway.HeaderValue.toStr).bind (Text.splitOnce ' ') with
  | none => none
  | some (scheme,credential) =>
    let credential := trimWhiteSpace credential
    if eqIgnoreAsciiCase scheme "bearer" && !credential.isEmpty then some (contract.digestOf (String.ofList credential)) else none

/-- The value of the site cookie -/
def siteCookie (headers : HeaderMap) : Option (List Char) :=
  (((getAll headers Gateway.cookie).filterMap Gateway.HeaderValue.toStr).flatMap (·.splitOn ';')).findSome? fun pair =>
    match Text.splitOnce '=' (trimWhiteSpace pair) with
    | some (name,value) => if name == "__Host-ratatoskr-site".toList then some value else none
    | none => none

def originIs (headers : HeaderMap) (hostname : String) : Bool :=
  ((firstOf headers originName).bind Gateway.HeaderValue.toStr).any fun origin =>
    stripPrefix "https://".toList origin == some hostname.toList

def isDeployJson (headers : HeaderMap) : Bool :=
  ((firstOf headers Gateway.contentType).bind Gateway.HeaderValue.toStr).any fun value =>
    eqIgnoreAsciiCase (trimWhiteSpace ((value.splitOn ';').headD [])) "application/json"

def declaresBody (headers : HeaderMap) : Bool :=
  ((firstOf headers contentLength).any fun length => length.val ≠ "0".toUTF8.toList) ||
    !(getAll headers Gateway.transferEncoding).isEmpty

end Fields

section Callers

variable (contract : RouteContract) (answers : Answers) (request : SiteRequest)

def callerOf (row : Session) : Gateway.Caller := ⟨row.userId,row.deviceId,row.kind⟩

/-- A `site_deployer` session authenticates only on a deploy route, which learns the site of its device. -/
def deployerSite (deployRoute : Bool) (deviceId : DeviceId) (userId : UserId) : Except FailureKind (Option SiteId) :=
  match answers.device deviceId with
  | .error () => .error .requestTimeout
  | .ok none => .error .unauthenticated
  | .ok (some device) =>
    if device.kind ≠ .siteDeployer then .ok none
    else
      match device.siteId with
      | some site =>
        if device.userId == userId && device.revokedAt.isNone && deployRoute then .ok (some site) else .error .forbidden
      | none => .error .forbidden

/-- The extractor of the principal, with the site of a deployer -/
def fromRequestParts (deployRoute : Bool) : Except FailureKind (Gateway.Caller × Option SiteId) :=
  match bearer contract request.headers with
  | none => .error .unauthenticated
  | some presented =>
    match answers.session presented answers.audience with
    | .error () => .error .requestTimeout
    | .ok none => .error .unauthenticated
    | .ok (some row) =>
      match row.val.deviceId.elim (.ok none) fun deviceId => deployerSite answers deployRoute deviceId row.val.userId with
      | .error refusal => .error refusal
      | .ok site => if answers.admits row.val.userId then .ok (callerOf row.val,site) else .error .rateLimited

/-- `require_owner` -/
def requireOwner (principal : Gateway.Caller) : Except FailureKind Unit :=
  match answers.grants with
  | .error () => .error .requestTimeout
  | .ok grants => if grants.any (Grant.holds principal.userId answers.now) then .ok () else .error .forbidden

def owner : Except FailureKind Gateway.Caller :=
  match fromRequestParts contract answers request false with
  | .error refusal => .error refusal
  | .ok (principal,_) =>
    if principal.deviceId.isSome || principal.kind == .device then .error .forbidden
    else
      match requireOwner answers principal with
      | .error refusal => .error refusal
      | .ok () => .ok principal

def deployer (site : SiteId) : Except FailureKind (Gateway.Caller × Option SiteId) :=
  match fromRequestParts contract answers request true with
  | .error refusal => .error refusal
  | .ok (principal,own) =>
    if principal.deviceId.isNone && principal.kind != .device then
      match requireOwner answers principal with
      | .error refusal => .error refusal
      | .ok () => .ok (principal,own)
    else
      match own with
      | some own => if own = site then .ok (principal,some own) else .error .capabilityNotGranted
      | none => .error .forbidden

def isSafe : Method → Bool
  | .get | .head | .options => true
  | _ => false

/-- The site owner session in the cookie, if there is one -/
def siteOwner (site : SiteId) : Except FailureKind (Option Gateway.Caller) :=
  match siteCookie request.headers with
  | none => .ok none
  | some token =>
    match answers.session (contract.digestOf (String.ofList token)) (siteAudience site) with
    | .error () => .error .requestTimeout
    | .ok none => .ok none
    | .ok (some row) =>
      if row.val.kind ≠ .siteOwner then .ok none
      else if !answers.admits row.val.userId then .error .rateLimited
      else if isSafe request.method then .ok (some ⟨row.val.userId,none,.siteOwner⟩)
      else
        match answers.hostname site with
        | .error () => .error .requestTimeout
        | .ok hostname =>
          let marked := (firstOf request.headers siteRequestHeader).any fun value => value.val = "1".toUTF8.toList
          if !marked || !hostname.any (originIs request.headers) then .error .forbidden
          else .ok (some ⟨row.val.userId,none,.siteOwner⟩)

/-- The capabilities that are approved and still active -/
def effectiveSet (principal : Option Gateway.Caller) (site : SiteId) : Except FailureKind (Option (List String)) :=
  match answers.approval site with
  | .error () => .error .upstreamUnavailable
  | .ok none => .ok none
  | .ok (some (approved,changedBy)) =>
    match answers.active (principal.getD ⟨changedBy,none,.service⟩) site with
    | .error () => .error .upstreamUnavailable
    | .ok active => .ok (some (approved.filter active.contains))

/-- `site_capabilities::require` -/
def requireCapability (principal : Gateway.Caller) (site : SiteId) (capability : String) : Except FailureKind Unit :=
  match effectiveSet answers (some principal) site with
  | .error refusal => .error refusal
  | .ok (some set) => if set.contains capability then .ok () else .error .capabilityNotGranted
  | .ok none => .error .unauthenticated

/-- `site_capabilities::public` -/
def publicCapability (site : SiteId) (capability : SiteCapability) : Except FailureKind Bool :=
  if !contract.isSiteId site then .ok false
  else (effectiveSet answers none site).map fun set => set.any (·.contains capability.asStr)

end Callers

section Dispatch

variable (contract : RouteContract) (answers : Answers) (request : SiteRequest) (site : SiteId)

/-- What answers a request after its guard. The proxy sends it to the sites service, with the site of a deployer. -/
inductive Handler where
  | requestBuild (principal : Gateway.Caller)
  | issueCode (principal : Gateway.Caller)
  | approve (principal : Gateway.Caller)
  | withdraw (principal : Gateway.Caller)
  | proxied (principal : Gateway.Caller) (deployer : Option SiteId)
  | openSession
  | content
  | events (owned : Bool)
  | upload (principal : Gateway.Caller) (sourceRef : String)
  | edit (principal : Gateway.Caller)
  | conflict (principal : Gateway.Caller) (conflictId : String)
  | search (principal : Gateway.Caller)

inductive Refusal where
  | rejected (kind : FailureKind)
  | limited
  | siteNotFound

def reject {α : Type} (kind : FailureKind) : Except Refusal α := .error (.rejected kind)

/-- The path below `/v1/sites/` -/
def belowSites (path : String) : List Char := (stripPrefix "/v1/sites/".toList path.toList).getD []

def endsWith (path suffix : String) : Bool := suffix.toList.isSuffixOf path.toList

def management : Except Refusal Handler :=
  match owner contract answers request with
  | .error refusal => reject refusal
  | .ok principal =>
    let below := belowSites request.path
    if isUnder "{site}/sign-in-codes" below then .ok (.issueCode principal)
    else if isUnder "{site}/manifest/approval" below then
      if request.method = .delete then .ok (.withdraw principal) else .ok (.approve principal)
    else .ok (.proxied principal none)

/-- The second guard of the class `release` -/
def siteRelease : Option (Except Refusal Handler) :=
  match siteOwner contract answers request site with
  | .error refusal => some (reject refusal)
  | .ok none => none
  | .ok (some principal) =>
    match requireCapability answers principal site "notes.edit" with
    | .error refusal => some (reject refusal)
    | .ok () => some (.ok (.requestBuild principal))

/-- The first one -/
def ownerRelease : Except Refusal Handler :=
  match owner contract answers request with
  | .error refusal => reject refusal
  | .ok principal => .ok (.requestBuild principal)

/-- A release from the page of the site comes with its cookie and no bearer. -/
def release : Except Refusal Handler :=
  if (getAll request.headers Gateway.authorization).isEmpty then
    (siteRelease contract answers request site).getD (ownerRelease contract answers request)
  else ownerRelease contract answers request

def deploy : Except Refusal Handler :=
  match deployer contract answers request site with
  | .error refusal => reject refusal
  | .ok (principal,own) =>
    if endsWith request.path "/deploys" && !isDeployJson request.headers then reject .invalidRequest
    else if endsWith request.path "/activate" && (declaresBody request.headers || !request.emptyBody) then reject .invalidRequest
    else .ok (.proxied principal own)

def signIn : Except Refusal Handler := if answers.admitsPublic site then .ok .openSession else .error .limited

def isContent (path : String) : Bool := (path.toList.splitOn '/')[4]? == some "content".toList

def content (capability : SiteCapability) : Except Refusal Handler :=
  if declaresBody request.headers then reject .invalidRequest
  else if !answers.admitsPublic site then .error .limited
  else
    match publicCapability contract answers site capability with
    | .ok true => .ok .content
    | .ok false => .error .siteNotFound
    | .error refusal => reject refusal

/-- A search needs a query; the library also browses. -/
def searched (query : Option String) : Bool :=
  ((contract.formPairs (query.getD "")).find? fun pair => pair.1 == "q").any fun pair => 1 ≤ pair.2.length && pair.2.length ≤ 512

/-- A route of the site owner session, after the capability check -/
def ownerRoute (principal : Gateway.Caller) : Except Refusal Handler :=
  match ((request.path.toList.splitOn '/').drop 4).map String.ofList with
  | ["drafts","sources",sourceRef,"blobs"] => .ok (.upload principal sourceRef)
  | "drafts" :: _ => .ok (.proxied principal none)
  | ["edits"] => .ok (.edit principal)
  | ["conflicts",conflictId] => .ok (.conflict principal conflictId)
  | ["library"] => .ok (.search principal)
  | ["knowledge","search"] => if searched contract request.query then .ok (.search principal) else reject .invalidRequest
  | _ => reject .routeNotFound

def siteOrigin (capability : SiteCapability) : Except Refusal Handler :=
  if isContent request.path then content contract answers request site capability
  else if contract.isPublic capability then
    if !answers.admitsPublic site then .error .limited
    else
      match publicCapability contract answers site capability with
      | .error refusal => reject refusal
      | .ok false => .error .siteNotFound
      | .ok true =>
        match siteOwner contract answers request site with
        | .error refusal => reject refusal
        | .ok none => .ok (.events false)
        | .ok (some _) =>
          match answers.watched with
          | .error () => reject .requestTimeout
          | .ok owned => .ok (.events owned)
  else
    match siteOwner contract answers request site with
    | .error refusal => reject refusal
    | .ok none => reject .unauthenticated
    | .ok (some principal) =>
      match requireCapability answers principal site capability.asStr with
      | .error refusal => reject refusal
      | .ok () => ownerRoute contract request principal

/-- The guard and the handler of a class -/
def serve (routeClass : SiteRouteClass) (capability : Option SiteCapability) : Except Refusal Handler :=
  match routeClass,capability with
  | .siteOrigin,none => reject .routeNotFound
  | .siteOrigin,some capability => siteOrigin contract answers request site capability
  | .management,_ => management contract answers request
  | .release,_ => release contract answers request site
  | .deploy,_ => deploy contract answers request site
  | .signIn,_ => signIn answers site

/-- The path, resolved, still names the site. -/
def namesSite (path : String) (site : List Char) : Bool :=
  match resolved "/v1/sites" path with
  | some kept => kept.head? == some site
  | none => false

def dispatch : Except Refusal (SiteId × Handler) :=
  match classify request.method request.path with
  | .error refusal => reject refusal
  | .ok (site,row) =>
    match row.routeClass with
    | none => reject .routeNotFound
    | some routeClass =>
      if !site.isEmpty && !namesSite request.path site then reject .routeNotFound
      else (serve contract answers request (String.ofList site) routeClass row.capability).map (String.ofList site,·)

end Dispatch

end Ratatoskr.Sites
