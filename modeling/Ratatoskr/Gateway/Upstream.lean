import Ratatoskr.Gateway.Headers
import Ratatoskr.Gateway.Paths
import Ratatoskr.Json
import Ratatoskr.PublicApi.Intake

/-! The gateway towards the notes service: the request that carries a minted operation, and what Edge makes of an
answer that is an error. -/
namespace Ratatoskr

section Faults

/-- The only thing a client learns about a failure. -/
structure PublicFault where
  status : Nat
  code : ErrorCode
  message : SafeMessage
  retryable : Bool

namespace PublicApi

def noSuchResource : SafeMessage := ⟨"No such resource.",by decide⟩

def FailureKind.fault : FailureKind → PublicFault
  | .rateLimited => ⟨429,⟨"platform.limit.rate_exceeded",by decide⟩,
      ⟨"Too many requests. Slow down and try again.",by decide⟩,true⟩
  | .overloaded => ⟨503,⟨"platform.limit.overloaded",by decide⟩,⟨"The service is busy. Try again shortly.",by decide⟩,true⟩
  | .upstreamUnavailable => ⟨503,⟨"edge.upstream_unavailable",by decide⟩,
      ⟨"The requested service is temporarily unavailable.",by decide⟩,true⟩
  | .upstreamInvalidResponse => ⟨502,⟨"edge.upstream_invalid_response",by decide⟩,
      ⟨"The requested service returned an invalid response.",by decide⟩,true⟩
  | .upstreamTimeout => ⟨504,⟨"edge.upstream_timeout",by decide⟩,
      ⟨"The requested service took too long to respond.",by decide⟩,true⟩
  | .unauthenticated => ⟨401,⟨"platform.auth.unauthenticated",by decide⟩,⟨"Authentication is required.",by decide⟩,false⟩
  | .forbidden => ⟨403,⟨"platform.auth.forbidden",by decide⟩,⟨"You are not allowed to perform this action.",by decide⟩,false⟩
  | .capabilityNotGranted => ⟨403,⟨"edge.capability_not_granted",by decide⟩,
      ⟨"This credential does not grant this capability.",by decide⟩,false⟩
  | .notFound => ⟨404,⟨"platform.resource.not_found",by decide⟩,noSuchResource,false⟩
  | .invalidRequest => ⟨400,⟨"platform.request.invalid",by decide⟩,
      ⟨"The request body is not valid for this endpoint.",by decide⟩,false⟩
  | .missingIdempotencyKey => ⟨400,⟨"platform.request.idempotency_key_required",by decide⟩,
      ⟨"This endpoint requires an Idempotency-Key header.",by decide⟩,false⟩
  | .idempotencyConflict => ⟨409,⟨"platform.request.idempotency_conflict",by decide⟩,
      ⟨"That idempotency key is in use for a different request.",by decide⟩,false⟩
  | .manifestDigestStale => ⟨409,⟨"platform.site.manifest_digest_stale",by decide⟩,
      ⟨"The manifest is not the active manifest of the site.",by decide⟩,false⟩
  | .siteHostnameTaken => ⟨409,⟨"platform.site.hostname_taken",by decide⟩,
      ⟨"Another approved site has this hostname.",by decide⟩,false⟩
  | .routeNotFound => ⟨404,⟨"platform.route.not_found",by decide⟩,noSuchResource,false⟩
  | .methodNotAllowed => ⟨405,⟨"platform.route.method_not_allowed",by decide⟩,
      ⟨"That method is not allowed for this resource.",by decide⟩,false⟩
  | .payloadTooLarge => ⟨413,⟨"platform.request.payload_too_large",by decide⟩,
      ⟨"The request body exceeds the permitted size.",by decide⟩,false⟩
  | .requestTimeout => ⟨504,⟨"platform.request.timeout",by decide⟩,
      ⟨"The request took too long and was abandoned.",by decide⟩,true⟩

/-- A refusal has an error status. -/
theorem fault_status (kind : FailureKind) : 400 ≤ kind.fault.status ∧ kind.fault.status < 600 := by
  cases kind <;> decide

end PublicApi

end Faults

namespace Gateway

open PublicApi (FailureKind)

/-- The bytes that came of a body, and whether it came to its end. -/
structure Body where
  bytes : List UInt8
  whole : Bool
deriving DecidableEq

/-- `axum::body::to_bytes` -/
def Body.toBytes (body : Body) (limit : Nat) : Option (List UInt8) :=
  if body.whole && body.bytes.length ≤ limit then some body.bytes else none

section Statuses

def isSuccess (status : Nat) : Bool := 200 ≤ status && status < 300
def isRedirection (status : Nat) : Bool := 300 ≤ status && status < 400
def isClientError (status : Nat) : Bool := 400 ≤ status && status < 500
def isServerError (status : Nat) : Bool := 500 ≤ status && status < 600

end Statuses

inductive RouteClass where
  | control | stream | transfer
deriving DecidableEq

structure RouteBudget where
  maxBodyBytes : Nat
  responseTimeoutSeconds : Nat
deriving DecidableEq

structure RouteConfig where
  route : String
  listener : String
  routeClass : Option RouteClass
deriving DecidableEq

/-- The route table and the budget of each class -/
structure GatewayConfig where
  routes : String → Option RouteConfig
  budgets : RouteClass → RouteBudget

def GatewayConfig.budget (gateway : GatewayConfig) (route : RouteConfig) : Option RouteBudget :=
  route.routeClass.map gateway.budgets

/-- The text of an id, the addresses a client can send to, and JSON as it is written and read -/
structure Library where
  uuid : Nat → String
  isUri : String → Bool
  render : Json → List UInt8
  json : List UInt8 → Option Json
  envelope : List UInt8 → Option ErrorEnvelope

/-- A request of a client or to a listener; what stands after the authority is its `path` and its `query`. -/
structure Request where
  method : String
  path : String
  query : Option String
  headers : HeaderMap
  body : Body

/-- What hyper hands over: the status and the headers are there, the body is still to be read. -/
structure UpstreamResponse where
  status : Nat
  headers : HeaderMap
  body : Body

/-- A request under way: answered, ended by a body that grew above its limit or failed, unreachable, or cut. -/
inductive Transport where
  | answered (response : UpstreamResponse)
  | tooLong
  | bodyFailed
  | unreachable
  | elapsed

/-- What `observe` finds on a response: a failure that a handler named, or a body it may keep. -/
inductive Marker where
  | authored (kind : FailureKind)
  | validated
deriving DecidableEq

/-- What a handler answers -/
structure Response where
  status : Nat
  headers : HeaderMap
  body : Body
  marker : Option Marker

/-- `platform_http::reject` -/
def reject (kind : FailureKind) : Response := ⟨kind.fault.status,[],⟨[],true⟩,some (.authored kind)⟩

def preserveContractError (response : Response) : Response := { response with marker := some .validated }

def headerOperationId : HeaderName := .fromStatic "x-ratatoskr-operation-id" (by decide)

def maxErrorEnvelopeBytes : Nat := 65536

/-- `path_and_query`, after the authority of the listener -/
def upstreamUri (route : RouteConfig) (request : Request) : String :=
  "http://" ++ route.listener ++ request.path ++ (request.query.map ("?" ++ ·)).getD ""

/-- The request of the notes listener, or why there is none. -/
def notesRequest (library : Library) (gateway : GatewayConfig) (request : Request) (claims : Claims)
    (operationId : OperationId) : Except FailureKind Request :=
  match gateway.routes "notes" with
  | none => .error .upstreamUnavailable
  | some route =>
    if !forwardable route.route request.path then .error .routeNotFound
    else
      match gateway.budget route with
      | none => .error .upstreamUnavailable
      | some _ =>
        if library.isUri (upstreamUri route request) then
          .ok { request with
            headers := mint (forwardedHeaders library.uuid request.headers claims) headerOperationId
              (library.uuid operationId) }
        else .error .upstreamUnavailable

def sendNotesMinted (library : Library) (gateway : GatewayConfig) (request : Request) (claims : Claims)
    (operationId : OperationId) (client : Request → Transport) : Except FailureKind UpstreamResponse :=
  match notesRequest library gateway request claims operationId with
  | .error fault => .error fault
  | .ok upstream =>
    match client upstream with
    | .answered response => .ok response
    | .tooLong => .error .payloadTooLarge
    | .bodyFailed => .error .invalidRequest
    | .unreachable => .error .upstreamUnavailable
    | .elapsed => .error .upstreamTimeout

def contentType : HeaderName := .fromStatic "content-type" (by decide)

/-- `Json(document)` -/
def jsonResponse (library : Library) (status : Nat) (document : Json) : Response :=
  ⟨status,mint [] contentType "application/json",⟨library.render document,true⟩,none⟩

/-- A redirect and a challenge are not relayed, and an error only when it is an envelope. -/
def responseFromUpstream (library : Library) (response : UpstreamResponse) : Response :=
  if isRedirection response.status && response.status ≠ 304 then reject .upstreamInvalidResponse
  else if response.status = 401 || response.status = 407 then reject .upstreamInvalidResponse
  else
    let headers := responseHeaders response.headers
    if !isClientError response.status && !isServerError response.status then
      ⟨response.status,headers,response.body,none⟩
    else
      match response.body.toBytes maxErrorEnvelopeBytes with
      | none => reject .upstreamInvalidResponse
      | some bytes =>
        match library.envelope bytes with
        | none => reject .upstreamInvalidResponse
        | some _ => preserveContractError ⟨response.status,headers,⟨bytes,true⟩,none⟩

end Gateway

end Ratatoskr
