import Ratatoskr.Gateway.Upstream
import Ratatoskr.Lib.Dialogue

/-! Requests that Edge itself makes to a service at its loopback listener, and what it makes of the answers. -/
namespace Ratatoskr.Gateway

open PublicApi (FailureKind)

/-- A request of Edge; the service has its listener from the route table. -/
structure Loopback where
  service : String
  method : String
  path : String
  headers : HeaderMap
  body : List UInt8

/-- The URI of a request at the listener of its service -/
def loopbackUri (route : RouteConfig) (path : String) : String := "http://" ++ route.listener ++ path

/-- `site_edits::loopback` -/
def loopback (library : Library) (gateway : GatewayConfig) (service method path : String) (headers : HeaderMap)
    (body : List UInt8) : Except FailureKind Loopback :=
  match gateway.routes service with
  | none => .error .upstreamUnavailable
  | some route =>
    if library.isUri (loopbackUri route path) then .ok ⟨service,method,path,headers,body⟩ else .error .upstreamUnavailable

/-- The body of a request was in memory, so a transport that fails is a service that cannot be reached. -/
def requestControl : Transport → Except FailureKind UpstreamResponse
  | .answered response => .ok response
  | .elapsed => .error .upstreamTimeout
  | .tooLong | .bodyFailed | .unreachable => .error .upstreamUnavailable

/-- The status of an answer whose body is not read -/
def sendControl (transport : Transport) : Except FailureKind Nat := (requestControl transport).map (·.status)

/-- A typed answer. `elapsed` is the deadline of the headers as much as that of the whole. -/
def fetchJson {α : Type} (gateway : GatewayConfig) (scopedNotFound : Bool) (maxResponseBytes : Nat)
    (decode : List UInt8 → Option α) (transport : Transport) : Except FailureKind α :=
  match requestControl transport with
  | .error refusal => .error refusal
  | .ok response =>
    if scopedNotFound && response.status == 404 then .error .notFound
    else if !isSuccess response.status then .error .upstreamInvalidResponse
    else
      match response.body.toBytes (min (gateway.budgets .control).maxBodyBytes maxResponseBytes) with
      | none => .error .upstreamInvalidResponse
      | some bytes =>
        match decode bytes with
        | none => .error .upstreamInvalidResponse
        | some value => .ok value

/-- What is read of an answer was answered with success, whole and within the bounds. -/
theorem fetchJson_ok {α : Type} {gateway : GatewayConfig} {scopedNotFound : Bool} {maxResponseBytes : Nat}
    {decode : List UInt8 → Option α} {transport : Transport} {value : α}
    (read : fetchJson gateway scopedNotFound maxResponseBytes decode transport = .ok value) :
    ∃ response, transport = .answered response ∧ isSuccess response.status = true ∧ response.body.whole = true ∧
      response.body.bytes.length ≤ maxResponseBytes ∧ decode response.body.bytes = some value := by
  unfold fetchJson at read
  cases transport with
  | answered response =>
    simp only [requestControl] at read
    split at read
    · cases read
    · split at read
      · cases read
      · rename_i success
        unfold Body.toBytes at read
        split at read
        · cases read
        · rename_i bytes kept
          split at kept
          · rename_i fits
            obtain rfl := Option.some.inj kept
            simp only [Bool.and_eq_true,decide_eq_true_eq] at fits
            split at read
            · cases read
            · rename_i found decoded
              obtain rfl := Except.ok.inj read
              exact ⟨response,rfl,by simpa using success,fits.1,by omega,decoded⟩
          · cases kept
  | tooLong => cases read
  | bodyFailed => cases read
  | unreachable => cases read
  | elapsed => cases read

end Ratatoskr.Gateway
