import Mathlib.Data.String.Basic
import Ratatoskr.Gateway.Upstream
import Ratatoskr.Lib.OrderedMap

/-! The configuration tree of a process, with its defaults for each role. -/
namespace Ratatoskr.Config

open Gateway (RouteClass RouteBudget)

section Roles

/-- Which deployable a process is. -/
inductive RuntimeRole where
  | edge | ingest | scheduler
deriving DecidableEq

namespace RuntimeRole

def all : List RuntimeRole := [.edge,.ingest,.scheduler]

def asStr : RuntimeRole → String
  | .edge => "edge"
  | .ingest => "ingest"
  | .scheduler => "scheduler"

def binaryName : RuntimeRole → String
  | .edge => "ratatoskr-edge"
  | .ingest => "ratatoskr-ingest"
  | .scheduler => "ratatoskr-scheduler"

def mayHavePublicListener : RuntimeRole → Bool
  | .edge | .ingest => true
  | .scheduler => false

def defaultAdminPort : RuntimeRole → UInt16
  | .edge => 9464
  | .ingest => 9465
  | .scheduler => 9466

def defaultPublicPort : RuntimeRole → Option UInt16
  | .edge => some 8080
  | .ingest | .scheduler => none

end RuntimeRole

end Roles

section Addresses

structure Ipv4Addr where
  octets : UInt8 × UInt8 × UInt8 × UInt8
deriving DecidableEq

structure Ipv6Addr where
  segments : Vector UInt16 8
deriving DecidableEq

inductive IpAddr where
  | v4 (address : Ipv4Addr)
  | v6 (address : Ipv6Addr)
deriving DecidableEq

inductive SocketAddr where
  | v4 (address : Ipv4Addr) (port : UInt16)
  | v6 (address : Ipv6Addr) (port : UInt16) (flowinfo scopeId : UInt32)
deriving DecidableEq

def Ipv4Addr.localhost : Ipv4Addr := ⟨127,0,0,1⟩

def IpAddr.isLoopback : IpAddr → Bool
  | .v4 address => address.octets.1 == 127
  | .v6 address => address.segments == #v[0,0,0,0,0,0,0,1]

def SocketAddr.ip : SocketAddr → IpAddr
  | .v4 address _ => .v4 address
  | .v6 address _ _ _ => .v6 address

def SocketAddr.port : SocketAddr → UInt16
  | .v4 _ port => port
  | .v6 _ port _ _ => port

def Ipv4Addr.display (address : Ipv4Addr) : String :=
  let (a,b,c,d) := address.octets
  s!"{a}.{b}.{c}.{d}"

/-- The segments in hexadecimal, with colons in between -/
def fmtSubslice (chunk : List UInt16) : String :=
  ":".intercalate (chunk.map fun segment => String.ofList (Nat.toDigits 16 segment.toNat))

/-- The first longest run of zero segments, as its start and its length -/
def zeroes : List UInt16 → Nat → Nat × Nat → Nat × Nat → Nat × Nat
  | [],_,_,longest => longest
  | segment :: rest,index,current,longest =>
    if segment = 0 then
      let current := if current.2 = 0 then (index,1) else (current.1,current.2 + 1)
      zeroes rest (index + 1) current (if longest.2 < current.2 then current else longest)
    else zeroes rest (index + 1) (0,0) longest

def Ipv6Addr.display (address : Ipv6Addr) : String :=
  let segments := address.segments.toList
  match segments with
  | [0,0,0,0,0,0xffff,high,low] =>
    "::ffff:" ++ Ipv4Addr.display ⟨(high >>> 8).toUInt8,high.toUInt8,(low >>> 8).toUInt8,low.toUInt8⟩
  | _ =>
    let (start,length) := zeroes segments 0 (0,0) (0,0)
    if 1 < length then fmtSubslice (segments.take start) ++ "::" ++ fmtSubslice (segments.drop (start + length))
    else fmtSubslice segments

def SocketAddr.display : SocketAddr → String
  | .v4 address port => address.display ++ s!":{port}"
  | .v6 address port _ scopeId =>
    if scopeId = 0 then "[" ++ address.display ++ s!"]:{port}" else "[" ++ address.display ++ s!"%{scopeId}]:{port}"

end Addresses

section Tree

/-- What `expose_secret` shows -/
structure SecretString where
  exposeSecret : String

/-- What is read of a parsed URL -/
structure Url where
  scheme : String
  host : Option String
  username : String
  password : Option String
  query : Option String

structure AdminConfig where
  bind : SocketAddr

structure PublicConfig where
  bind : SocketAddr
  requestTimeoutSeconds : Nat
  maxBodyBytes : Nat
  maxConcurrentRequests : Nat
  actorRequestsPerMinute : Nat

/-- A loopback API that Edge may proxy to -/
structure GatewayRouteConfig where
  routePrefix : String
  listener : SocketAddr
  routeClass : Option RouteClass
  capabilitiesPath : String
  archiveReceiptPath : String

structure GatewayRouteBudgets where
  control : RouteBudget
  stream : RouteBudget
  transfer : RouteBudget

def GatewayRouteBudgets.forClass (budgets : GatewayRouteBudgets) : RouteClass → RouteBudget
  | .control => budgets.control
  | .stream => budgets.stream
  | .transfer => budgets.transfer

structure GatewayConfig where
  routes : OrderedMap String GatewayRouteConfig
  budgets : GatewayRouteBudgets

structure ArchiveStagingConfig where
  root : String
  maxArchiveBytes : Nat
  sweepIntervalSeconds : Nat

structure ChannelDigestsConfig where
  listener : SocketAddr
  serviceSecret : SecretString

structure DatabaseConfig where
  url : SecretString
  maxConnections : Nat
  acquireTimeoutSeconds : Nat

structure BusConfig where
  url : Url
  nkeySeedPath : Option String

structure IdentityConfig where
  assertionKey : Option String
  oauthCompletionUrl : Option Url

structure RetentionConfig where
  inboxDays : Nat
  outboxDays : Nat
  auditDays : Nat
  scheduleOccurrenceDays : Nat

structure OperationsConfig where
  staleAfterSeconds : Nat

structure SchedulingConfig where
  allowedRegistrars : List String

structure SitesConfig where
  gatewayPeer : IpAddr

structure ShutdownConfig where
  drainSeconds : Nat
  graceSeconds : Nat

inductive LogFormat where
  | json | pretty
deriving DecidableEq

structure OtlpConfig where
  endpoint : Url
  timeoutSeconds : Nat
  headers : OrderedMap String SecretString

structure TelemetryConfig where
  logFormat : LogFormat
  logFilter : String
  otlp : Option OtlpConfig

/-- Everything a process must know before it can serve. -/
structure PlatformConfig where
  admin : AdminConfig
  public_ : Option PublicConfig
  gateway : GatewayConfig
  archiveStaging : ArchiveStagingConfig
  channelDigests : Option ChannelDigestsConfig
  database : Option DatabaseConfig
  bus : Option BusConfig
  identity : IdentityConfig
  retention : RetentionConfig
  operations : OperationsConfig
  scheduling : SchedulingConfig
  sites : SitesConfig
  shutdown : ShutdownConfig
  telemetry : TelemetryConfig

end Tree

section Defaults

/-- How long the event stream keeps a message -/
def eventRetentionDays : Nat := 7

/-- The built-in defaults for a role -/
def PlatformConfig.defaults (role : RuntimeRole) : PlatformConfig where
  admin := ⟨.v4 .localhost role.defaultAdminPort⟩
  public_ := role.defaultPublicPort.map fun port => ⟨.v4 .localhost port,15,1048576,64,120⟩
  gateway := ⟨.empty,⟨⟨1048576,15⟩,⟨1048576,300⟩,⟨104857600,300⟩⟩⟩
  archiveStaging := ⟨"/tmp/ratatoskr-platform-ai-archive-staging",2147483648,300⟩
  channelDigests := none
  database := none
  bus := none
  identity := ⟨none,none⟩
  retention := ⟨30,30,365,90⟩
  operations := ⟨86400⟩
  scheduling := ⟨[]⟩
  sites := ⟨.v4 ⟨127,0,0,83⟩⟩
  shutdown := ⟨5,25⟩
  telemetry := ⟨.json,"info,tower_http=info,hyper=warn,h2=warn",none⟩

/-- The sub-paths of a route that carry bytes: the service, the path below the prefix and the body limit. -/
def gatewayTransferPaths : List (String × String × Option Nat) :=
  [("notes","/connections/{connection}/blobs",none),
    ("notes","/connections/{connection}/blobs/{token}/chunks/{index}",some (16 * 1024 * 1024)),
    ("notes","/connections/{connection}/changes",some (2 * 1024 * 1024)),
    ("notes","/connections/{connection}/manifest",some (32 * 1024 * 1024)),
    ("sites","/{site}/deploys",some 1048576),
    ("sites","/{site}/drafts/sources/{source_ref}/blobs",none)]

end Defaults

end Ratatoskr.Config
