import Ratatoskr.Config.Model

/-! Everything the startup rules can report. A violation names a key, the variable that sets it and what the rule requires. -/
namespace Ratatoskr.Config

structure Violation where
  key : String
  envVar : String
  rule : String
deriving DecidableEq

section Listeners

def forbiddenPublicListener : RuntimeRole → String
  | .edge => "the edge role must not open a public listener (ARCHITECTURE.md S18)"
  | .ingest => "the ingest role must not open a public listener (ARCHITECTURE.md S9)"
  | .scheduler => "the scheduler role must not open a public listener (ARCHITECTURE.md S18)"

def requiredPublicListener : RuntimeRole → String
  | .edge => "the edge role requires a public listener (ARCHITECTURE.md S18)"
  | .ingest => "the ingest role requires a public listener; a webhook source reaches it from outside (ARCHITECTURE.md S9)"
  | .scheduler => "the scheduler role must not open a public listener (ARCHITECTURE.md S18)"

end Listeners

section Routes

/-- A violation of one field of one route, which names the route only when it is known. -/
def routeViolation (route : Option String) (field rule : String) : Violation :=
  match route with
  | some route => ⟨"gateway.routes." ++ route ++ "." ++ field,
      "RATATOSKR__GATEWAY__ROUTES__" ++ route.map Char.toUpper ++ "__" ++ field.map Char.toUpper,rule⟩
  | none => ⟨"gateway.routes." ++ field,"RATATOSKR__GATEWAY__ROUTES",rule⟩

/-- The canonical prefix and port of a service -/
def gatewayService : String → Option (String × UInt16)
  | "knowledge" => some ("/v1/k",8091)
  | "github" => some ("/v1/gh",8092)
  | "vault" => some ("/v1/vault",8093)
  | "social" => some ("/v1/social",8094)
  | "ai" => some ("/v1/ai",8095)
  | "chatgpt" => some ("/v1/chatgpt",8096)
  | "claude" => some ("/v1/claude",8097)
  | "notes" => some ("/v1/notes",8099)
  | "sites" => some ("/v1/sites",8100)
  | _ => none

def services : List String := ["knowledge","github","vault","social","ai","chatgpt","claude","notes","sites"]

theorem service_known {service canonical : String} {port : UInt16} (known : gatewayService service = some (canonical,port)) :
    service ∈ services := by
  unfold gatewayService at known
  split at known <;> first | decide | cases known

def uniquePrefix : String := "must be unique across the gateway route table"
def selectedClass : String := "must select control, stream, or transfer so Edge can enforce a finite budget"
def knownService : String := "must name one of knowledge, github, vault, social, ai, chatgpt, claude, notes, sites"
def canonicalPrefix : String := "must be the service's unique canonical /v1 prefix"
def allocatedListener : String := "must be the service's allocated loopback listener from DEPLOYMENT_TARGET.md"
def capabilityDocument : String := "must be /v1/capabilities so aggregation reads the service-owned document"
def receiptPath : String :=
  "must be /v1/ai-archives/receipt so archive delivery has one bounded service-owned path"

def boundedBody : String := "must be 1024..=104857600 for every gateway route class"
def boundedTimeout : String := "must be 1..=300 for every gateway route class"

end Routes

namespace Violation

/-- The listener address, with what V1 or V2 says of it -/
def publicBind (rule : String) : Violation := ⟨"public.bind","RATATOSKR__PUBLIC__BIND",rule⟩
def sharedBind : Violation := publicBind
  "must not equal admin.bind; the operator plane and the public surface are separate listeners (AGENTS.md)"
def requestTimeout : Violation := ⟨"public.request_timeout_seconds","RATATOSKR__PUBLIC__REQUEST_TIMEOUT_SECONDS",
  "must be 1..=300 (ARCHITECTURE.md S5.2)"⟩
def maxBody : Violation := ⟨"public.max_body_bytes","RATATOSKR__PUBLIC__MAX_BODY_BYTES",
  "must be 1024..=104857600 (ARCHITECTURE.md S14)"⟩
def maxConcurrent : Violation := ⟨"public.max_concurrent_requests","RATATOSKR__PUBLIC__MAX_CONCURRENT_REQUESTS",
  "must be 1..=4096; zero refuses every request rather than disabling the limit"⟩
def actorRequests : Violation := ⟨"public.actor_requests_per_minute","RATATOSKR__PUBLIC__ACTOR_REQUESTS_PER_MINUTE",
  "must be 1..=100000; zero refuses every request rather than disabling the limit"⟩
def publicBody : Violation := ⟨"public.max_body_bytes","RATATOSKR__PUBLIC__MAX_BODY_BYTES",
  "must be at least the largest configured gateway route body budget"⟩
def publicTimeout : Violation := ⟨"public.request_timeout_seconds","RATATOSKR__PUBLIC__REQUEST_TIMEOUT_SECONDS",
  "must be at least the largest configured gateway response-header budget"⟩

def logFilter : Violation := ⟨"telemetry.log_filter","RATATOSKR__TELEMETRY__LOG_FILTER",
  "must parse as a tracing-subscriber EnvFilter directive string, e.g. info,tower_http=info"⟩
def drain : Violation := ⟨"shutdown.drain_seconds","RATATOSKR__SHUTDOWN__DRAIN_SECONDS",
  "must be 0..=60, and drain_seconds + grace_seconds must not exceed 120"⟩
def grace : Violation := ⟨"shutdown.grace_seconds","RATATOSKR__SHUTDOWN__GRACE_SECONDS",
  "must be 1..=120, and drain_seconds + grace_seconds must not exceed 120"⟩
def otlpEndpoint : Violation := ⟨"telemetry.otlp.endpoint","RATATOSKR__TELEMETRY__OTLP__ENDPOINT",
  "must be an http or https URL with a host"⟩
def otlpTimeout : Violation := ⟨"telemetry.otlp.timeout_seconds","RATATOSKR__TELEMETRY__OTLP__TIMEOUT_SECONDS",
  "must be 1..=60"⟩
def otlpHeaders : Violation := ⟨"telemetry.otlp.headers","RATATOSKR__TELEMETRY__OTLP__HEADERS__<NAME>",
  "every header name must match ^[a-z0-9-]\x7b1,64\x7d$"⟩
def otlpCredential : Violation := ⟨"telemetry.otlp.endpoint","RATATOSKR__TELEMETRY__OTLP__ENDPOINT",
  "must not embed a user name, a password or a query string; a collector credential belongs in " ++
    "telemetry.otlp.headers, which cannot be printed (SECURITY.md)"⟩
def maxConnections : Violation := ⟨"database.max_connections","RATATOSKR__DATABASE__MAX_CONNECTIONS",
  "must be 1..=100"⟩
def acquireTimeout : Violation := ⟨"database.acquire_timeout_seconds","RATATOSKR__DATABASE__ACQUIRE_TIMEOUT_SECONDS",
  "must be 1..=30"⟩
def databaseUrl : Violation := ⟨"database.url","RATATOSKR__DATABASE__URL",
  "must be a postgres:// or postgresql:// URL"⟩
def busUrl : Violation := ⟨"bus.url","RATATOSKR__BUS__URL","must be a nats://, tls://, ws:// or wss:// URL"⟩
def busCredential : Violation := ⟨"bus.url","RATATOSKR__BUS__URL",
  "must not embed a user name or a password; a bus credential belongs in a credentials file read by " ++
    "path (SECURITY.md)"⟩
def seedRelative : Violation := ⟨"bus.nkey_seed_path","RATATOSKR__BUS__NKEY_SEED_PATH",
  "must be an absolute path; a relative one resolves against the unit's working directory"⟩
def seedUnreadable : Violation := ⟨"bus.nkey_seed_path","RATATOSKR__BUS__NKEY_SEED_PATH",
  "must name a file this process can READ, holding its NATS nkey seed; a permission failure here is " ++
    "usually the unit's Group= (deploy/nats/README.md)"⟩
def assertionKey : Violation := ⟨"identity.assertion_key","RATATOSKR__IDENTITY__ASSERTION_KEY",
  "must be a base64 Ed25519 PUBLIC key decoding to exactly 32 bytes (ADR-0011)"⟩
def completionUrl : Violation := ⟨"identity.oauth_completion_url","RATATOSKR__IDENTITY__OAUTH_COMPLETION_URL",
  "must be an http or https URL with a host; a browser is redirected to it"⟩
def inboxDays : Violation := ⟨"retention.inbox_days","RATATOSKR__RETENTION__INBOX_DAYS",
  "must be at least as long as the event stream keeps a message, or the inbox forgets a message the " ++
    "bus can still redeliver"⟩
def staleAfter : Violation := ⟨"operations.stale_after_seconds","RATATOSKR__OPERATIONS__STALE_AFTER_SECONDS",
  "must be 3600..=2592000; zero harvests every unterminated operation rather than disabling the reaper"⟩
def stagingRoot : Violation := ⟨"archive_staging.root","RATATOSKR__ARCHIVE_STAGING__ROOT",
  "must be an absolute private directory so staging never depends on process cwd"⟩
def archiveCeiling : Violation := ⟨"archive_staging.max_archive_bytes","RATATOSKR__ARCHIVE_STAGING__MAX_ARCHIVE_BYTES",
  "must be 1048576..=10737418240 bytes (V21); staging needs about twice this much free space per " ++
    "in-flight archive"⟩
def sweepInterval : Violation := ⟨"archive_staging.sweep_interval_seconds",
  "RATATOSKR__ARCHIVE_STAGING__SWEEP_INTERVAL_SECONDS",
  "must be 30..=3600 seconds (V23); the staging reaper runs this often"⟩
def digestsRole : Violation := ⟨"channel_digests","RATATOSKR__CHANNEL_DIGESTS__LISTENER",
  "may be configured only for ratatoskr-edge; no other role reads digests (V22)"⟩
def digestsListener : Violation := ⟨"channel_digests.listener","RATATOSKR__CHANNEL_DIGESTS__LISTENER",
  "must be a loopback address on port 8098, the channel-digests API (V22)"⟩
def digestsSecret : Violation := ⟨"channel_digests.service_secret","RATATOSKR__CHANNEL_DIGESTS__SERVICE_SECRET",
  "must be 1..=4096 bytes and set together with the listener (V22)"⟩
def gatewayPeer : Violation := ⟨"sites.gateway_peer","RATATOSKR__SITES__GATEWAY_PEER",
  "must be a loopback address other than 127.0.0.1, the source of cloudflared (V24)"⟩

def transferBody : Violation := ⟨"gateway.budgets.transfer.max_body_bytes",
  "RATATOSKR__GATEWAY__BUDGETS__TRANSFER__MAX_BODY_BYTES",
  "must hold the largest body limit of a sub-path of a configured route"⟩
def routesRole : Violation := ⟨"gateway.routes","RATATOSKR__GATEWAY__ROUTES",
  "may be configured only for ratatoskr-edge; clients reach domain APIs through Edge"⟩
def archiveReceivers : Violation := ⟨"gateway.routes.archive_receivers","RATATOSKR__GATEWAY__ROUTES",
  "must configure both canonical ChatGPT and Claude archive receivers or neither"⟩

end Violation

section Catalogue

open Violation

def publicRules : List Violation :=
  (RuntimeRole.all.flatMap fun role => [publicBind (requiredPublicListener role),publicBind (forbiddenPublicListener role)]) ++
    [sharedBind,requestTimeout,maxBody,maxConcurrent,actorRequests,publicBody,publicTimeout]

def processRules : List Violation :=
  [logFilter,drain,grace,otlpEndpoint,otlpTimeout,otlpHeaders,otlpCredential,maxConnections,acquireTimeout,
    databaseUrl,busUrl,busCredential,seedRelative,seedUnreadable,assertionKey,completionUrl,inboxDays,
    staleAfter,stagingRoot,archiveCeiling,sweepInterval,digestsRole,digestsListener,digestsSecret,gatewayPeer]

/-- The budgets of the route classes, by key and variable -/
def budgetKeys : List (String × String) :=
  [("gateway.budgets.control","RATATOSKR__GATEWAY__BUDGETS__CONTROL"),
    ("gateway.budgets.stream","RATATOSKR__GATEWAY__BUDGETS__STREAM"),
    ("gateway.budgets.transfer","RATATOSKR__GATEWAY__BUDGETS__TRANSFER")]

/-- The rules for one route, by field -/
def routeRules : List (String × String) :=
  [("prefix",uniquePrefix),("class",selectedClass),("service",knownService),("prefix",canonicalPrefix),
    ("listener",allocatedListener),("capabilities_path",capabilityDocument),("archive_receipt_path",receiptPath)]

def tableRules : List Violation :=
  [transferBody,routesRole,archiveReceivers] ++
    (budgetKeys.flatMap fun (key,envVar) => [⟨key,envVar,boundedBody⟩,⟨key,envVar,boundedTimeout⟩]) ++
    (none :: services.map some).flatMap fun name => routeRules.map fun (field,rule) => routeViolation name field rule

/-- All violations there can be, whatever a configuration holds -/
def catalogue : List Violation := publicRules ++ processRules ++ tableRules

end Catalogue

end Ratatoskr.Config
