import Ratatoskr.Config.Violations

/-! The startup rules V1 to V24. Every rule is checked, and every one that fails is reported. -/
namespace Ratatoskr.Config

open Gateway (RouteClass RouteBudget)

/-- What other code decides: whether a filter parses, what a key decodes to, which files this process can open, and the
capital letters. -/
structure Library where
  envFilter : String → Bool
  base64 : String → Option (List UInt8)
  opens : String → Bool
  toUppercase : String → String

/-- The report of a rule that may have failed -/
def require (met : Bool) (violation : Violation) : List Violation := if met then [] else [violation]

/-- The rule that a number lies between two bounds, both included -/
def within (value low high : Nat) (violation : Violation) : List Violation :=
  require (low ≤ value && value ≤ high) violation

theorem require_eq_nil {met : Bool} {violation : Violation} : require met violation = [] ↔ met = true := by
  cases met <;> simp [require]

theorem within_eq_nil {value low high : Nat} {violation : Violation} :
    within value low high violation = [] ↔ low ≤ value ∧ value ≤ high := by
  simp [within,require_eq_nil]

theorem mem_require {met : Bool} {violation found : Violation} (member : found ∈ require met violation) : found = violation := by
  cases met with
  | true => cases member
  | false => exact List.mem_singleton.mp member

theorem mem_within {value low high : Nat} {violation found : Violation} (member : found ∈ within value low high violation) :
    found = violation :=
  mem_require member

section Listeners

/-- V1 to V4 -/
def publicViolations (role : RuntimeRole) (config : PlatformConfig) : List Violation :=
  (match role.mayHavePublicListener,config.public_ with
    | true,none => [.publicBind (requiredPublicListener role)]
    | false,some _ => [.publicBind (forbiddenPublicListener role)]
    | _,_ => []) ++
  match config.public_ with
  | none => []
  | some listener =>
    require (listener.bind ≠ config.admin.bind) .sharedBind ++
      within listener.requestTimeoutSeconds 1 300 .requestTimeout ++
      within listener.maxBodyBytes 1024 104857600 .maxBody

/-- V18 -/
def limitViolations (config : PlatformConfig) : List Violation :=
  match config.public_ with
  | none => []
  | some listener =>
    within listener.maxConcurrentRequests 1 4096 .maxConcurrent ++
      within listener.actorRequestsPerMinute 1 100000 .actorRequests

end Listeners

section Process

def shutdownCeilingSeconds : Nat := 120

/-- `u64::saturating_add` -/
def saturatingAdd (a b : Nat) : Nat := min (a + b) (2 ^ 64 - 1)

/-- V5 -/
def filterViolations (library : Library) (config : PlatformConfig) : List Violation :=
  require (library.envFilter config.telemetry.logFilter) .logFilter

/-- V6 -/
def shutdownViolations (config : PlatformConfig) : List Violation :=
  let drain := config.shutdown.drainSeconds
  let grace := config.shutdown.graceSeconds
  require (!(60 < drain)) .drain ++
    require (!(!(1 ≤ grace && grace ≤ shutdownCeilingSeconds) || shutdownCeilingSeconds < saturatingAdd drain grace))
      .grace

/-- `^[a-z0-9-]` with one to 64 characters -/
def isHeaderName (name : String) : Bool :=
  (1 ≤ name.utf8ByteSize && name.utf8ByteSize ≤ 64) && name.toList.all fun c => c.isLower || c.isDigit || c == '-'

/-- V7 to V10 -/
def otlpViolations (config : PlatformConfig) : List Violation :=
  match config.telemetry.otlp with
  | none => []
  | some otlp =>
    require ((otlp.endpoint.scheme == "http" || otlp.endpoint.scheme == "https") && otlp.endpoint.host.isSome)
        .otlpEndpoint ++
      within otlp.timeoutSeconds 1 60 .otlpTimeout ++
      require (otlp.headers.entries.all fun entry => isHeaderName entry.1) .otlpHeaders ++
      require (otlp.endpoint.username.isEmpty && otlp.endpoint.password.isNone && otlp.endpoint.query.isNone)
        .otlpCredential

/-- V11 and V12 -/
def databaseViolations (config : PlatformConfig) : List Violation :=
  match config.database with
  | none => []
  | some database =>
    within database.maxConnections 1 100 .maxConnections ++
      within database.acquireTimeoutSeconds 1 30 .acquireTimeout ++
      require (["postgres://","postgresql://"].any fun scheme => scheme.toList.isPrefixOf database.url.exposeSecret.toList)
        .databaseUrl

/-- `Path::is_absolute` of a Unix path -/
def isAbsolute (path : String) : Bool := path.toList.head? == some '/'

/-- V13 and V16 -/
def busViolations (library : Library) (config : PlatformConfig) : List Violation :=
  match config.bus with
  | none => []
  | some bus =>
    require (["nats","tls","ws","wss"].contains bus.url.scheme) .busUrl ++
      require (bus.url.username.isEmpty && bus.url.password.isNone) .busCredential ++
      match bus.nkeySeedPath with
      | none => []
      | some path =>
        if !isAbsolute path then
          [.seedRelative]
        else require (library.opens path) .seedUnreadable

/-- V14 and V15 -/
def identityViolations (library : Library) (config : PlatformConfig) : List Violation :=
  (match config.identity.assertionKey with
    | none => []
    | some key => require ((library.base64 key).any fun bytes => bytes.length == 32) .assertionKey) ++
  match config.identity.oauthCompletionUrl with
  | none => []
  | some url => require ((url.scheme == "http" || url.scheme == "https") && url.host.isSome)
      .completionUrl

/-- V17 -/
def retentionViolations (config : PlatformConfig) : List Violation :=
  require (!(config.retention.inboxDays < eventRetentionDays)) .inboxDays

/-- V19 -/
def operationsViolations (config : PlatformConfig) : List Violation :=
  within config.operations.staleAfterSeconds 3600 2592000 .staleAfter

/-- V21, V23 and the rule for the root -/
def archiveStagingViolations (config : PlatformConfig) : List Violation :=
  require (isAbsolute config.archiveStaging.root) .stagingRoot ++
    within config.archiveStaging.maxArchiveBytes 1048576 10737418240 .archiveCeiling ++
    within config.archiveStaging.sweepIntervalSeconds 30 3600 .sweepInterval

/-- V22 -/
def channelDigestsViolations (role : RuntimeRole) (config : PlatformConfig) : List Violation :=
  match config.channelDigests with
  | none => []
  | some digests =>
    let secretLength := digests.serviceSecret.exposeSecret.utf8ByteSize
    require (role == .edge) .digestsRole ++
      require (digests.listener.ip.isLoopback && digests.listener.port == 8098) .digestsListener ++
      require (!(secretLength == 0 || 4096 < secretLength)) .digestsSecret

/-- V24 -/
def gatewayPeerViolations (config : PlatformConfig) : List Violation :=
  require (config.sites.gatewayPeer.isLoopback && config.sites.gatewayPeer ≠ .v4 .localhost) .gatewayPeer

end Process

section Routes

def gatewayBudgetViolations (budgets : GatewayRouteBudgets) : List Violation :=
  [("gateway.budgets.control","RATATOSKR__GATEWAY__BUDGETS__CONTROL",budgets.control),
    ("gateway.budgets.stream","RATATOSKR__GATEWAY__BUDGETS__STREAM",budgets.stream),
    ("gateway.budgets.transfer","RATATOSKR__GATEWAY__BUDGETS__TRANSFER",budgets.transfer)].flatMap
      fun (key,envVar,budget) =>
    within budget.maxBodyBytes 1024 104857600 ⟨key,envVar,boundedBody⟩ ++
      within budget.responseTimeoutSeconds 1 300 ⟨key,envVar,boundedTimeout⟩

/-- The largest body limit of a sub-path of the service -/
def largestLimit (service : String) : Option Nat :=
  ((gatewayTransferPaths.filter fun path => path.1 == service).filterMap fun path => path.2.2).max?

/-- The budget of the class, or of the transfers where the route has some that are larger. -/
def widestBudget (budgets : GatewayRouteBudgets) (service : String) (routeClass : RouteClass) : RouteBudget :=
  let budget := budgets.forClass routeClass
  if gatewayTransferPaths.any fun path => path.1 == service then
    ⟨max budget.maxBodyBytes budgets.transfer.maxBodyBytes,
      max budget.responseTimeoutSeconds budgets.transfer.responseTimeoutSeconds⟩
  else budget

/-- The public limits hold the budgets of a route. -/
def publicBudgetViolations (config : PlatformConfig) (service : String) (route : GatewayRouteConfig) : List Violation :=
  match config.public_,route.routeClass with
  | some listener,some routeClass =>
    let budget := widestBudget config.gateway.budgets service routeClass
    require (!(listener.maxBodyBytes < budget.maxBodyBytes)) .publicBody ++
      require (!(listener.requestTimeoutSeconds < budget.responseTimeoutSeconds)) .publicTimeout
  | _,_ => []

/-- `prefixes` are those of the routes before. -/
def gatewayRouteViolations (config : PlatformConfig) (service : String) (route : GatewayRouteConfig) (prefixes : List String) :
    List Violation :=
  let known := gatewayService service
  let name := known.map fun _ => service
  require (!prefixes.contains route.routePrefix) (routeViolation name "prefix" uniquePrefix) ++
    require route.routeClass.isSome (routeViolation name "class" selectedClass) ++
    match known with
    | none => [routeViolation none "service" knownService]
    | some (canonical,port) =>
      require (route.routePrefix == canonical) (routeViolation name "prefix" canonicalPrefix) ++
        require (route.listener.ip.isLoopback && route.listener.port == port)
          (routeViolation name "listener" allocatedListener) ++
        require (route.capabilitiesPath == "/v1/capabilities")
          (routeViolation name "capabilities_path" capabilityDocument) ++
        require (route.archiveReceiptPath == "/v1/ai-archives/receipt")
          (routeViolation name "archive_receipt_path" receiptPath) ++
        require (!(largestLimit service).any fun limit => config.gateway.budgets.transfer.maxBodyBytes < limit)
          .transferBody ++
        publicBudgetViolations config service route

/-- The routes in the order of their names -/
def routeTableViolations (config : PlatformConfig) : List (String × GatewayRouteConfig) → List String → List Violation
  | [],_ => []
  | (service,route) :: rest,prefixes =>
    gatewayRouteViolations config service route prefixes ++ routeTableViolations config rest (route.routePrefix :: prefixes)

/-- V20 -/
def gatewayViolations (role : RuntimeRole) (config : PlatformConfig) : List Violation :=
  let routes := config.gateway.routes
  require (!(role ≠ .edge && !routes.entries.isEmpty)) .routesRole ++
    gatewayBudgetViolations config.gateway.budgets ++
    require (routes.containsKey "chatgpt" == routes.containsKey "claude") .archiveReceivers ++
    routeTableViolations config routes.entries []

end Routes

/-- Every violation, in rule order -/
def validate (library : Library) (role : RuntimeRole) (config : PlatformConfig) : List Violation :=
  publicViolations role config ++ filterViolations library config ++ shutdownViolations config ++ otlpViolations config ++
    databaseViolations config ++ busViolations library config ++ identityViolations library config ++
    retentionViolations config ++ limitViolations config ++ operationsViolations config ++ gatewayViolations role config ++
    archiveStagingViolations config ++ channelDigestsViolations role config ++ gatewayPeerViolations config

section Reports

/-- What extracting the tree can fail with. Any other kind may quote the value that was supplied. -/
inductive Kind where
  | missingField (name : String)
  | unknownField (name : String) (expected : List String)
  | other (text : String)

structure Problem where
  path : List String
  kind : Kind

def keyOf (problem : Problem) : String :=
  let path := ".".intercalate problem.path
  match problem.kind with
  | .missingField name => if path.isEmpty then name else path ++ "." ++ name
  | .unknownField name _ => if path.isEmpty then name else path
  | .other _ => if path.isEmpty then "(the provider did not report a key)" else path

/-- The variable of a key; the letters are uppercased as Unicode has them. -/
def envVarOf (library : Library) (key : String) : String :=
  "RATATOSKR__" ++ library.toUppercase ("__".intercalate (key.splitOn "."))

def reasonOf (problem : Problem) : String :=
  match problem.kind with
  | .unknownField _ _ => "is not a configuration key of this process"
  | .missingField _ => "is required and was not supplied"
  | .other _ => "could not be read as the type of this field"

def block (key envVar rule : String) : String := "  " ++ key ++ "\n      " ++ envVar ++ "\n      " ++ rule ++ "\n\n"

def footer (role : RuntimeRole) : String :=
  "Supplied values are never echoed.\nValidate without starting: " ++ role.binaryName ++ " check-config\n"

def reportInvalid (role : RuntimeRole) (violations : List Violation) : String :=
  role.binaryName ++ ": refusing to start; " ++ toString violations.length ++ " configuration problem" ++
    (if violations.length = 1 then "" else "s") ++ ".\n\n" ++
    String.join (violations.map fun violation => block violation.key violation.envVar violation.rule) ++ footer role

def reportUnreadable (library : Library) (role : RuntimeRole) (problems : List Problem) : String :=
  role.binaryName ++ ": refusing to start; the configuration could not be read.\n\n" ++
    String.join (problems.map fun problem => block (keyOf problem) (envVarOf library (keyOf problem)) (reasonOf problem)) ++
    footer role

/-- Every reason to refuse to start -/
inductive ConfigError where
  | source (problems : List Problem)
  | invalid (violations : List Violation)

def ConfigError.report (library : Library) (role : RuntimeRole) : ConfigError → String
  | .source problems => reportUnreadable library role problems
  | .invalid violations => reportInvalid role violations

end Reports

/-- `extracted` is what figment makes of the defaults and the environment. -/
def loadFrom (library : Library) (role : RuntimeRole) (extracted : Except (List Problem) PlatformConfig) :
    Except ConfigError PlatformConfig :=
  match extracted with
  | .error problems => .error (.source problems)
  | .ok config =>
    let violations := validate library role config
    if violations.isEmpty then .ok config else .error (.invalid violations)

end Ratatoskr.Config
