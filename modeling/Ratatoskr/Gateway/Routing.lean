import Ratatoskr.Config.Rules
import Ratatoskr.Identity.Tables
import Ratatoskr.Lib.Patterns

/-! The reverse proxy in front of the domain services: which listener a request goes to, and what of it. -/
namespace Ratatoskr.Gateway

open Config (GatewayRouteConfig GatewayRouteBudgets PlatformConfig gatewayTransferPaths gatewayService)
open Identity (DeviceKind)
open PublicApi (FailureKind)

section Table

/-- The route table of one Edge process -/
structure Table where
  routes : OrderedMap String GatewayRouteConfig
  budgets : GatewayRouteBudgets

def Table.fromConfig (config : Config.GatewayConfig) : Table := ⟨config.routes,config.budgets⟩

variable (table : Table)

def Table.budget (route : GatewayRouteConfig) : Option RouteBudget := route.routeClass.map table.budgets.forClass

def Table.serviceListener (service : String) : Option Config.SocketAddr := (table.routes.get service).map (·.listener)

/-- Whether a path is the prefix or below it -/
def owns (routePrefix path : String) : Bool := path == routePrefix || (routePrefix.toList ++ ['/']).isPrefixOf path.toList

def Table.route (path : String) : Option (String × GatewayRouteConfig) :=
  table.routes.entries.find? fun entry => owns entry.2.routePrefix path

/-- A segment of a pattern; a `{name}` stands for any one that is not empty. -/
def underSlot (expected : List Char) : Patterns.Slot (List Char) :=
  if expected.head? = some '{' then .hole else .literal expected

def isUnder (pattern : String) (path : List Char) : Bool :=
  Patterns.under [] ((pattern.toList.splitOn '/').map underSlot) (path.splitOn '/')

/-- The path below the prefix -/
def below (routePrefix path : String) : List Char := (stripPrefix routePrefix.toList path.toList).getD []

/-- The body limits of the sub-paths that hold a path -/
def subLimits (service : String) (below : List Char) : List Nat :=
  (gatewayTransferPaths.filter fun entry => entry.1 == service && isUnder entry.2.1 below).map fun entry =>
    entry.2.2.getD (2 ^ 64 - 1)

def Table.budgetFor (service : String) (route : GatewayRouteConfig) (path : String) : Option RouteBudget :=
  match (subLimits service (below route.routePrefix path)).min? with
  | none => table.budget route
  | some limit => some { table.budgets.transfer with maxBodyBytes := min table.budgets.transfer.maxBodyBytes limit }

end Table

section Devices

def deviceKindAsStr : DeviceKind → String
  | .mobile => "mobile"
  | .browserExtension => "browser_extension"
  | .exportAgent => "export_agent"
  | .obsidianPlugin => "obsidian_plugin"
  | .siteDeployer => "site_deployer"

/-- What `find_device` reads, or that it cannot -/
abbrev DeviceRead := Identity.DeviceId → Except Unit (Option Identity.Device)

def deviceKind (findDevice : DeviceRead) (principal : Caller) : Except FailureKind (Option String) :=
  match principal.deviceId with
  | none => .ok none
  | some deviceId =>
    match findDevice deviceId with
    | .ok (some device) =>
      if device.userId == principal.userId && device.revokedAt.isNone then .ok (some (deviceKindAsStr device.kind))
      else .error .unauthenticated
    | .ok none => .error .unauthenticated
    | .error () => .error .requestTimeout

def devicePaths : List String :=
  ["/connections/{connection}/changes","/connections/{connection}/manifest","/connections/{connection}/blobs",
    "/connections/{connection}/device-operations"]

def sessionUploadPath : String := "/connections/{connection}/blobs"

/-- `notes::refuses` -/
def notesRefuses (below : List Char) (deviceKind : Option String) : Bool :=
  let devicePath := devicePaths.any fun pattern => isUnder pattern below
  if deviceKind.isNone && isUnder sessionUploadPath below then false else devicePath != deviceKind.isSome

end Devices

section Proxy

/-- A body as it comes in: its frames, whether it comes to its end, and the bytes it is known to have. -/
structure Streamed where
  frames : List (List UInt8)
  whole : Bool
  lower : Nat

/-- `http_body_util::Limited`: the frames up to the one that breaks the limit, and whether there was one -/
def limited : Nat → List (List UInt8) → List (List UInt8) × Bool
  | _,[] => ([],false)
  | limit,frame :: frames =>
    if limit < frame.length then ([],true)
    else (frame :: (limited (limit - frame.length) frames).1,(limited (limit - frame.length) frames).2)

structure Incoming where
  method : String
  path : String
  query : Option String
  headers : HeaderMap
  body : Streamed

def Incoming.request (incoming : Incoming) : Request :=
  ⟨incoming.method,incoming.path,incoming.query,incoming.headers,⟨incoming.body.frames.flatten,incoming.body.whole⟩⟩

/-- A request on its way to a listener, and how long its response headers may take -/
structure Upstream where
  listener : Config.SocketAddr
  request : Request
  tooLong : Bool
  timeoutSeconds : Nat

/-- What the forwarding reads of a route -/
def forwarding (route : GatewayRouteConfig) : RouteConfig := ⟨route.routePrefix,route.listener.display,route.routeClass⟩

/-- The request that `proxy` sends, or its refusal -/
def proxyRequest (library : Library) (table : Table) (findDevice : DeviceRead) (principal : Caller) (siteId : Option String)
    (correlationId : String) (incoming : Incoming) : Except FailureKind Upstream :=
  match table.route incoming.path with
  | none => .error .routeNotFound
  | some (service,route) =>
    if !forwardable route.routePrefix incoming.path then .error .routeNotFound
    else
      match table.budgetFor service route incoming.path with
      | none => .error .upstreamUnavailable
      | some budget =>
        match deviceKind findDevice principal with
        | .error refusal => .error refusal
        | .ok kind =>
          if service == "notes" && notesRefuses (below route.routePrefix incoming.path) kind then .error .forbidden
          else if !library.isUri (upstreamUri (forwarding route) incoming.request) then .error .upstreamUnavailable
          else if budget.maxBodyBytes < incoming.body.lower then .error .payloadTooLarge
          else
            let passed := limited budget.maxBodyBytes incoming.body.frames
            .ok ⟨route.listener,
              { incoming.request with
                headers := forwardedHeaders library.uuid incoming.headers ⟨principal,kind,siteId,correlationId⟩
                body := ⟨passed.1.flatten,incoming.body.whole && !passed.2⟩ },
              passed.2,budget.responseTimeoutSeconds⟩

/-- `proxy`, after the caller is authenticated -/
def proxy (library : Library) (table : Table) (findDevice : DeviceRead) (principal : Caller) (siteId : Option String)
    (correlationId : String) (incoming : Incoming) (client : Upstream → Transport) : Response :=
  match proxyRequest library table findDevice principal siteId correlationId incoming with
  | .error refusal => reject refusal
  | .ok upstream =>
    match client upstream with
    | .answered response => responseFromUpstream library response
    | .tooLong => reject .payloadTooLarge
    | .bodyFailed | .unreachable => reject .upstreamUnavailable
    | .elapsed => reject .upstreamTimeout

end Proxy

section Canonical

open Config (services service_known)

theorem prefix_of_owns {routePrefix path : String} (owned : owns routePrefix path = true) :
    routePrefix.toList ++ ['/'] <+: path.toList ++ ['/'] := by
  rcases Bool.or_eq_true_iff.mp owned with same | longer
  · exact beq_iff_eq.mp same ▸ List.prefix_rfl
  · exact (List.isPrefixOf_iff_prefix.mp longer).trans (List.prefix_append _ _)

/-- No canonical prefix is that of another service or below it. -/
theorem services_apart : ∀ first ∈ services, ∀ second ∈ services, ∀ one ∈ gatewayService first, ∀ two ∈ gatewayService second,
    (one.1.toList ++ ['/']).isPrefixOf (two.1.toList ++ ['/']) = true → first = second := by
  decide +kernel

theorem service_unique {first second : String} {one two : String × UInt16} (named : gatewayService first = some one)
    (also : gatewayService second = some two) {path : String} (owned : owns one.1 path = true) (owned' : owns two.1 path = true) :
    first = second := by
  have known := service_known named
  have known' := service_known also
  rcases List.prefix_or_prefix_of_prefix (prefix_of_owns owned) (prefix_of_owns owned') with before | after
  · exact services_apart _ known _ known' one named two also (List.isPrefixOf_iff_prefix.mpr before)
  · exact (services_apart _ known' _ known two also one named (List.isPrefixOf_iff_prefix.mpr after)).symm

end Canonical

section Budgets

variable {config : PlatformConfig} {role : Config.RuntimeRole}

theorem route_some {table : Table} {path : String} {entry : String × GatewayRouteConfig} (found : table.route path = some entry) :
    entry ∈ table.routes.entries ∧ owns entry.2.routePrefix path = true :=
  ⟨List.mem_of_find?_eq_some found,by have owned := List.find?_some found; exact owned⟩

theorem route_none {table : Table} {path : String} (none_ : table.route path = none) :
    ∀ entry ∈ table.routes.entries, owns entry.2.routePrefix path = false := by
  intro entry stored
  exact Bool.not_eq_true _ ▸ List.find?_eq_none.mp none_ entry stored

/-- At most one configured route owns a path. -/
theorem route_unique (accepted : Config.Accepted role config) {path : String} {one two : String × GatewayRouteConfig}
    (stored : one ∈ config.gateway.routes.entries) (stored' : two ∈ config.gateway.routes.entries)
    (owned : owns one.2.routePrefix path = true) (owned' : owns two.2.routePrefix path = true) : one = two :=
  OrderedMap.eq_of_key stored stored'
    (service_unique (accepted.routes one stored).canonical (accepted.routes two stored').canonical owned owned')

theorem mem_subLimits {service : String} {below : List Char} {entry : String × String × Option Nat}
    (listed : entry ∈ gatewayTransferPaths) (owner : entry.1 = service) (inside : isUnder entry.2.1 below = true) :
    entry.2.2.getD (2 ^ 64 - 1) ∈ subLimits service below := by
  refine List.mem_map.mpr ⟨entry,List.mem_filter.mpr ⟨listed,?_⟩,rfl⟩
  rw [owner,inside,beq_self_eq_true,Bool.true_and]

theorem subLimits_owner {service : String} {below : List Char} {limit : Nat} (member : limit ∈ subLimits service below) :
    gatewayTransferPaths.any (fun entry => entry.1 == service) = true ∧ 1048576 ≤ limit := by
  obtain ⟨entry,listed,rfl⟩ := List.mem_map.mp member
  obtain ⟨known,own⟩ := List.mem_filter.mp listed
  refine ⟨List.any_eq_true.mpr ⟨entry,known,(Bool.and_eq_true_iff.mp own).1⟩,?_⟩
  have least : ∀ entry ∈ gatewayTransferPaths, 1048576 ≤ entry.2.2.getD (2 ^ 64 - 1) := by decide
  exact least entry known

theorem widest_class (budgets : GatewayRouteBudgets) (service : String) (routeClass : RouteClass) :
    (budgets.forClass routeClass).maxBodyBytes ≤ (Config.widestBudget budgets service routeClass).maxBodyBytes ∧
      (budgets.forClass routeClass).responseTimeoutSeconds ≤
        (Config.widestBudget budgets service routeClass).responseTimeoutSeconds := by
  rw [Config.widestBudget]
  split
  · exact ⟨le_max_left _ _,le_max_left _ _⟩
  · exact ⟨le_rfl,le_rfl⟩

theorem widest_transfer (budgets : GatewayRouteBudgets) {service : String} (routeClass : RouteClass)
    (carries : gatewayTransferPaths.any (fun entry => entry.1 == service) = true) :
    budgets.transfer.maxBodyBytes ≤ (Config.widestBudget budgets service routeClass).maxBodyBytes ∧
      budgets.transfer.responseTimeoutSeconds ≤ (Config.widestBudget budgets service routeClass).responseTimeoutSeconds := by
  rw [Config.widestBudget,if_pos carries]
  exact ⟨le_max_right _ _,le_max_right _ _⟩

/-- What the budget of a request keeps to -/
structure Affordable (config : PlatformConfig) (service : String) (below : List Char) (budget : RouteBudget) : Prop where
  valid : Config.BudgetValid budget
  within : ∀ listener ∈ config.public_, budget.maxBodyBytes ≤ listener.maxBodyBytes ∧
    budget.responseTimeoutSeconds ≤ listener.requestTimeoutSeconds
  subPaths : ∀ entry ∈ gatewayTransferPaths, entry.1 = service → isUnder entry.2.1 below = true →
    ∀ limit ∈ entry.2.2, budget.maxBodyBytes ≤ limit

theorem budgetFor_affordable (accepted : Config.Accepted role config) {service : String} {route : GatewayRouteConfig}
    (stored : (service,route) ∈ config.gateway.routes.entries) (path : String) :
    ∃ budget, (Table.fromConfig config.gateway).budgetFor service route path = some budget ∧
      Affordable config service (below route.routePrefix path) budget := by
  have valid := accepted.routes _ stored
  obtain ⟨routeClass,chosen⟩ := Option.isSome_iff_exists.mp valid.chosen
  rw [Table.budgetFor]
  cases least : (subLimits service (below route.routePrefix path)).min? with
  | none =>
    have empty : subLimits service (below route.routePrefix path) = [] := List.min?_eq_none_iff.mp least
    refine ⟨config.gateway.budgets.forClass routeClass,?_,accepted.budgets routeClass,fun listener there => ?_,?_⟩
    · rw [Table.budget,chosen]
      rfl
    · have fits := valid.fits listener there routeClass chosen
      have smaller := widest_class config.gateway.budgets service routeClass
      exact ⟨smaller.1.trans fits.1,smaller.2.trans fits.2⟩
    · intro entry listed owner inside
      have member := mem_subLimits listed owner inside
      rw [empty] at member
      cases member
  | some limit =>
    obtain ⟨member,lower⟩ := List.min?_eq_some_iff.mp least
    obtain ⟨carries,enough⟩ := subLimits_owner member
    obtain ⟨body,timeout⟩ := accepted.budgets .transfer
    refine ⟨_,rfl,⟨⟨le_min body.1 (by omega),(min_le_left _ _).trans body.2⟩,timeout⟩,fun listener there => ?_,?_⟩
    · have fits := valid.fits listener there routeClass chosen
      have smaller := widest_transfer config.gateway.budgets routeClass carries
      exact ⟨(min_le_left _ _).trans (smaller.1.trans fits.1),smaller.2.trans fits.2⟩
    · intro entry listed owner inside bound given
      have least := lower _ (mem_subLimits listed owner inside)
      rw [Option.mem_def.mp given] at least
      exact (min_le_right _ _).trans least

end Budgets

section Bodies

theorem prefix_of_limited (limit : Nat) (frames : List (List UInt8)) : (limited limit frames).1 <+: frames := by
  induction frames generalizing limit with
  | nil => exact List.nil_prefix
  | cons frame frames ih =>
    rw [limited]
    split
    · exact List.nil_prefix
    · exact List.cons_prefix_cons.mpr ⟨rfl,ih _⟩

/-- Never more than the limit is passed on. -/
theorem limited_length (limit : Nat) (frames : List (List UInt8)) : (limited limit frames).1.flatten.length ≤ limit := by
  induction frames generalizing limit with
  | nil => exact Nat.zero_le _
  | cons frame frames ih =>
    rw [limited]
    split
    · exact Nat.zero_le _
    · have rest := ih (limit - frame.length)
      rw [List.flatten_cons,List.length_append]
      omega

/-- A body is cut exactly when it is larger than the limit, and is else passed on whole. -/
theorem limited_cut (limit : Nat) (frames : List (List UInt8)) :
    ((limited limit frames).2 = true ↔ limit < frames.flatten.length) ∧
      ((limited limit frames).2 = false → (limited limit frames).1 = frames) := by
  induction frames generalizing limit with
  | nil => exact ⟨⟨nofun,fun less => absurd less (Nat.not_lt_zero _)⟩,fun _ => rfl⟩
  | cons frame frames ih =>
    obtain ⟨cut,whole⟩ := ih (limit - frame.length)
    rw [limited,List.flatten_cons,List.length_append]
    split
    · exact ⟨⟨fun _ => by omega,fun _ => rfl⟩,nofun⟩
    · exact ⟨cut.trans (by omega),fun kept => congrArg (frame :: ·) (whole kept)⟩

end Bodies

section Proxied

variable (library : Library) (config : PlatformConfig) (findDevice : DeviceRead) (principal : Caller) (siteId : Option String)
  (correlationId : String) (incoming : Incoming)

/-- The one route of a request, and what its request upstream keeps to -/
structure Routed (entry : String × GatewayRouteConfig) (upstream : Upstream) : Prop where
  stored : entry ∈ config.gateway.routes.entries
  owned : owns entry.2.routePrefix incoming.path = true
  only : ∀ other ∈ config.gateway.routes.entries, owns other.2.routePrefix incoming.path = true → other = entry
  listener : upstream.listener = entry.2.listener
  canonical : gatewayService entry.1 = some (entry.2.routePrefix,upstream.listener.port)
  forwardable : forwardable entry.2.routePrefix incoming.path = true
  subPaths : ∀ sub ∈ gatewayTransferPaths, sub.1 = entry.1 → isUnder sub.2.1 (below entry.2.routePrefix incoming.path) = true →
    ∀ limit ∈ sub.2.2, upstream.request.body.bytes.length ≤ limit

/-- A request that is sent goes to the loopback listener of its service, within every budget. -/
structure Forwarded (upstream : Upstream) : Prop where
  routed : ∃ entry, Routed config incoming entry upstream
  loopback : upstream.listener.ip.isLoopback = true
  method : upstream.request.method = incoming.method
  path : upstream.request.path = incoming.path
  query : upstream.request.query = incoming.query
  headers : ∃ kind, deviceKind findDevice principal = .ok kind ∧
    upstream.request.headers = forwardedHeaders library.uuid incoming.headers ⟨principal,kind,siteId,correlationId⟩
  bytes : upstream.request.body.bytes <+: incoming.body.frames.flatten
  whole : upstream.request.body.whole = true → upstream.request.body.bytes = incoming.body.frames.flatten
  timeout : 1 ≤ upstream.timeoutSeconds ∧ upstream.timeoutSeconds ≤ 300
  within : ∀ listener ∈ config.public_, upstream.request.body.bytes.length ≤ listener.maxBodyBytes ∧
    upstream.timeoutSeconds ≤ listener.requestTimeoutSeconds

/-- Why a request is refused; that its route has no budget is not among it. -/
def Refused (refusal : FailureKind) : Prop :=
  (refusal = .routeNotFound ∧ ∀ entry ∈ config.gateway.routes.entries, owns entry.2.routePrefix incoming.path = true →
    forwardable entry.2.routePrefix incoming.path = false) ∨
  deviceKind findDevice principal = .error refusal ∨
  ∃ entry ∈ config.gateway.routes.entries, owns entry.2.routePrefix incoming.path = true ∧
    ((refusal = .forbidden ∧ entry.1 = "notes" ∧ ∃ kind, deviceKind findDevice principal = .ok kind ∧
        notesRefuses (below entry.2.routePrefix incoming.path) kind = true) ∨
      (refusal = .upstreamUnavailable ∧ library.isUri (upstreamUri (forwarding entry.2) incoming.request) = false) ∨
      (refusal = .payloadTooLarge ∧ ∃ budget,
        (Table.fromConfig config.gateway).budgetFor entry.1 entry.2 incoming.path = some budget ∧
          budget.maxBodyBytes < incoming.body.lower))

variable {role : Config.RuntimeRole}

theorem prefix_of_flatten {front frames : List (List UInt8)} (before : front <+: frames) : front.flatten <+: frames.flatten := by
  obtain ⟨back,rfl⟩ := before
  rw [List.flatten_append]
  exact List.prefix_append _ _

variable {library config findDevice principal siteId correlationId incoming}

/-- Under a configuration that was accepted the proxy has one route for a request at most, and keeps to its limits. -/
theorem proxyRequest_spec (accepted : Config.Accepted role config) :
    (∀ upstream, proxyRequest library (.fromConfig config.gateway) findDevice principal siteId correlationId incoming =
        .ok upstream → Forwarded library config findDevice principal siteId correlationId incoming upstream) ∧
      ∀ refusal, proxyRequest library (.fromConfig config.gateway) findDevice principal siteId correlationId incoming =
        .error refusal → Refused library config findDevice principal incoming refusal := by
  rw [proxyRequest]
  cases found : (Table.fromConfig config.gateway).route incoming.path with
  | none =>
    have unowned := route_none found
    refine ⟨nofun,fun refusal same => Or.inl ⟨by cases same; rfl,fun entry stored owned => ?_⟩⟩
    rw [unowned entry stored] at owned
    cases owned
  | some entry =>
    obtain ⟨service,route⟩ := entry
    obtain ⟨stored,owned⟩ := route_some found
    have only : ∀ other ∈ config.gateway.routes.entries, owns other.2.routePrefix incoming.path = true → other = (service,route) :=
      fun other there also => route_unique accepted there stored also owned
    obtain ⟨budget,given,affordable⟩ := budgetFor_affordable accepted stored incoming.path
    have valid := accepted.routes _ stored
    simp only [given]
    cases passes : forwardable route.routePrefix incoming.path with
    | false =>
      refine ⟨nofun,fun refusal same => Or.inl ⟨by cases same; rfl,fun other there also => ?_⟩⟩
      rw [only other there also]
      exact passes
    | true =>
      cases read : deviceKind findDevice principal with
      | error refusal => exact ⟨nofun,fun _ same => Or.inr (Or.inl (by cases same; exact read))⟩
      | ok kind =>
        simp only [Bool.not_true,Bool.false_eq_true,if_false]
        split
        · rename_i refused
          obtain ⟨notes,refuses⟩ := Bool.and_eq_true_iff.mp refused
          exact ⟨nofun,fun _ same => Or.inr (Or.inr ⟨_,stored,owned,Or.inl ⟨by cases same; rfl,beq_iff_eq.mp notes,kind,read,refuses⟩⟩)⟩
        split
        · rename_i unparsed
          exact ⟨nofun,fun _ same => Or.inr (Or.inr ⟨_,stored,owned,Or.inr (Or.inl ⟨by cases same; rfl,by simpa using unparsed⟩)⟩)⟩
        split
        · rename_i larger
          exact ⟨nofun,fun _ same => Or.inr (Or.inr ⟨_,stored,owned,Or.inr (Or.inr ⟨by cases same; rfl,budget,given,larger⟩)⟩)⟩
        · refine ⟨fun upstream same => ?_,nofun⟩
          cases same
          have short := limited_length budget.maxBodyBytes incoming.body.frames
          refine ⟨⟨(service,route),stored,owned,only,rfl,valid.canonical,passes,?_⟩,valid.loopback,rfl,rfl,rfl,⟨kind,read,rfl⟩,
            prefix_of_flatten (prefix_of_limited _ _),fun all => ?_,affordable.valid.2,fun listener there => ?_⟩
          · exact fun sub listed owner inside limit bound => short.trans (affordable.subPaths sub listed owner inside limit bound)
          · obtain ⟨_,uncut⟩ := Bool.and_eq_true_iff.mp all
            exact congrArg List.flatten ((limited_cut budget.maxBodyBytes incoming.body.frames).2 (by simpa using uncut))
          · exact ⟨short.trans (affordable.within listener there).1,(affordable.within listener there).2⟩

theorem loaded_accepted {rules : Config.Library} {loaded : PlatformConfig}
    (accepted : Config.loadFrom rules role (.ok config) = .ok loaded) : loaded = config ∧ Config.Accepted role config := by
  rw [Config.loadFrom] at accepted
  cases found : Config.validate rules role config with
  | nil =>
    rw [found] at accepted
    cases accepted
    exact ⟨rfl,Config.validate_accepted found⟩
  | cons violation rest =>
    rw [found] at accepted
    cases accepted

/-- Whatever configuration a process has started with, a request goes to the one service that owns its path, or nowhere. -/
theorem proxied (rules : Config.Library) (extracted : Except (List Config.Problem) PlatformConfig)
    (started : Config.loadFrom rules role extracted = .ok config) :
    (∀ upstream, proxyRequest library (.fromConfig config.gateway) findDevice principal siteId correlationId incoming =
        .ok upstream → Forwarded library config findDevice principal siteId correlationId incoming upstream) ∧
      ∀ refusal, proxyRequest library (.fromConfig config.gateway) findDevice principal siteId correlationId incoming =
        .error refusal → Refused library config findDevice principal incoming refusal := by
  cases extracted with
  | error problems => cases started
  | ok extracted =>
    obtain ⟨rfl,accepted⟩ := loaded_accepted started
    exact proxyRequest_spec accepted

/-- The notes and the sites service behind Edge -/
def sampleConfig : PlatformConfig :=
  { PlatformConfig.defaults .edge with
    public_ := some ⟨.v4 .localhost 8080,300,104857600,64,120⟩
    gateway := ⟨⟨[("notes",⟨"/v1/notes",.v4 .localhost 8099,some .control,"/v1/capabilities","/v1/ai-archives/receipt"⟩),
      ("sites",⟨"/v1/sites",.v4 .localhost 8100,some .control,"/v1/capabilities","/v1/ai-archives/receipt"⟩)],by decide⟩,
      (PlatformConfig.defaults .edge).gateway.budgets⟩ }

theorem sample_started : Config.loadFrom ⟨fun _ => true,fun _ => none,fun _ => true,id⟩ .edge (.ok sampleConfig) = .ok sampleConfig := by
  have met : Config.validate ⟨fun _ => true,fun _ => none,fun _ => true,id⟩ .edge sampleConfig = [] := by decide +kernel
  rw [Config.loadFrom,met]
  rfl

def plainLibrary : Library := ⟨fun _ => "",fun _ => true,fun _ => [],fun _ => none,fun _ => none⟩

/-- A read of a note by the owner's browser -/
def noteRead : Incoming := ⟨"GET","/v1/notes/notes/7",none,[],⟨[],true,0⟩⟩

theorem proxied_note : ∃ upstream,
    proxyRequest plainLibrary (.fromConfig sampleConfig.gateway) (fun _ => .ok none) ⟨1,none,.browser⟩ none "c" noteRead =
        .ok upstream ∧
      Forwarded plainLibrary sampleConfig (fun _ => .ok none) ⟨1,none,.browser⟩ none "c" noteRead upstream := by
  have sent : (proxyRequest plainLibrary (.fromConfig sampleConfig.gateway) (fun _ => .ok none) ⟨1,none,.browser⟩ none "c"
      noteRead).isOk = true := by decide +kernel
  cases given : proxyRequest plainLibrary (.fromConfig sampleConfig.gateway) (fun _ => .ok none) ⟨1,none,.browser⟩ none "c"
      noteRead with
  | error refusal =>
    rw [given] at sent
    cases sent
  | ok upstream => exact ⟨upstream,rfl,(proxied _ _ sample_started).1 upstream given⟩

end Proxied

end Ratatoskr.Gateway
