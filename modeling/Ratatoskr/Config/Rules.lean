import Mathlib.Data.Set.List
import Ratatoskr.Config.Validate

/-! What an accepted configuration is known to hold, and what a refused one can be told. -/
namespace Ratatoskr.Config

open Gateway (RouteClass RouteBudget)

section Catalogue

theorem require_subset {met : Bool} {violation : Violation} {rules : List Violation} (known : violation ∈ rules) :
    require met violation ⊆ rules := by
  intro found member
  exact mem_require member ▸ known

theorem within_subset {value low high : Nat} {violation : Violation} {rules : List Violation} (known : violation ∈ rules) :
    within value low high violation ⊆ rules :=
  require_subset known

theorem publicViolations_subset (role : RuntimeRole) (config : PlatformConfig) : publicViolations role config ⊆ publicRules := by
  have listener (role : RuntimeRole) :
      Violation.publicBind (requiredPublicListener role) ∈ publicRules ∧ Violation.publicBind (forbiddenPublicListener role) ∈ publicRules := by
    cases role <;> simp [publicRules,RuntimeRole.all]
  rw [publicViolations,List.append_subset]
  constructor
  · split
    · exact List.cons_subset.mpr ⟨(listener role).1,List.nil_subset _⟩
    · exact List.cons_subset.mpr ⟨(listener role).2,List.nil_subset _⟩
    · exact List.nil_subset _
  · split
    · exact List.nil_subset _
    · simp [List.append_subset,require_subset,within_subset,publicRules]

theorem limitViolations_subset (config : PlatformConfig) : limitViolations config ⊆ publicRules := by
  rw [limitViolations]
  split
  · exact List.nil_subset _
  · simp [List.append_subset,within_subset,publicRules]

theorem processViolations_subset (library : Library) (role : RuntimeRole) (config : PlatformConfig) :
    filterViolations library config ⊆ processRules ∧ shutdownViolations config ⊆ processRules ∧
      otlpViolations config ⊆ processRules ∧ databaseViolations config ⊆ processRules ∧
      busViolations library config ⊆ processRules ∧ identityViolations library config ⊆ processRules ∧
      retentionViolations config ⊆ processRules ∧ operationsViolations config ⊆ processRules ∧
      archiveStagingViolations config ⊆ processRules ∧ channelDigestsViolations role config ⊆ processRules ∧
      gatewayPeerViolations config ⊆ processRules := by
  refine ⟨?_,?_,?_,?_,?_,?_,?_,?_,?_,?_,?_⟩
  · exact require_subset (by simp [processRules])
  · simp [shutdownViolations,List.append_subset,require_subset,processRules]
  · rw [otlpViolations]
    split
    · exact List.nil_subset _
    · simp [List.append_subset,require_subset,within_subset,processRules]
  · rw [databaseViolations]
    split
    · exact List.nil_subset _
    · simp [List.append_subset,require_subset,within_subset,processRules]
  · rw [busViolations]
    split
    · exact List.nil_subset _
    · simp only [List.append_subset]
      refine ⟨⟨require_subset (by simp [processRules]),require_subset (by simp [processRules])⟩,?_⟩
      split
      · exact List.nil_subset _
      · split
        · exact List.cons_subset.mpr ⟨by simp [processRules],List.nil_subset _⟩
        · exact require_subset (by simp [processRules])
  · rw [identityViolations,List.append_subset]
    constructor
    · split
      · exact List.nil_subset _
      · exact require_subset (by simp [processRules])
    · split
      · exact List.nil_subset _
      · exact require_subset (by simp [processRules])
  · exact require_subset (by simp [processRules])
  · exact within_subset (by simp [processRules])
  · simp [archiveStagingViolations,List.append_subset,require_subset,within_subset,processRules]
  · rw [channelDigestsViolations]
    split
    · exact List.nil_subset _
    · simp [List.append_subset,require_subset,processRules]
  · exact require_subset (by simp [processRules])

theorem gatewayBudgetViolations_subset (budgets : GatewayRouteBudgets) : gatewayBudgetViolations budgets ⊆ tableRules := by
  simp [gatewayBudgetViolations,List.append_subset,within_subset,tableRules,budgetKeys]

/-- A route is named in a report only when its name is one of the services. -/
theorem routeViolation_known {name : Option String} (known : ∀ route ∈ name, route ∈ services) {field rule : String}
    (listed : (field,rule) ∈ routeRules) : routeViolation name field rule ∈ tableRules := by
  refine List.mem_append_right _ (List.mem_flatMap.mpr ⟨name,?_,List.mem_map.mpr ⟨_,listed,rfl⟩⟩)
  cases name with
  | none => exact List.mem_cons_self
  | some route => exact List.mem_cons_of_mem _ (List.mem_map.mpr ⟨route,known route rfl,rfl⟩)

theorem publicBudgetViolations_subset (config : PlatformConfig) (service : String) (route : GatewayRouteConfig) :
    publicBudgetViolations config service route ⊆ publicRules := by
  rw [publicBudgetViolations]
  split
  · simp [List.append_subset,require_subset,publicRules]
  · exact List.nil_subset _

theorem gatewayRouteViolations_subset (config : PlatformConfig) (service : String) (route : GatewayRouteConfig)
    (prefixes : List String) : gatewayRouteViolations config service route prefixes ⊆ publicRules ++ tableRules := by
  have table {rules : List Violation} (among : rules ⊆ tableRules) : rules ⊆ publicRules ++ tableRules :=
    List.subset_append_of_subset_right _ among
  cases known : gatewayService service with
  | none =>
    rw [gatewayRouteViolations,known]
    have unnamed {field rule : String} (listed : (field,rule) ∈ routeRules) : routeViolation none field rule ∈ tableRules :=
      routeViolation_known (by rintro _ ⟨⟩) listed
    simp only [List.append_subset,Option.map_none]
    refine ⟨⟨table (require_subset (unnamed (by simp [routeRules]))),table (require_subset (unnamed (by simp [routeRules])))⟩,?_⟩
    exact table (List.cons_subset.mpr ⟨unnamed (by simp [routeRules]),List.nil_subset _⟩)
  | some found =>
    obtain ⟨canonical,port⟩ := found
    rw [gatewayRouteViolations,known]
    have named {met : Bool} {field rule : String} (listed : (field,rule) ∈ routeRules) :
        require met (routeViolation (some service) field rule) ⊆ publicRules ++ tableRules :=
      table (require_subset (routeViolation_known (fun _ same => Option.mem_some.mp same ▸ service_known known) listed))
    simp only [List.append_subset,Option.map_some]
    refine ⟨⟨named (by simp [routeRules]),named (by simp [routeRules])⟩,⟨⟨⟨⟨named (by simp [routeRules]),
      named (by simp [routeRules])⟩,named (by simp [routeRules])⟩,named (by simp [routeRules])⟩,?_⟩,?_⟩
    · exact table (require_subset (by simp [tableRules]))
    · exact List.subset_append_of_subset_left _ (publicBudgetViolations_subset config service route)

theorem routeTableViolations_subset (config : PlatformConfig) (routes : List (String × GatewayRouteConfig)) (prefixes : List String) :
    routeTableViolations config routes prefixes ⊆ publicRules ++ tableRules := by
  induction routes generalizing prefixes with
  | nil => exact List.nil_subset _
  | cons entry rest ih =>
    obtain ⟨service,route⟩ := entry
    rw [routeTableViolations,List.append_subset]
    exact ⟨gatewayRouteViolations_subset config service route prefixes,ih _⟩

theorem gatewayViolations_subset (role : RuntimeRole) (config : PlatformConfig) :
    gatewayViolations role config ⊆ publicRules ++ tableRules := by
  have table {rules : List Violation} (among : rules ⊆ tableRules) : rules ⊆ publicRules ++ tableRules :=
    List.subset_append_of_subset_right _ among
  simp only [gatewayViolations,List.append_subset]
  refine ⟨⟨⟨table (require_subset (by simp [tableRules])),table (gatewayBudgetViolations_subset _)⟩,
    table (require_subset (by simp [tableRules]))⟩,routeTableViolations_subset config _ _⟩

/-- Whatever a configuration holds, all that is reported of it stands in the catalogue: no supplied value does. -/
theorem validate_subset (library : Library) (role : RuntimeRole) (config : PlatformConfig) :
    validate library role config ⊆ catalogue := by
  have listed {rules : List Violation} (among : rules ⊆ publicRules) : rules ⊆ catalogue :=
    List.subset_append_of_subset_left _ (List.subset_append_of_subset_left _ among)
  have process {rules : List Violation} (among : rules ⊆ processRules) : rules ⊆ catalogue :=
    List.subset_append_of_subset_left _ (List.subset_append_of_subset_right _ among)
  have routed {rules : List Violation} (among : rules ⊆ publicRules ++ tableRules) : rules ⊆ catalogue :=
    List.Subset.trans among (List.append_subset.mpr ⟨listed (List.Subset.refl _),List.subset_append_right _ _⟩)
  obtain ⟨filter,shutdown,otlp,database,bus,identity,retention,operations,staging,digests,peer⟩ :=
    processViolations_subset library role config
  simp only [validate,List.append_subset]
  refine ⟨⟨⟨⟨⟨⟨⟨⟨⟨⟨⟨⟨⟨listed (publicViolations_subset role config),process filter⟩,process shutdown⟩,process otlp⟩,
    process database⟩,process bus⟩,process identity⟩,process retention⟩,listed (limitViolations_subset config)⟩,
    process operations⟩,routed (gatewayViolations_subset role config)⟩,process staging⟩,process digests⟩,process peer⟩

/-- What is left of a problem when the text that may quote a value is blotted out. -/
def Problem.blind (problem : Problem) : Problem :=
  match problem.kind with
  | .other _ => { problem with kind := .other "" }
  | .missingField _ | .unknownField _ _ => problem

theorem Problem.blind_block (library : Library) (problem : Problem) :
    block (keyOf problem.blind) (envVarOf library (keyOf problem.blind)) (reasonOf problem.blind) =
      block (keyOf problem) (envVarOf library (keyOf problem)) (reasonOf problem) := by
  obtain ⟨path,kind⟩ := problem
  cases kind <;> rfl

theorem reportUnreadable_blind (library : Library) (role : RuntimeRole) (problems : List Problem) :
    reportUnreadable library role (problems.map Problem.blind) = reportUnreadable library role problems := by
  rw [reportUnreadable,reportUnreadable,List.map_map]
  exact congrArg (fun blocks => _ ++ String.join blocks ++ _) (List.map_congr_left fun problem _ => problem.blind_block library)

/-- A report is written from the catalogue, or from keys; no supplied value comes into it. -/
theorem report_echoes_nothing (library : Library) (role : RuntimeRole) :
    (∀ config : PlatformConfig, loadFrom library role (.ok config) = .ok config ∨
      ∃ known : List (Fin catalogue.length), known ≠ [] ∧
        loadFrom library role (.ok config) = .error (.invalid (known.map catalogue.get))) ∧
      ∀ problems : List Problem, loadFrom library role (.error problems) = .error (.source problems) ∧
        (ConfigError.source problems).report library role = (ConfigError.source (problems.map Problem.blind)).report library role := by
  refine ⟨fun config => ?_,fun problems => ⟨rfl,(reportUnreadable_blind library role problems).symm⟩⟩
  rw [loadFrom]
  cases found : validate library role config with
  | nil => exact Or.inl rfl
  | cons violation rest =>
    have known : ∀ entry ∈ violation :: rest, ∃ place : Fin catalogue.length, catalogue.get place = entry :=
      fun entry member => List.mem_iff_get.mp (validate_subset library role config (found ▸ member))
    obtain ⟨places,same⟩ := (Set.range_list_map _).ge known
    refine Or.inr ⟨places,?_,?_⟩
    · rintro rfl
      cases same
    · rw [same]
      rfl

end Catalogue

section Acceptance

/-- What is known of a route of an accepted configuration. -/
structure RouteValid (config : PlatformConfig) (service : String) (route : GatewayRouteConfig) : Prop where
  canonical : gatewayService service = some (route.routePrefix,route.listener.port)
  loopback : route.listener.ip.isLoopback = true
  chosen : route.routeClass.isSome = true
  capabilitiesPath : route.capabilitiesPath = "/v1/capabilities"
  archiveReceiptPath : route.archiveReceiptPath = "/v1/ai-archives/receipt"
  transfers : ∀ limit ∈ largestLimit service, limit ≤ config.gateway.budgets.transfer.maxBodyBytes
  fits : ∀ listener ∈ config.public_, ∀ routeClass ∈ route.routeClass,
    (widestBudget config.gateway.budgets service routeClass).maxBodyBytes ≤ listener.maxBodyBytes ∧
      (widestBudget config.gateway.budgets service routeClass).responseTimeoutSeconds ≤ listener.requestTimeoutSeconds

/-- Each budget is finite. -/
def BudgetValid (budget : RouteBudget) : Prop :=
  (1024 ≤ budget.maxBodyBytes ∧ budget.maxBodyBytes ≤ 104857600) ∧
    1 ≤ budget.responseTimeoutSeconds ∧ budget.responseTimeoutSeconds ≤ 300

/-- What is known of the public surface of an accepted configuration. -/
structure Accepted (role : RuntimeRole) (config : PlatformConfig) : Prop where
  listener : role.mayHavePublicListener = config.public_.isSome
  edge : role ≠ .edge → config.gateway.routes.entries = []
  budgets : ∀ routeClass, BudgetValid (config.gateway.budgets.forClass routeClass)
  routes : ∀ entry ∈ config.gateway.routes.entries, RouteValid config entry.1 entry.2
  receivers : config.gateway.routes.containsKey "chatgpt" = config.gateway.routes.containsKey "claude"

theorem publicBudget_valid {config : PlatformConfig} {service : String} {route : GatewayRouteConfig}
    (met : publicBudgetViolations config service route = []) : ∀ listener ∈ config.public_, ∀ routeClass ∈ route.routeClass,
    (widestBudget config.gateway.budgets service routeClass).maxBodyBytes ≤ listener.maxBodyBytes ∧
      (widestBudget config.gateway.budgets service routeClass).responseTimeoutSeconds ≤ listener.requestTimeoutSeconds := by
  intro listener there routeClass chosen
  rw [publicBudgetViolations,Option.mem_def.mp there,Option.mem_def.mp chosen] at met
  simp only [List.append_eq_nil_iff,require_eq_nil,Bool.not_eq_true',decide_eq_false_iff_not,Nat.not_lt] at met
  exact met

theorem gatewayRoute_valid {config : PlatformConfig} {service : String} {route : GatewayRouteConfig} {prefixes : List String}
    (met : gatewayRouteViolations config service route prefixes = []) :
    route.routePrefix ∉ prefixes ∧ RouteValid config service route := by
  rw [gatewayRouteViolations] at met
  cases known : gatewayService service with
  | none =>
    rw [known] at met
    simp at met
  | some found =>
    obtain ⟨canonical,port⟩ := found
    rw [known] at met
    simp only [List.append_eq_nil_iff,require_eq_nil,Bool.and_eq_true,beq_iff_eq,Bool.not_eq_true',Option.any_eq_false,
      decide_eq_false_iff_not,Nat.not_lt] at met
    obtain ⟨⟨unique,chosen⟩,⟨⟨⟨⟨same,loopback,allocated⟩,capabilities⟩,receipt⟩,transfers⟩,fits⟩ := met
    refine ⟨?_,?_,loopback,chosen,capabilities,receipt,?_,publicBudget_valid fits⟩
    · simpa using unique
    · rw [known,same,allocated]
    · simpa using transfers

theorem routeTable_valid {config : PlatformConfig} {routes : List (String × GatewayRouteConfig)} {prefixes : List String}
    (met : routeTableViolations config routes prefixes = []) : ∀ entry ∈ routes, RouteValid config entry.1 entry.2 := by
  induction routes generalizing prefixes with
  | nil => exact fun _ member => absurd member List.not_mem_nil
  | cons entry rest ih =>
    obtain ⟨service,route⟩ := entry
    rw [routeTableViolations,List.append_eq_nil_iff] at met
    exact List.forall_mem_cons.mpr ⟨(gatewayRoute_valid met.1).2,ih met.2⟩

theorem gatewayBudget_valid {budgets : GatewayRouteBudgets} (met : gatewayBudgetViolations budgets = []) (routeClass : RouteClass) :
    BudgetValid (budgets.forClass routeClass) := by
  simp only [gatewayBudgetViolations,List.flatMap_cons,List.flatMap_nil,List.append_nil,List.append_eq_nil_iff,within_eq_nil] at met
  cases routeClass with
  | control => exact met.1
  | stream => exact met.2.1
  | transfer => exact met.2.2

theorem validate_accepted {library : Library} {role : RuntimeRole} {config : PlatformConfig}
    (met : validate library role config = []) : Accepted role config := by
  simp only [validate,List.append_eq_nil_iff] at met
  obtain ⟨⟨⟨⟨⟨⟨⟨⟨⟨⟨⟨⟨⟨public_,_⟩,_⟩,_⟩,_⟩,_⟩,_⟩,_⟩,_⟩,_⟩,gateway⟩,_⟩,_⟩,_⟩ := met
  rw [publicViolations,List.append_eq_nil_iff] at public_
  simp only [gatewayViolations,List.append_eq_nil_iff,require_eq_nil] at gateway
  obtain ⟨⟨⟨edge,budgets⟩,receivers⟩,routes⟩ := gateway
  refine ⟨?_,?_,gatewayBudget_valid budgets,routeTable_valid routes,beq_iff_eq.mp receivers⟩
  · cases may : role.mayHavePublicListener <;> cases there : config.public_ <;> simp [may,there] at public_ ⊢
  · intro other
    simpa [other] using edge

end Acceptance

end Ratatoskr.Config
