import Ratatoskr.Sites.Dispatch

/-! What each guard of the site routes establishes of a request, and the guard of each handler. -/
namespace Ratatoskr.Sites

open PublicApi (FailureKind SiteId)

section Policy

variable (contract : RouteContract) (answers : Answers) (request : SiteRequest)

/-- The bearer of the request is that of a live session. -/
def Believed (principal : Gateway.Caller) : Prop :=
  ∃ presented row, bearer contract request.headers = some presented ∧
    answers.session presented answers.audience = .ok (some row) ∧ principal = callerOf row.val

/-- A primary session whose user holds the live owner grant -/
structure IsOwner (principal : Gateway.Caller) : Prop where
  session : Believed contract answers request principal
  device : principal.deviceId = none
  kind : principal.kind ≠ .device
  granted : ∃ grants, answers.grants = .ok grants ∧ ∃ grant ∈ grants, grant.holds principal.userId answers.now = true

/-- A session of the active device that was paired to deploy the site -/
structure IsDeployer (site : SiteId) (principal : Gateway.Caller) : Prop where
  session : Believed contract answers request principal
  device : ∃ deviceId device, principal.deviceId = some deviceId ∧ answers.device deviceId = .ok (some device) ∧
    device.kind = .siteDeployer ∧ device.userId = principal.userId ∧ device.revokedAt = none ∧ device.siteId = some site

/-- The site owner session in the cookie; an unsafe request also carries the mark and the origin of the site. -/
structure IsSiteOwner (site : SiteId) (principal : Gateway.Caller) : Prop where
  session : ∃ token row, siteCookie request.headers = some token ∧
    answers.session (contract.digestOf (String.ofList token)) (siteAudience site) = .ok (some row) ∧
    row.val.kind = .siteOwner ∧ principal = ⟨row.val.userId,none,.siteOwner⟩
  marked : isSafe request.method = true ∨
    ((firstOf request.headers siteRequestHeader).any fun value => value.val = "1".toUTF8.toList) = true ∧
      ∃ hostname, answers.hostname site = .ok (some hostname) ∧ originIs request.headers hostname = true

/-- The capability is approved for the site, and its active manifest still declares it. -/
def Capable (principal : Option Gateway.Caller) (site : SiteId) (capability : String) : Prop :=
  ∃ approved changedBy active, answers.approval site = .ok (some (approved,changedBy)) ∧
    answers.active (principal.getD ⟨changedBy,none,.service⟩) site = .ok active ∧ capability ∈ approved ∧ capability ∈ active

def contentPaths : List String :=
  ["/{site}/content/release","/{site}/content/pages/{*slug}","/{site}/content/assets/{sha256}","/{site}/content/search"]

/-- The guard of a handler, and the rows it serves -/
def Handler.Allowed (row : SiteRoute) (site : SiteId) : Handler → Prop
  | .requestBuild principal => row.path = "/{site}/releases" ∧ request.method = .post ∧
      (IsOwner contract answers request principal ∨
        IsSiteOwner contract answers request site principal ∧ Capable answers (some principal) site "notes.edit")
  | .issueCode principal => row.path = "/{site}/sign-in-codes" ∧ IsOwner contract answers request principal
  | .approve principal => row.path = "/{site}/manifest/approval" ∧ request.method = .post ∧ IsOwner contract answers request principal
  | .withdraw principal => row.path = "/{site}/manifest/approval" ∧ request.method = .delete ∧ IsOwner contract answers request principal
  | .proxied principal deployer =>
      (row.routeClass = some .management ∧ row.path ∉ ["/{site}/sign-in-codes","/{site}/manifest/approval"] ∧ deployer = none ∧
        IsOwner contract answers request principal) ∨
      (row.routeClass = some .deploy ∧
        (IsOwner contract answers request principal ∧ deployer = none ∨
          IsDeployer contract answers request site principal ∧ deployer = some site) ∧
        (row.path = "/{site}/deploys" → isDeployJson request.headers = true) ∧
        (row.path = "/{site}/deploys/{commit}/activate" → declaresBody request.headers = false ∧ request.emptyBody = true)) ∨
      (row.path ∈ ["/{site}/drafts/pages/{*slug}","/{site}/drafts/sources/{source_ref}"] ∧ deployer = none ∧
        IsSiteOwner contract answers request site principal ∧ Capable answers (some principal) site "draft.read")
  | .openSession => row.path = "/{site}/sessions" ∧ answers.admitsPublic site = true
  | .content => row.path ∈ contentPaths ∧ declaresBody request.headers = false ∧ answers.admitsPublic site = true ∧
      contract.isSiteId site = true ∧ ∃ capability, row.capability = some capability ∧ Capable answers none site capability.asStr
  | .events owned => row.path = "/{site}/events" ∧ answers.admitsPublic site = true ∧ contract.isSiteId site = true ∧
      Capable answers none site "live.release" ∧ (owned = true → ∃ principal, IsSiteOwner contract answers request site principal)
  | .upload principal _ => row.path = "/{site}/drafts/sources/{source_ref}/blobs" ∧
      IsSiteOwner contract answers request site principal ∧ Capable answers (some principal) site "notes.edit"
  | .edit principal => row.path = "/{site}/edits" ∧
      IsSiteOwner contract answers request site principal ∧ Capable answers (some principal) site "notes.edit"
  | .conflict principal _ => row.path = "/{site}/conflicts/{conflict_id}" ∧
      IsSiteOwner contract answers request site principal ∧ Capable answers (some principal) site "draft.read"
  | .search principal => IsSiteOwner contract answers request site principal ∧
      (row.path = "/{site}/library" ∧ Capable answers (some principal) site "library.read" ∨
        row.path = "/{site}/knowledge/search" ∧ searched contract request.query = true ∧
          Capable answers (some principal) site "knowledge.search")

end Policy

section Callers

variable {contract : RouteContract} {answers : Answers} {request : SiteRequest} {site : SiteId} {principal : Gateway.Caller}

theorem deployerSite_ok {deployRoute : Bool} {deviceId : Identity.DeviceId} {userId : UserId} {own : Option SiteId}
    (found : deployerSite answers deployRoute deviceId userId = .ok own) : ∀ site ∈ own,
    deployRoute = true ∧ ∃ device, answers.device deviceId = .ok (some device) ∧ device.kind = .siteDeployer ∧
      device.userId = userId ∧ device.revokedAt = none ∧ device.siteId = some site := by
  rintro site ⟨⟩
  rw [deployerSite] at found
  split at found
  · cases found
  · cases found
  · rename_i device read
    split at found
    · cases found
    · rename_i kind
      split at found
      · rename_i stored place
        split at found
        · rename_i passes
          cases found
          simp only [Bool.and_eq_true,beq_iff_eq,Option.isNone_iff_eq_none] at passes
          exact ⟨passes.2,device,read,not_not.mp kind,passes.1.1,passes.1.2,place⟩
        · cases found
      · cases found

theorem deployerSite_error {deployRoute : Bool} {deviceId : Identity.DeviceId} {userId : UserId} {refusal : FailureKind}
    (found : deployerSite answers deployRoute deviceId userId = .error refusal) : refusal ≠ .routeNotFound := by
  rw [deployerSite] at found
  rintro rfl
  split at found
  · cases found
  · cases found
  · split at found
    · cases found
    · split at found
      · split at found <;> cases found
      · cases found

theorem fromRequestParts_ok {deployRoute : Bool} {own : Option SiteId}
    (found : fromRequestParts contract answers request deployRoute = .ok (principal,own)) :
    Believed contract answers request principal ∧ ∀ site ∈ own, deployRoute = true ∧
      ∃ deviceId device, principal.deviceId = some deviceId ∧ answers.device deviceId = .ok (some device) ∧
        device.kind = .siteDeployer ∧ device.userId = principal.userId ∧ device.revokedAt = none ∧ device.siteId = some site := by
  rw [fromRequestParts] at found
  split at found
  · cases found
  · rename_i presented bore
    split at found
    · cases found
    · cases found
    · rename_i row read
      split at found
      · cases found
      · rename_i site checked
        split at found
        · cases found
          refine ⟨⟨presented,row,bore,read,rfl⟩,fun site member => ?_⟩
          cases device : row.val.deviceId with
          | none =>
            rw [device] at checked
            cases checked
            cases member
          | some deviceId =>
            rw [device] at checked
            obtain ⟨deploys,stored⟩ := deployerSite_ok checked site member
            exact ⟨deploys,deviceId,stored.choose,device,stored.choose_spec⟩
        · cases found

theorem fromRequestParts_error {deployRoute : Bool} {refusal : FailureKind}
    (found : fromRequestParts contract answers request deployRoute = .error refusal) : refusal ≠ .routeNotFound := by
  rw [fromRequestParts] at found
  split at found
  · cases found
    exact nofun
  · split at found
    · cases found
      exact nofun
    · cases found
      exact nofun
    · rename_i row read
      split at found
      · rename_i failed checked
        cases found
        cases device : row.val.deviceId with
        | none =>
          rw [device] at checked
          cases checked
        | some deviceId =>
          rw [device] at checked
          exact deployerSite_error checked
      · split at found
        · cases found
        · cases found
          exact nofun

theorem requireOwner_ok (found : requireOwner answers principal = .ok ()) :
    ∃ grants, answers.grants = .ok grants ∧ ∃ grant ∈ grants, grant.holds principal.userId answers.now = true := by
  rw [requireOwner] at found
  split at found
  · cases found
  · rename_i grants read
    split at found
    · rename_i held
      exact ⟨grants,read,List.any_eq_true.mp held⟩
    · cases found

theorem requireOwner_error {refusal : FailureKind} (found : requireOwner answers principal = .error refusal) :
    refusal ≠ .routeNotFound := by
  rw [requireOwner] at found
  rintro rfl
  split at found
  · cases found
  · split at found <;> cases found

theorem owner_ok (found : owner contract answers request = .ok principal) : IsOwner contract answers request principal := by
  rw [owner] at found
  split at found
  · cases found
  · rename_i believed own parts
    split at found
    · cases found
    · rename_i primary
      split at found
      · cases found
      · rename_i granted
        cases found
        simp only [Bool.or_eq_true,beq_iff_eq,not_or,Bool.not_eq_true,Option.isSome_eq_false_iff,Option.isNone_iff_eq_none] at primary
        exact ⟨(fromRequestParts_ok parts).1,primary.1,primary.2,requireOwner_ok granted⟩

theorem owner_error {refusal : FailureKind} (found : owner contract answers request = .error refusal) : refusal ≠ .routeNotFound := by
  rw [owner] at found
  split at found
  · rename_i parts
    cases found
    exact fromRequestParts_error parts
  · split at found
    · cases found
      exact nofun
    · split at found
      · rename_i granted
        cases found
        exact requireOwner_error granted
      · cases found

theorem deployer_ok {own : Option SiteId} (found : deployer contract answers request site = .ok (principal,own)) :
    IsOwner contract answers request principal ∧ own = none ∨ IsDeployer contract answers request site principal ∧ own = some site := by
  rw [deployer] at found
  split at found
  · cases found
  · rename_i believed stored parts
    obtain ⟨session,device⟩ := fromRequestParts_ok parts
    split at found
    · rename_i primary
      simp only [Bool.and_eq_true,Option.isNone_iff_eq_none,bne_iff_ne] at primary
      split at found
      · cases found
      · rename_i granted
        cases found
        refine Or.inl ⟨⟨session,primary.1,primary.2,requireOwner_ok granted⟩,?_⟩
        cases own with
        | none => rfl
        | some site =>
          obtain ⟨_,deviceId,_,same,_⟩ := device site rfl
          rw [primary.1] at same
          cases same
    · split at found
      · split at found
        · rename_i same
          cases found
          cases same
          exact Or.inr ⟨⟨session,(device _ rfl).2⟩,rfl⟩
        · cases found
      · cases found

theorem deployer_error {refusal : FailureKind} (found : deployer contract answers request site = .error refusal) :
    refusal ≠ .routeNotFound := by
  rw [deployer] at found
  split at found
  · rename_i parts
    cases found
    exact fromRequestParts_error parts
  · split at found
    · split at found
      · rename_i granted
        cases found
        exact requireOwner_error granted
      · cases found
    · split at found
      · split at found
        · cases found
        · cases found
          exact nofun
      · cases found
        exact nofun

theorem siteOwner_ok (found : siteOwner contract answers request site = .ok (some principal)) :
    IsSiteOwner contract answers request site principal := by
  rw [siteOwner] at found
  split at found
  · cases found
  · rename_i token bore
    split at found
    · cases found
    · cases found
    · rename_i row read
      split at found
      · cases found
      rename_i kind
      split at found
      · cases found
      split at found
      · rename_i safe
        cases found
        exact ⟨⟨token,row,bore,read,not_not.mp kind,rfl⟩,Or.inl safe⟩
      split at found
      · cases found
      rename_i hostname approved
      dsimp only at found
      split at found
      · cases found
      · rename_i marked
        cases found
        simp only [Bool.or_eq_true,Bool.not_eq_true',not_or,Bool.not_eq_false] at marked
        cases hostname with
        | none => exact absurd marked.2 nofun
        | some name => exact ⟨⟨token,row,bore,read,not_not.mp kind,rfl⟩,Or.inr ⟨marked.1,name,approved,marked.2⟩⟩

theorem siteOwner_error {refusal : FailureKind} (found : siteOwner contract answers request site = .error refusal) :
    refusal ≠ .routeNotFound := by
  rw [siteOwner] at found
  rintro rfl
  split at found
  · cases found
  · split at found
    · cases found
    · cases found
    · split at found
      · cases found
      split at found
      · cases found
      split at found
      · cases found
      split at found
      · cases found
      dsimp only at found
      split at found <;> cases found

theorem effectiveSet_ok {principal : Option Gateway.Caller} {set : List String}
    (found : effectiveSet answers principal site = .ok (some set)) (capability : String) (member : capability ∈ set) :
    Capable answers principal site capability := by
  rw [effectiveSet] at found
  split at found
  · cases found
  · cases found
  · rename_i approved changedBy read
    split at found
    · cases found
    · rename_i active observed
      cases found
      obtain ⟨granted,declared⟩ := List.mem_filter.mp member
      exact ⟨approved,changedBy,active,read,observed,granted,by simpa using declared⟩

theorem effectiveSet_error {principal : Option Gateway.Caller} {refusal : FailureKind}
    (found : effectiveSet answers principal site = .error refusal) : refusal = .upstreamUnavailable := by
  rw [effectiveSet] at found
  split at found
  · cases found
    rfl
  · cases found
  · split at found
    · cases found
      rfl
    · cases found

theorem requireCapability_ok {capability : String} (found : requireCapability answers principal site capability = .ok ()) :
    Capable answers (some principal) site capability := by
  rw [requireCapability] at found
  split at found
  · cases found
  · rename_i set read
    split at found
    · rename_i granted
      exact effectiveSet_ok read capability (by simpa using granted)
    · cases found
  · cases found

theorem requireCapability_error {capability : String} {refusal : FailureKind}
    (found : requireCapability answers principal site capability = .error refusal) : refusal ≠ .routeNotFound := by
  rw [requireCapability] at found
  split at found
  · rename_i failed
    cases found
    rw [effectiveSet_error failed]
    exact nofun
  · split at found
    · cases found
    · cases found
      exact nofun
  · cases found
    exact nofun

theorem publicCapability_ok {capability : SiteCapability} (found : publicCapability contract answers site capability = .ok true) :
    contract.isSiteId site = true ∧ Capable answers none site capability.asStr := by
  rw [publicCapability] at found
  split at found
  · cases found
  · rename_i valid
    cases read : effectiveSet answers none site with
    | error refusal =>
      rw [read] at found
      cases found
    | ok set =>
      rw [read] at found
      cases set with
      | none => cases found
      | some set =>
        have member : set.contains capability.asStr = true := Except.ok.inj found
        exact ⟨by simpa using valid,effectiveSet_ok read _ (by simpa using member)⟩

theorem publicCapability_error {capability : SiteCapability} {refusal : FailureKind}
    (found : publicCapability contract answers site capability = .error refusal) : refusal ≠ .routeNotFound := by
  rw [publicCapability] at found
  split at found
  · cases found
  · cases read : effectiveSet answers none site with
    | error failed =>
      rw [read] at found
      cases found
      rw [effectiveSet_error read]
      exact nofun
    | ok set =>
      rw [read] at found
      cases found

end Callers

end Ratatoskr.Sites
