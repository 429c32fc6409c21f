import Ratatoskr.Sites.Guards

/-! A request under `/v1/sites` reaches a handler only through its row of the route table and the guard of its class. -/
namespace Ratatoskr.Sites

open Gateway (isUnder stripPrefix underSlot)
open PublicApi (FailureKind SiteId)

section Paths

/-- The pattern below `/v1/sites/` -/
def SiteRoute.inner (row : SiteRoute) : List (Patterns.Slot (List Char)) := row.pattern.tail

/-- The segments of a request below `/v1/sites/`, and the row they are of -/
structure Placed (path : String) (row : SiteRoute) (actual : List (List Char)) : Prop where
  splits : path.toList.splitOn '/' = [[],['v','1'],['s','i','t','e','s']] ++ actual
  below : (belowSites path).splitOn '/' = actual
  held : Patterns.holds [] row.inner actual = true

theorem rows_led : ∀ row ∈ routes, row.path = "" ∧ row.pattern = [.literal []] ∨
    row.pattern = .literal [] :: row.inner ∧ row.inner ≠ [] := by
  decide +kernel

theorem placed_of_held {row : SiteRoute} (listed : row ∈ routes) {path : String} {below : List Char}
    (same : path.toList = "/v1/sites".toList ++ below) (held : row.holds below = true) :
    row.path = "" ∧ belowSites path = [] ∨ ∃ actual, Placed path row actual := by
  rw [SiteRoute.holds] at held
  rcases rows_led row listed with ⟨empty,pattern⟩ | ⟨pattern,more⟩
  · rw [pattern] at held
    obtain ⟨segment,actual,parts,fits,onward⟩ := Patterns.holds_cons held
    have none_ : actual = [] := List.isEmpty_iff.mp (onward.resolve_left (by rintro ⟨⟩))
    have blank : segment = [] := (Patterns.fits_literal.mp fits).symm
    have joined : ['/'].intercalate (below.splitOn '/') = below := List.intercalate_splitOn '/'
    rw [parts,none_,blank] at joined
    refine Or.inl ⟨empty,?_⟩
    rw [belowSites,same,← joined]
    rfl
  · rw [pattern] at held
    obtain ⟨segment,actual,parts,fits,onward⟩ := Patterns.holds_cons held
    have inner : Patterns.holds [] row.inner actual = true := onward.resolve_left (by rintro ⟨⟩)
    have blank : segment = [] := (Patterns.fits_literal.mp fits).symm
    have some_ : actual ≠ [] := by
      rintro rfl
      cases inner_ : row.inner with
      | nil => exact more inner_
      | cons slot rest =>
        rw [inner_] at inner
        cases inner
    obtain ⟨rest,shape,split_⟩ := Text.cons_of_splitOn (blank ▸ parts) some_
    refine Or.inr ⟨actual,?_,?_,inner⟩
    · have led : path.toList = ('/' :: ['v','1']) ++ '/' :: (['s','i','t','e','s'] ++ '/' :: rest) := by
        rw [same,shape]
        rfl
      rw [led,List.splitOn_append_cons_self,List.splitOn_append_cons_self,split_]
      rfl
    · have led : path.toList = "/v1/sites/".toList ++ rest := by
        rw [same,shape]
        rfl
      have starts : "/v1/sites/".toList.isPrefixOf path.toList = true :=
        List.isPrefixOf_iff_prefix.mpr (led ▸ List.prefix_append _ _)
      rw [belowSites,stripPrefix,if_pos starts,led,List.drop_left]
      exact split_

/-- Whether a path is under another pattern is decided by its row alone. -/
theorem isUnder_of_placed {path pattern : String} {row : SiteRoute} {actual : List (List Char)} (placed : Placed path row actual)
    {more : List (Patterns.Slot (List Char))} (led : row.inner = (pattern.toList.splitOn '/').map underSlot ++ more)
    (plain : Patterns.Slot.rest ∉ (pattern.toList.splitOn '/').map underSlot) : isUnder pattern (belowSites path) = true := by
  have held := placed.held
  rw [led] at held
  rw [isUnder,placed.below]
  exact Patterns.under_of_holds actual held plain

theorem not_isUnder_of_placed {path pattern : String} {row : SiteRoute} {actual : List (List Char)} (placed : Placed path row actual)
    (missed : Patterns.misses ((pattern.toList.splitOn '/').map underSlot) row.inner = true) :
    isUnder pattern (belowSites path) = false := by
  rw [isUnder,placed.below]
  exact Patterns.not_under_of_misses missed actual placed.held

end Paths

section Classes

variable (contract : RouteContract) (answers : Answers) (request : SiteRequest)

/-- A handler is allowed; a refusal is not that there is no such route. -/
def Sound (row : SiteRoute) (site : SiteId) : Except Refusal Handler → Prop
  | .ok handler => handler.Allowed contract answers request row site
  | .error refusal => refusal ≠ .rejected .routeNotFound

variable {contract answers request} {row : SiteRoute} {site : SiteId}

theorem sound_rejected {kind : FailureKind} (other : kind ≠ .routeNotFound) : Sound contract answers request row site (reject kind) :=
  fun same => other (Refusal.rejected.inj same)

theorem management_rows : ∀ row ∈ routes, row.routeClass = some .management →
    row.path = "" ∨
      (row.path = "/{site}/sign-in-codes" ∧ row.inner = ("{site}/sign-in-codes".toList.splitOn '/').map underSlot ++ []) ∨
      (row.path = "/{site}/manifest/approval" ∧ row.methods = [.post,.delete] ∧
        Patterns.misses (("{site}/sign-in-codes".toList.splitOn '/').map underSlot) row.inner = true ∧
        row.inner = ("{site}/manifest/approval".toList.splitOn '/').map underSlot ++ []) ∨
      row.path ∉ ["/{site}/sign-in-codes","/{site}/manifest/approval"] ∧
        Patterns.misses (("{site}/sign-in-codes".toList.splitOn '/').map underSlot) row.inner = true ∧
        Patterns.misses (("{site}/manifest/approval".toList.splitOn '/').map underSlot) row.inner = true := by
  decide +kernel

theorem management_sound (listed : row ∈ routes) (class_ : row.routeClass = some .management) (has : request.method ∈ row.methods)
    (placed : row.path = "" ∧ belowSites request.path = [] ∨ ∃ actual, Placed request.path row actual) :
    Sound contract answers request row site (management contract answers request) := by
  rw [management]
  cases found : owner contract answers request with
  | error refusal => exact sound_rejected (owner_error found)
  | ok principal =>
    have owned := owner_ok found
    dsimp only
    have proxied (path : row.path ∉ ["/{site}/sign-in-codes","/{site}/manifest/approval"])
        (first : isUnder "{site}/sign-in-codes" (belowSites request.path) = false)
        (second : isUnder "{site}/manifest/approval" (belowSites request.path) = false) :
        Sound contract answers request row site
          (if isUnder "{site}/sign-in-codes" (belowSites request.path) then .ok (.issueCode principal)
            else if isUnder "{site}/manifest/approval" (belowSites request.path) then
              if request.method = .delete then .ok (.withdraw principal) else .ok (.approve principal)
            else .ok (.proxied principal none)) := by
      rw [first,second]
      exact Or.inl ⟨class_,path,rfl,owned⟩
    rcases placed with ⟨empty,below⟩ | ⟨actual,placed⟩
    · refine proxied (by rw [empty]; decide) ?_ ?_ <;> rw [below] <;> decide +kernel
    · rcases management_rows row listed class_ with empty | ⟨path,inner⟩ | ⟨path,methods,missed,inner⟩ | ⟨path,missed,missed'⟩
      · have held := placed.held
        rw [show row.inner = [] by rw [SiteRoute.inner,SiteRoute.pattern,empty]; decide +kernel] at held
        have parts := placed.below
        rw [List.isEmpty_iff.mp held] at parts
        exact absurd parts (List.splitOn_ne_nil _ _)
      · rw [isUnder_of_placed placed inner (by decide +kernel)]
        exact ⟨path,owned⟩
      · rw [not_isUnder_of_placed placed missed,isUnder_of_placed placed inner (by decide +kernel)]
        rw [methods] at has
        simp only [Bool.false_eq_true,if_false,if_true]
        split
        · rename_i deletes
          exact ⟨path,deletes,owned⟩
        · rename_i other
          refine ⟨path,?_,owned⟩
          simpa [other] using has
      · exact proxied path (not_isUnder_of_placed placed missed) (not_isUnder_of_placed placed missed')

theorem release_sound (listed : row ∈ routes) (class_ : row.routeClass = some .release) (has : request.method ∈ row.methods) :
    Sound contract answers request row site (release contract answers request site) := by
  have only : ∀ row ∈ routes, row.routeClass = some .release → row.path = "/{site}/releases" ∧ row.methods = [.post] := by decide
  obtain ⟨path,methods⟩ := only row listed class_
  have post : request.method = .post := List.mem_singleton.mp (methods ▸ has)
  have owned : Sound contract answers request row site (ownerRelease contract answers request) := by
    rw [ownerRelease]
    cases found : owner contract answers request with
    | error refusal => exact sound_rejected (owner_error found)
    | ok principal => exact ⟨path,post,Or.inl (owner_ok found)⟩
  rw [release]
  split
  · rw [siteRelease]
    cases found : siteOwner contract answers request site with
    | error refusal => exact sound_rejected (siteOwner_error found)
    | ok session =>
      cases session with
      | none => exact owned
      | some principal =>
        cases checked : requireCapability answers principal site "notes.edit" with
        | error refusal =>
          simp only [checked]
          exact sound_rejected (requireCapability_error checked)
        | ok _ =>
          simp only [checked]
          exact ⟨path,post,Or.inr ⟨siteOwner_ok found,requireCapability_ok checked⟩⟩
  · exact owned

theorem signIn_sound (listed : row ∈ routes) (class_ : row.routeClass = some .signIn) :
    Sound contract answers request row site (signIn answers site) := by
  have only : ∀ row ∈ routes, row.routeClass = some .signIn → row.path = "/{site}/sessions" := by decide
  rw [signIn]
  split
  · rename_i admitted
    exact ⟨only row listed class_,admitted⟩
  · exact nofun

theorem endsWith_of_placed {path : String} {actual : List (List Char)} (placed : Placed path row actual)
    {pattern : List (Patterns.Slot (List Char))} {last : List Char} (led : row.inner = pattern ++ [.literal last])
    (plain : Patterns.Slot.rest ∉ pattern) : endsWith path (String.ofList ('/' :: last)) = true := by
  have held := placed.held
  rw [led] at held
  obtain ⟨front,same⟩ := Patterns.literal_last actual held plain
  have parts := placed.splits
  rw [same,← List.append_assoc] at parts
  rw [endsWith,String.toList_ofList,List.isSuffixOf_iff_suffix]
  exact Text.suffix_of_splitOn parts (by simp)

theorem deploy_rows : ∀ row ∈ routes, row.routeClass = some .deploy →
    (row.path = "/{site}/deploys" ∧ row.inner = [.hole] ++ [.literal "deploys".toList]) ∨
      row.path = "/{site}/deploys/{commit}/activate" ∧
        row.inner = [.hole,.literal "deploys".toList,.hole] ++ [.literal "activate".toList] := by
  decide +kernel

theorem deploy_sound (listed : row ∈ routes) (class_ : row.routeClass = some .deploy) {actual : List (List Char)}
    (placed : Placed request.path row actual) : Sound contract answers request row site (deploy contract answers request site) := by
  rw [deploy]
  cases found : deployer contract answers request site with
  | error refusal => exact sound_rejected (deployer_error found)
  | ok parts =>
    obtain ⟨principal,own⟩ := parts
    dsimp only
    split
    · exact sound_rejected nofun
    rename_i json
    split
    · exact sound_rejected nofun
    rename_i bare
    simp only [Bool.and_eq_true,Bool.or_eq_true,Bool.not_eq_true',not_and,not_or,Bool.not_eq_false,Bool.not_eq_true] at json bare
    refine Or.inr (Or.inl ⟨class_,deployer_ok found,fun path => ?_,fun path => ?_⟩)
    · rcases deploy_rows row listed class_ with ⟨_,inner⟩ | ⟨other,_⟩
      · exact json (endsWith_of_placed placed inner (by decide))
      · rw [path] at other
        exact absurd other (by decide)
    · rcases deploy_rows row listed class_ with ⟨other,_⟩ | ⟨_,inner⟩
      · rw [path] at other
        exact absurd other (by decide)
      · exact bare (endsWith_of_placed placed inner (by decide))

/-- The rows of the site owner session, as their paths, capabilities and patterns -/
def ownerRows : List (String × SiteCapability × List (Patterns.Slot (List Char))) :=
  [("/{site}/drafts/pages/{*slug}",.draftRead,[.hole,.literal "drafts".toList,.literal "pages".toList,.rest]),
    ("/{site}/drafts/sources/{source_ref}",.draftRead,[.hole,.literal "drafts".toList,.literal "sources".toList,.hole]),
    ("/{site}/drafts/sources/{source_ref}/blobs",.notesEdit,
      [.hole,.literal "drafts".toList,.literal "sources".toList,.hole,.literal "blobs".toList]),
    ("/{site}/edits",.notesEdit,[.hole,.literal "edits".toList]),
    ("/{site}/conflicts/{conflict_id}",.draftRead,[.hole,.literal "conflicts".toList,.hole]),
    ("/{site}/library",.libraryRead,[.hole,.literal "library".toList]),
    ("/{site}/knowledge/search",.knowledgeSearch,[.hole,.literal "knowledge".toList,.literal "search".toList])]

theorem origin_rows : ∀ row ∈ routes, row.routeClass = some .siteOrigin →
    (row.path ∈ contentPaths ∧ row.inner = .hole :: .literal "content".toList :: row.inner.drop 2) ∨
      (row.path = "/{site}/events" ∧ row.capability = some .liveRelease ∧ row.inner = [.hole,.literal "events".toList]) ∨
      ∃ owned ∈ ownerRows, row.path = owned.1 ∧ row.capability = some owned.2.1 ∧ row.inner = owned.2.2 := by
  decide +kernel

/-- The second segment of a path whose pattern begins so -/
theorem second_of_placed {path : String} {actual : List (List Char)} (placed : Placed path row actual) {word : List Char}
    {more : List (Patterns.Slot (List Char))} (led : row.inner = .hole :: .literal word :: more) :
    ∃ name rest, actual = name :: word :: rest ∧ Patterns.holds [] more rest = true := by
  have held := placed.held
  rw [led] at held
  obtain ⟨name,others,rfl,_,onward⟩ := Patterns.holds_cons held
  obtain ⟨second,rest,rfl,fits,further⟩ := Patterns.holds_cons (onward.resolve_left (by rintro ⟨⟩))
  exact ⟨name,rest,by rw [Patterns.fits_literal.mp fits],further.resolve_left nofun⟩

theorem isContent_of_placed {path : String} {name word : List Char} {rest : List (List Char)}
    (placed : Placed path row (name :: word :: rest)) : isContent path = (word == "content".toList) := by
  rw [isContent,placed.splits]
  rfl

theorem ownerRoute_sound {principal : Gateway.Caller} {actual : List (List Char)} (placed : Placed request.path row actual)
    {owned : String × SiteCapability × List (Patterns.Slot (List Char))} (known : owned ∈ ownerRows) (path : row.path = owned.1)
    (inner : row.inner = owned.2.2) (session : IsSiteOwner contract answers request site principal)
    (capable : Capable answers (some principal) site owned.2.1.asStr) :
    Sound contract answers request row site (ownerRoute contract request principal) := by
  have segments (name : List Char) (more : List (List Char)) (same : actual = name :: more) :
      ((request.path.toList.splitOn '/').drop 4).map String.ofList = more.map String.ofList := by
    rw [placed.splits,same]
    rfl
  simp only [ownerRows,List.mem_cons,List.not_mem_nil,or_false] at known
  rw [ownerRoute]
  rcases known with rfl | rfl | rfl | rfl | rfl | rfl | rfl
  all_goals obtain ⟨name,rest,same,held⟩ := second_of_placed placed inner
  all_goals rw [segments name _ same]
  · obtain ⟨second,others,rfl,fits,onward⟩ := Patterns.holds_cons held
    rw [← Patterns.fits_literal.mp fits]
    have proxied : Sound contract answers request row site (.ok (.proxied principal none)) :=
      Or.inr (Or.inr ⟨by rw [path]; decide,rfl,session,capable⟩)
    rcases others with _ | ⟨third,_ | ⟨fourth,_ | ⟨fifth,others⟩⟩⟩ <;> exact proxied
  · obtain ⟨second,others,rfl,fits,onward⟩ := Patterns.holds_cons held
    obtain ⟨third,others,rfl,_,further⟩ := Patterns.holds_cons (onward.resolve_left (by rintro ⟨⟩))
    rw [← Patterns.fits_literal.mp fits,List.isEmpty_iff.mp (further.resolve_left nofun)]
    exact Or.inr (Or.inr ⟨by rw [path]; decide,rfl,session,capable⟩)
  · obtain ⟨second,others,rfl,fits,onward⟩ := Patterns.holds_cons held
    obtain ⟨third,others,rfl,_,further⟩ := Patterns.holds_cons (onward.resolve_left (by rintro ⟨⟩))
    obtain ⟨fourth,others,rfl,last,ends⟩ := Patterns.holds_cons (further.resolve_left nofun)
    rw [← Patterns.fits_literal.mp fits,← Patterns.fits_literal.mp last,List.isEmpty_iff.mp (ends.resolve_left nofun)]
    exact ⟨path,session,capable⟩
  · rw [List.isEmpty_iff.mp held]
    exact ⟨path,session,capable⟩
  · obtain ⟨second,others,rfl,_,onward⟩ := Patterns.holds_cons held
    rw [List.isEmpty_iff.mp (onward.resolve_left (by rintro ⟨⟩))]
    exact ⟨path,session,capable⟩
  · rw [List.isEmpty_iff.mp held]
    exact ⟨session,Or.inl ⟨path,capable⟩⟩
  · obtain ⟨second,others,rfl,fits,onward⟩ := Patterns.holds_cons held
    rw [← Patterns.fits_literal.mp fits,List.isEmpty_iff.mp (onward.resolve_left (by rintro ⟨⟩))]
    cases asked : searched contract request.query with
    | false =>
      have refused : Sound contract answers request row site (reject .invalidRequest) := sound_rejected nofun
      simpa [asked] using refused
    | true =>
      have allowed : Sound contract answers request row site (.ok (.search principal)) := ⟨session,Or.inr ⟨path,asked,capable⟩⟩
      simpa [asked] using allowed

theorem content_sound {capability : SiteCapability} (path : row.path ∈ contentPaths) (own : row.capability = some capability) :
    Sound contract answers request row site (content contract answers request site capability) := by
  rw [content]
  split
  · exact sound_rejected nofun
  rename_i bare
  split
  · exact nofun
  rename_i admitted
  simp only [Bool.not_eq_true,Bool.not_eq_true',Bool.not_eq_false] at bare admitted
  cases found : publicCapability contract answers site capability with
  | error refusal => exact sound_rejected (publicCapability_error found)
  | ok granted =>
    cases granted with
    | false => exact nofun
    | true =>
      obtain ⟨valid,capable⟩ := publicCapability_ok found
      exact ⟨path,bare,admitted,valid,capability,own,capable⟩

theorem siteOrigin_sound (listed : row ∈ routes) (class_ : row.routeClass = some .siteOrigin) {capability : SiteCapability}
    (own : row.capability = some capability) {actual : List (List Char)} (placed : Placed request.path row actual) :
    Sound contract answers request row site (siteOrigin contract answers request site capability) := by
  rw [siteOrigin]
  rcases origin_rows row listed class_ with ⟨path,inner⟩ | ⟨path,live,inner⟩ | ⟨owned,known,path,needs,inner⟩
  · obtain ⟨name,rest,rfl,_⟩ := second_of_placed placed inner
    rw [if_pos (by rw [isContent_of_placed placed]; decide)]
    exact content_sound path own
  · obtain ⟨name,rest,rfl,_⟩ := second_of_placed placed inner
    obtain rfl : capability = .liveRelease := Option.some.inj (own.symm.trans live)
    have public_ : contract.isPublic .liveRelease = true := (contract.publicly _).mpr (by decide)
    rw [if_neg (by rw [isContent_of_placed placed]; decide),if_pos public_]
    split
    · exact nofun
    rename_i admitted
    simp only [Bool.not_eq_true',Bool.not_eq_false] at admitted
    cases found : publicCapability contract answers site .liveRelease with
    | error refusal => exact sound_rejected (publicCapability_error found)
    | ok granted =>
      cases granted with
      | false => exact nofun
      | true =>
        obtain ⟨valid,capable⟩ := publicCapability_ok found
        cases session : siteOwner contract answers request site with
        | error refusal => exact sound_rejected (siteOwner_error session)
        | ok principal =>
          cases principal with
          | none => exact ⟨path,admitted,valid,capable,nofun⟩
          | some principal =>
            dsimp only
            cases answers.watched with
            | error _ => exact sound_rejected nofun
            | ok seen => exact ⟨path,admitted,valid,capable,fun _ => ⟨principal,siteOwner_ok session⟩⟩
  · have word : ∃ word more, word ≠ "content".toList ∧ row.inner = .hole :: .literal word :: more := by
      simp only [ownerRows,List.mem_cons,List.not_mem_nil,or_false] at known
      rcases known with rfl | rfl | rfl | rfl | rfl | rfl | rfl <;> exact ⟨_,_,by decide,inner⟩
    obtain ⟨word,more,other,led⟩ := word
    obtain ⟨name,rest,shape,_⟩ := second_of_placed placed led
    have outside : isContent request.path = false := by
      rw [shape] at placed
      rw [isContent_of_placed placed]
      exact beq_eq_false_iff_ne.mpr other
    obtain rfl : capability = owned.2.1 := Option.some.inj (own.symm.trans needs)
    have private_ : contract.isPublic owned.2.1 = false := by
      rw [← Bool.not_eq_true,contract.publicly]
      simp only [ownerRows,List.mem_cons,List.not_mem_nil,or_false] at known
      rcases known with rfl | rfl | rfl | rfl | rfl | rfl | rfl <;> decide
    rw [outside,private_]
    simp only [Bool.false_eq_true,if_false]
    cases session : siteOwner contract answers request site with
    | error refusal => exact sound_rejected (siteOwner_error session)
    | ok principal =>
      cases principal with
      | none => exact sound_rejected nofun
      | some principal =>
        dsimp only
        cases checked : requireCapability answers principal site owned.2.1.asStr with
        | error refusal => exact sound_rejected (requireCapability_error checked)
        | ok _ => exact ownerRoute_sound placed known path inner (siteOwner_ok session) (requireCapability_ok checked)

theorem serve_sound (listed : row ∈ routes) {routeClass : SiteRouteClass} (class_ : row.routeClass = some routeClass)
    (has : request.method ∈ row.methods)
    (placed : row.path = "" ∧ belowSites request.path = [] ∨ ∃ actual, Placed request.path row actual) :
    Sound contract answers request row site (serve contract answers request site routeClass row.capability) := by
  have below (deep : row.path ≠ "") : ∃ actual, Placed request.path row actual :=
    placed.resolve_left fun top => deep top.1
  have deep : ∀ row ∈ routes, row.routeClass = some .deploy ∨ row.routeClass = some .siteOrigin → row.path ≠ "" := by decide
  cases routeClass with
  | management => exact management_sound listed class_ has placed
  | release => exact release_sound listed class_ has
  | signIn => exact signIn_sound listed class_
  | deploy =>
    obtain ⟨actual,placed⟩ := below (deep row listed (Or.inl class_))
    exact deploy_sound listed class_ placed
  | siteOrigin =>
    obtain ⟨actual,placed⟩ := below (deep row listed (Or.inr class_))
    have named : ∀ row ∈ routes, row.routeClass = some .siteOrigin → row.capability.isSome = true := by decide
    obtain ⟨capability,own⟩ := Option.isSome_iff_exists.mp (named row listed class_)
    rw [own]
    exact siteOrigin_sound listed class_ own placed

end Classes

section Dispatched

variable (contract : RouteContract) (answers : Answers) (request : SiteRequest)

/-- The one row of a request that a handler serves, and the site that was checked and is forwarded. -/
structure Reached (site : SiteId) (handler : Handler) (row : SiteRoute) (below : List Char) : Prop where
  listed : row ∈ routes
  path : request.path.toList = "/v1/sites".toList ++ below
  held : row.holds below = true
  method : request.method ∈ row.methods
  only : ∀ other ∈ routes, other.holds below = true → request.method ∈ other.methods → other = row
  own : site = String.ofList ((below.splitOn '/').getD 1 [])
  named : site = "" ∨ namesSite request.path site.toList = true
  allowed : handler.Allowed contract answers request row site

/-- A request reaches a handler only through the guard of its one row, and one that a row holds is not answered as unknown. -/
theorem dispatch_guarded :
    (∀ site handler, dispatch contract answers request = .ok (site,handler) →
      ∃ row below, Reached contract answers request site handler row below) ∧
      (dispatch contract answers request = .error (.rejected .routeNotFound) ↔
        classify request.method request.path = .error .routeNotFound ∨
          ∃ site row, classify request.method request.path = .ok (site,row) ∧ site ≠ [] ∧ namesSite request.path site = false) := by
  rw [dispatch]
  cases found : classify request.method request.path with
  | error refusal =>
    refine ⟨nofun,fun same => ?_,fun reason => ?_⟩
    · cases same
      exact Or.inl rfl
    · rcases reason with same | ⟨_,_,other,_⟩
      · cases same
        rfl
      · cases other
  | ok held =>
    obtain ⟨site,row⟩ := held
    obtain ⟨below,path,listed,holds,has,own,only⟩ := classify_ok found
    have classed : ∀ row ∈ routes, row.routeClass.isSome = true := by decide
    obtain ⟨routeClass,class_⟩ := Option.isSome_iff_exists.mp (classed row listed)
    have sound : Sound contract answers request row (String.ofList site)
        (serve contract answers request (String.ofList site) routeClass row.capability) :=
      serve_sound listed class_ has (placed_of_held listed path holds)
    simp only [class_]
    split
    · rename_i unresolved
      simp only [Bool.and_eq_true,Bool.not_eq_true',List.isEmpty_eq_false_iff] at unresolved
      exact ⟨nofun,fun _ => Or.inr ⟨site,row,rfl,unresolved⟩,fun _ => rfl⟩
    · rename_i resolves
      have named : site = [] ∨ namesSite request.path site = true := by
        by_contra neither
        rw [not_or] at neither
        exact resolves (by simp [neither.1,neither.2])
      cases served : serve contract answers request (String.ofList site) routeClass row.capability with
      | error refusal =>
        rw [served] at sound
        refine ⟨nofun,fun same => ?_,fun reason => ?_⟩
        · cases same
          exact absurd rfl sound
        · rcases reason with same | ⟨_,_,same,some_,unnamed⟩
          · cases same
          · cases same
            rcases named with none_ | name
            · exact absurd none_ some_
            · rw [name] at unnamed
              cases unnamed
      | ok handler =>
        rw [served] at sound
        refine ⟨fun _ _ same => ?_,nofun,fun reason => ?_⟩
        · cases same
          refine ⟨row,below,listed,path,holds,has,only,congrArg String.ofList own,?_,sound⟩
          rw [String.toList_ofList]
          exact named.imp_left fun none_ => by rw [none_]
        · rcases reason with same | ⟨_,_,same,some_,unnamed⟩
          · cases same
          · cases same
            rcases named with none_ | name
            · exact absurd none_ some_
            · rw [name] at unnamed
              cases unnamed

/-- A believed session of the owner -/
def ownerSession : Identity.Session := ⟨1,.browser,none,"platform",0,10,none,none,some 0⟩

def openContract : RouteContract where
  digestOf := fun _ => 0
  isSiteId := fun _ => true
  isPublic := [SiteCapability.pagesRead,.assetsRead,.searchPublication,.liveRelease].contains
  publicly := fun _ => List.contains_iff_mem
  formPairs := fun _ => []

def ownerAnswers : Answers where
  now := 1
  audience := "platform"
  session := fun presented audience =>
    if believed : ownerSession.authenticates presented audience 1 = true then .ok (some ⟨ownerSession,believed⟩) else .ok none
  device := fun _ => .ok none
  admits := fun _ => true
  grants := .ok [⟨1,ownerGrant,none,none⟩]
  hostname := fun _ => .ok none
  approval := fun _ => .ok none
  active := fun _ _ => .ok []
  watched := .ok true
  admitsPublic := fun _ => true

def manifestRead : SiteRequest :=
  ⟨.get,"/v1/sites/s1/manifest",none,[(Gateway.authorization,⟨"Bearer c".toUTF8.toList,by decide +kernel⟩)],true⟩

theorem manifest_guarded : ∃ handler row below,
    dispatch openContract ownerAnswers manifestRead = .ok ("s1",handler) ∧
      Reached openContract ownerAnswers manifestRead "s1" handler row below := by
  have served : (dispatch openContract ownerAnswers manifestRead).toOption.map (·.1) = some "s1" := by decide +kernel
  cases given : dispatch openContract ownerAnswers manifestRead with
  | error refusal =>
    rw [given] at served
    cases served
  | ok reached =>
    obtain ⟨site,handler⟩ := reached
    rw [given] at served
    cases served
    obtain ⟨row,below,found⟩ := (dispatch_guarded openContract ownerAnswers manifestRead).1 _ handler given
    exact ⟨handler,row,below,rfl,found⟩

end Dispatched

end Ratatoskr.Sites
