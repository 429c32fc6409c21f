import Mathlib.Data.List.Pairwise
import Ratatoskr.Gateway.Paths
import Ratatoskr.Lib.Patterns
import Ratatoskr.PublicApi.Intake

/-! The site route table: one row for each route under `/v1/sites`, with its class. -/
namespace Ratatoskr.Sites

open Gateway (stripPrefix)
open PublicApi (FailureKind)

inductive Method where
  | get | head | post | put | delete | options | connect | patch | trace
  | extension (name : String)
deriving DecidableEq

def Method.display : Method → String
  | .get => "GET"
  | .head => "HEAD"
  | .post => "POST"
  | .put => "PUT"
  | .delete => "DELETE"
  | .options => "OPTIONS"
  | .connect => "CONNECT"
  | .patch => "PATCH"
  | .trace => "TRACE"
  | .extension name => name

/-- Who may call a route -/
inductive SiteRouteClass where
  | management | siteOrigin | signIn | release | deploy
deriving DecidableEq

inductive SiteCapability where
  | pagesRead | assetsRead | searchPublication | liveRelease | draftRead | notesEdit | libraryRead | knowledgeSearch
deriving DecidableEq

def SiteCapability.asStr : SiteCapability → String
  | .pagesRead => "pages.read"
  | .assetsRead => "assets.read"
  | .searchPublication => "search.publication"
  | .liveRelease => "live.release"
  | .draftRead => "draft.read"
  | .notesEdit => "notes.edit"
  | .libraryRead => "library.read"
  | .knowledgeSearch => "knowledge.search"

structure SiteRoute where
  methods : List Method
  path : String
  routeClass : Option SiteRouteClass
  capability : Option SiteCapability
deriving DecidableEq

/-- `ROUTES` -/
def routes : List SiteRoute :=
  [⟨[.get],"",some .management,none⟩,
    ⟨[.get,.put],"/{site}/manifest",some .management,none⟩,
    ⟨[.post,.delete],"/{site}/manifest/approval",some .management,none⟩,
    ⟨[.get,.put,.delete],"/{site}/publications",some .management,none⟩,
    ⟨[.get,.put,.delete],"/{site}/publications/{publication}",some .management,none⟩,
    ⟨[.get],"/{site}/releases",some .management,none⟩,
    ⟨[.post],"/{site}/releases",some .release,none⟩,
    ⟨[.post],"/{site}/sign-in-codes",some .management,none⟩,
    ⟨[.post],"/{site}/sessions",some .signIn,none⟩,
    ⟨[.post],"/{site}/deploys",some .deploy,none⟩,
    ⟨[.post],"/{site}/deploys/{commit}/activate",some .deploy,none⟩,
    ⟨[.get,.head],"/{site}/content/release",some .siteOrigin,some .pagesRead⟩,
    ⟨[.get,.head],"/{site}/content/pages/{*slug}",some .siteOrigin,some .pagesRead⟩,
    ⟨[.get,.head],"/{site}/content/assets/{sha256}",some .siteOrigin,some .assetsRead⟩,
    ⟨[.get,.head],"/{site}/content/search",some .siteOrigin,some .searchPublication⟩,
    ⟨[.get],"/{site}/events",some .siteOrigin,some .liveRelease⟩,
    ⟨[.get],"/{site}/drafts/pages/{*slug}",some .siteOrigin,some .draftRead⟩,
    ⟨[.get],"/{site}/drafts/sources/{source_ref}",some .siteOrigin,some .draftRead⟩,
    ⟨[.post],"/{site}/drafts/sources/{source_ref}/blobs",some .siteOrigin,some .notesEdit⟩,
    ⟨[.post],"/{site}/edits",some .siteOrigin,some .notesEdit⟩,
    ⟨[.get],"/{site}/conflicts/{conflict_id}",some .siteOrigin,some .draftRead⟩,
    ⟨[.get],"/{site}/library",some .siteOrigin,some .libraryRead⟩,
    ⟨[.get],"/{site}/knowledge/search",some .siteOrigin,some .knowledgeSearch⟩]

/-- A `{name}` stands for one segment that is not empty, and a `{*name}` for one or more. -/
def rowSlot (expected : List Char) : Patterns.Slot (List Char) :=
  if ['{','*'].isPrefixOf expected then .rest else if expected.head? = some '{' then .hole else .literal expected

def SiteRoute.pattern (row : SiteRoute) : List (Patterns.Slot (List Char)) := (row.path.toList.splitOn '/').map rowSlot

def SiteRoute.holds (row : SiteRoute) (below : List Char) : Bool := Patterns.holds [] row.pattern (below.splitOn '/')

/-- The site and the row that hold a request -/
def classify (method : Method) (path : String) : Except FailureKind (List Char × SiteRoute) :=
  match stripPrefix "/v1/sites".toList path.toList with
  | none => .error .routeNotFound
  | some below =>
    let site := (below.splitOn '/').getD 1 []
    let rows := routes.filter (·.holds below)
    if rows.isEmpty then .error .routeNotFound
    else
      match rows.find? (·.methods.contains method) with
      | none => .error .methodNotAllowed
      | some row => .ok (site,row)

section Check

/-- What the start-up check says of one method of a row, where `later` are the rows after it. -/
def checkMethod (row : SiteRoute) (later : List SiteRoute) (method : Method) : List String :=
  let named := method.display ++ " /v1/sites" ++ row.path
  (if row.routeClass.isNone then [named ++ " has no route class"] else []) ++
    (if (row.routeClass == some .siteOrigin) != row.capability.isSome then
      [named ++ " must name one capability exactly when it is site-origin"] else []) ++
    if later.any fun other => other.path == row.path && other.methods.contains method then
      [named ++ " has more than one row"] else []

def failedRoutes : List SiteRoute → List String
  | [] => []
  | row :: later => row.methods.flatMap (checkMethod row later) ++ failedRoutes later

/-- The start-up check -/
def checkRoutes (table : List SiteRoute) : Except String Unit :=
  let failed := failedRoutes table
  if failed.isEmpty then .ok () else .error ("the site route table is not valid (ADR-0017): " ++ "; ".intercalate failed)

end Check

section Facts

/-- Two rows of the table are told apart by their paths, or else by their methods. -/
theorem routes_apart : routes.Pairwise fun row other =>
    Patterns.apart row.pattern other.pattern = true ∨ ∀ method ∈ row.methods, method ∉ other.methods := by
  decide +kernel

/-- No request is held by both rows. -/
def SiteRoute.Excludes (row other : SiteRoute) : Prop :=
  ∀ (method : Method) (below : List Char), row.holds below = true → other.holds below = true → method ∈ row.methods →
    method ∉ other.methods

instance : Std.Symm SiteRoute.Excludes :=
  ⟨fun _ _ excludes method below held held' has has' => excludes method below held' held has' has⟩

/-- At most one row holds a request. -/
theorem row_unique {row other : SiteRoute} (listed : row ∈ routes) (listed' : other ∈ routes) {method : Method} {below : List Char}
    (held : row.holds below = true) (held' : other.holds below = true) (has : method ∈ row.methods) (has' : method ∈ other.methods) :
    row = other := by
  by_contra different
  have excludes : routes.Pairwise SiteRoute.Excludes := by
    refine routes_apart.imp fun {one two} apart method below first second has => ?_
    rcases apart with apart | methods
    · rw [SiteRoute.holds,Patterns.not_holds_of_apart apart _ first] at second
      cases second
    · exact methods method has
  exact excludes.forall listed listed' different method below held held' has has'

/-- What `classify` answers -/
theorem classify_ok {method : Method} {path : String} {site : List Char} {row : SiteRoute}
    (found : classify method path = .ok (site,row)) :
    ∃ below, path.toList = "/v1/sites".toList ++ below ∧ row ∈ routes ∧ row.holds below = true ∧ method ∈ row.methods ∧
      site = (below.splitOn '/').getD 1 [] ∧
      ∀ other ∈ routes, other.holds below = true → method ∈ other.methods → other = row := by
  rw [classify,stripPrefix] at found
  split at found
  · cases found
  · rename_i below stripped
    split at stripped
    · rename_i starts
      cases stripped
      dsimp only at found
      split at found
      · cases found
      split at found
      · cases found
      · rename_i first
        cases found
        have member := List.mem_of_find?_eq_some first
        have has := List.find?_some first
        obtain ⟨listed,held⟩ := List.mem_filter.mp member
        refine ⟨_,(List.prefix_iff_eq_append.mp (List.isPrefixOf_iff_prefix.mp starts)).symm,listed,held,?_,rfl,?_⟩
        · simpa using has
        · exact fun other known also has' => row_unique known listed also held has' (by simpa using has)
    · cases stripped

end Facts

end Ratatoskr.Sites
