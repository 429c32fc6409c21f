/-! Which request paths Edge forwards. A path is resolved with three escapes and a backslash read as the
characters they stand for, and an empty segment counts for nothing. -/
namespace Ratatoskr.Gateway

/-- `replace`, of the escape with these two digits -/
def replaceEscape (high low by_ : Char) : List Char → List Char
  | a :: b :: c :: rest =>
    if a = '%' ∧ b = high ∧ c = low then by_ :: replaceEscape high low by_ rest
    else a :: replaceEscape high low by_ (b :: c :: rest)
  | few => few

/-- `strip_prefix` -/
def stripPrefix (start text : List Char) : Option (List Char) :=
  if start.isPrefixOf text then some (text.drop start.length) else none

/-- The segments below the prefix with their dot segments resolved, unless they leave it. -/
def resolveSegments (kept : List (List Char)) : List (List Char) → Option (List (List Char))
  | [] => some kept
  | segment :: segments =>
    if segment = [] ∨ segment = ['.'] then resolveSegments kept segments
    else if segment = ['.','.'] then
      match kept with
      | [] => none
      | kept => resolveSegments kept.dropLast segments
    else resolveSegments (kept ++ [segment]) segments

/-- What `resolved` splits. -/
def decoded (below : List Char) : List Char :=
  let lower := below.map Char.toLower
  let dots := replaceEscape '2' 'e' '.' lower
  let slashes := replaceEscape '5' 'c' '/' (replaceEscape '2' 'f' '/' dots)
  slashes.map fun c => if c = '\\' then '/' else c

def resolved (route path : String) : Option (List (List Char)) :=
  let below := (stripPrefix route.toList path.toList).getD path.toList
  resolveSegments [] ((decoded below).splitOn '/')

/-- Whether Edge forwards the path to the route with this prefix. -/
def forwardable (route path : String) : Bool :=
  match resolved route path with
  | some kept => kept.head? != some "internal".toList
  | none => false

end Ratatoskr.Gateway
