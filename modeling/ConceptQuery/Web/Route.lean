import ConceptQuery.Text.Hex
import ConceptQuery.Text.LetterCase
import ConceptQuery.Text.Utf8

/-!
# Routes

* `Web.Route` — what the service offers, each at a path and by a method;
* `Web.pathOf` — the path that a target leads to;
* `Web.Route.at?` — the route at a path.
-/

namespace ConceptQuery.Web

/-- What the service offers. -/
inductive Route where
  | root
  | health
  | runQuery
  | compileQuery
  | lookupCache
  | deleteCache
  | cacheStats
  | listVariants
deriving Repr, DecidableEq

namespace Route

/-- All routes. -/
def all : List Route :=
  [.root, .health, .runQuery, .compileQuery, .lookupCache, .deleteCache, .cacheStats, .listVariants]

/-- The path of a route. -/
def path : Route → String
  | .root => "/"
  | .health => "/health"
  | .runQuery => "/query"
  | .compileQuery => "/query/compile"
  | .lookupCache => "/cache/lookup"
  | .deleteCache => "/cache"
  | .cacheStats => "/cache/stats"
  | .listVariants => "/variants"

/-- The method of a route. -/
def method : Route → String
  | .root | .health | .cacheStats | .listVariants => "GET"
  | .runQuery | .compileQuery | .lookupCache => "POST"
  | .deleteCache => "DELETE"

/-- The route at exactly a path. -/
def exactly? (path : List Char) : Option Route :=
  all.find? fun r => r.path.toList = path

/-- The route at a path. A path that leads nowhere is tried without the slashes at its end. -/
def at? (path : List Char) : Option Route :=
  (exactly? path).or
    (if path.getLast? = some '/' then exactly? (path.reverse.dropWhile (· == '/')).reverse else none)

end Route

/-- The byte that a percent sign and two digits stand for. -/
def escapedByte? (c : Char) : List Char → Option UInt8
  | a :: b :: _ => if c = '%' then (Text.hexNumber? [a, b]).map UInt8.ofNat else none
  | _ => none

/-- The bytes of a path with percent escapes resolved. -/
def unescape : List Char → List UInt8
  | [] => []
  | c :: rest =>
    match escapedByte? c rest with
    | some b => b :: unescape (rest.drop 2)
    | none => String.utf8EncodeChar c ++ unescape rest
termination_by s => s.length
decreasing_by all_goals simp only [List.length_drop, List.length_cons]; omega

/-- The parts of a path between slashes, of which one dot is dropped and two dots drop the part
before. -/
def withoutDots (parts : List (List Char)) : List (List Char) :=
  parts.foldl (fun out part =>
    if part = ['.'] then out
    else if part = ['.', '.'] then (if out = [] || out = [[]] then out else out.dropLast)
    else out ++ [part]) []

/-- A text cut at a character. -/
def cutAt (c : Char) : List Char → List (List Char)
  | [] => [[]]
  | d :: rest =>
    if d = c then [] :: cutAt c rest
    else match cutAt c rest with
      | [] => [[d]]
      | part :: parts => (d :: part) :: parts

/-- The path that a target leads to. A host after two slashes and a query do not count. -/
def pathOf (target : String) : List Char :=
  let ends (c : Char) : Bool := c == '?' || c == '#'
  let afterHost : List Char := match target.toList with
    | '/' :: '/' :: rest => rest.dropWhile fun c => !(c == '/' || ends c)
    | path => path
  let path := '/' :: (afterHost.takeWhile (!ends ·)).dropWhile (· == '/')
  let parts := withoutDots (cutAt '/' path)
  Text.Utf8.decodeLossy (unescape (['/'].intercalate parts))

end ConceptQuery.Web
