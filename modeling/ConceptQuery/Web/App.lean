import ConceptQuery.Service.World
import ConceptQuery.Web.Body
import ConceptQuery.Web.Origin
import ConceptQuery.Web.Report
import ConceptQuery.Web.Route

/-!
# The service over HTTP

* `Web.serve` — the answer of a route;
* `Web.handle` — the answer at a path;
* `Web.respond` — the answer to a request, for its origin.

A request whose body is no JSON is refused before anything else.  A service that is not running
breaks down at every route but the root.
-/

namespace ConceptQuery.Web

open Http

/-- The answer to a request with a body of some kind. -/
def withForm {α : Type} (form : Except (List Problem) α) (act : α → Answer × World) (w : World) :
    Answer × World :=
  match form with
  | .ok a => act a
  | .error problems => (rejected problems, w)

/-- The answer about the outcome of a plan. -/
def performed {α : Type} (p : Plan α) (say : Except Failure α → Answer) (w : World) :
    Answer × World :=
  let (outcome, w) := w.perform p
  (say outcome, w)

/-- The answer of a route of a running service. -/
def serve (s : Service) (route : Route) (body : Option Json) (w : World) : Answer × World :=
  match route with
  | .root => (rootAnswer, w)
  | .health => performed PromptCache.isHealthy healthAnswer w
  | .runQuery => withForm (QueryForm.ofBody body)
    (fun f => performed (s.execute f.prompt f.api) (reported "run query" outcomeAnswer) w) w
  | .compileQuery => withForm (QueryForm.ofBody body)
    (fun f => performed (s.compileOnly f.prompt f.api) (reported "compile query" outcomeAnswer) w) w
  | .lookupCache => withForm (PromptForm.ofBody body)
    (fun f => performed (s.lookup f.prompt)
      (reported "look up cache" (lookupAnswer f.prompt)) w) w
  | .deleteCache => withForm (PromptForm.ofBody body)
    (fun f => performed (s.invalidate f.prompt)
      (reported "delete cache entry" fun _ => deletionAnswer) w) w
  | .cacheStats => performed PromptCache.stats
    (reported "get cache stats" (statsAnswer s.cache.ttl)) w
  | .listVariants => (variantsAnswer w.stores.variants.variants, w)

/-- Whether a route reads the body of its requests. -/
def Route.readsBody (route : Route) : Bool :=
  match route with
  | .runQuery | .compileQuery | .lookupCache | .deleteCache => true
  | _ => false

/-- The answer of a route of a service that may be running. -/
def serveIfRunning (running : Option Service) (route : Route) (r : Request) (w : World) :
    Answer × World :=
  match if route.readsBody then bodyOf r else .ok none with
  | .error refusal => (refusal, w)
  | .ok body =>
    match running with
    | some s => serve s route body w
    | none => (if route = .root then rootAnswer else .unhandled, w)

/-- The answer at a path. -/
def handle (running : Option Service) (r : Request) (w : World) : Answer × World :=
  match Route.at? (pathOf r.target) with
  | none => (.detail 404 (.string "Not Found"), w)
  | some route =>
    if route.method == r.method then serveIfRunning running route r w
    else
      ((Answer.detail 405 (.string "Method Not Allowed")).withHeaders [("allow", route.method)], w)

/-- An answer without its content if the request wants none. -/
def withoutContent (r : Request) (a : Answer) : Answer :=
  if r.method == "HEAD" then { a with content := .text "" } else a

/-- The answer to a request, for its origin. -/
def respond (running : Option Service) (r : Request) (w : World) : Answer × World :=
  match header? r.headers "origin" with
  | none =>
    let (a, w) := handle running r w
    (withoutContent r a, w)
  | some origin =>
    if isPreflight r then (preflight r origin, w)
    else
      let (a, w) := handle running r w
      (withoutContent r (allowOrigin origin a), w)

end ConceptQuery.Web
