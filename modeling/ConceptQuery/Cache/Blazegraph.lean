import ConceptQuery.Cache.Statement
import ConceptQuery.Http.Network
import ConceptQuery.Http.Status
import ConceptQuery.Json.Document
import ConceptQuery.Text.FormEncoding
import ConceptQuery.Time.Reader

/-!
# The Blazegraph backend

Records are kept in a triple store that is reached by the SPARQL protocol: queries and updates are
posted as forms, and answers to queries are JSON documents.

* `Blazegraph` — a triple store at an endpoint;
* `Blazegraph.accepted` — the response to a form, if it reports success;
* `Blazegraph.bindings`, `Blazegraph.recordOf`, `Blazegraph.countOf` — reading answers;
* `Blazegraph.fetch`, `Blazegraph.save`, `Blazegraph.remove`, `Blazegraph.countAll`,
  `Blazegraph.stats`, `Blazegraph.isHealthy` — the operations of the cache.
-/

namespace ConceptQuery.Cache

open Http

/-- A triple store at an endpoint. -/
structure Blazegraph where
  endpoint : String
deriving Repr, DecidableEq, Inhabited

namespace Blazegraph

/-- What queries accept as answers. -/
def resultsType : String := "application/sparql-results+json"

/-- The form that carries a query. -/
def queryForm (b : Blazegraph) (query : String) : Request :=
  .form b.endpoint resultsType (Text.formBody "query" query)

/-- The form that carries an update. -/
def updateForm (b : Blazegraph) (update : String) : Request :=
  .form b.endpoint anything (Text.formBody "update" update)

/-- The failure of a store that cannot be reached or refuses a request. -/
def unavailable (reason : String) : Failure :=
  .cacheUnavailable ("Blazegraph unavailable: " ++ reason)

/-- The response that a reply brings, if it reports success. -/
def accepted (b : Blazegraph) : Reply → Except Failure Response
  | .response r => if r.isSuccess then .ok r else .error (unavailable (r.complaint b.endpoint))
  | .failed reason => .error (unavailable reason)
  | .invalidUrl reason => .error (.invalidUrl reason)

/-- Turns failures over missing items and bad values into failures of the cache. -/
def blamed (announcement : String) : Failure → Failure
  | .missingKey key => .cacheUnavailable (announcement ++ key.display)
  | .invalidValue reason => .cacheUnavailable (announcement ++ reason)
  | f => f

/-- The rows of an answer to a query. -/
def bindings (r : Response) : Except Failure Json :=
  Except.mapError (blamed "Unexpected SPARQL response: ") do
    let answer ← r.json.mapError Json.Refusal.failure
    (← answer.item "results").item "bindings"

/-- The value of a variable in a row. -/
def cell (row : Json) (name : String) : Except Failure Json := do
  (← row.item name).item "value"

/-- The time that a value gives. -/
def timeOf : Json → Except Failure Timestamp
  | .string s => Timestamp.readUtc s
  | v => .error (.missingAttribute ("'" ++ v.kindName ++ "' object has no attribute 'endswith'"))

/-- The record of a key from a row. -/
def recordOfRow (key : String) (row : Json) : Except Failure (Record Json) :=
  Except.mapError (blamed ("Malformed cache record " ++ key ++ ": ")) do
    let prompt ← cell row "prompt"
    let intentText ← cell row "intent"
    let query ← cell row "query"
    let result ← if (row.member? "result").isSome then cell row "result" else pure .null
    let createdAt ← timeOf (← cell row "createdAt")
    return { key, prompt, intentText, query, result := result.present?, createdAt }

/-- The record of a key from the rows, if there are any. -/
def recordOf (key : String) (rows : Json) : Except Failure (Option (Record Json)) :=
  if rows.truthy then do
    return some (← recordOfRow key (← rows.first))
  else .ok none

/-- The number of records from the rows. -/
def countOf (rows : Json) : Except Failure Int :=
  if rows.truthy then do
    (← cell (← rows.first) "total").toWhole
  else .ok 0

/-- Posts a form and reads the response. -/
def post {α : Type} (b : Blazegraph) (form : Request) (read : Response → Except Failure α)
    (network : Network) : Except Failure α × Network :=
  let (reply, network) := network.exchange form
  (b.accepted reply >>= read, network)

/-- The record of a key. -/
def fetch (b : Blazegraph) (key : String) (network : Network) :
    Except Failure (Option (Record Json)) × Network :=
  b.post (b.queryForm (Statement.select key)) (fun r => bindings r >>= recordOf key) network

/-- Writes a record in place of the one under its key. Nothing is sent if its time has no form in
universal time. -/
def save (b : Blazegraph) (r : Record String) (network : Network) :
    Except Failure Unit × Network :=
  match Statement.replace r with
  | .error f => (.error f, network)
  | .ok update => b.post (b.updateForm update) (fun _ => .ok ()) network

/-- Deletes the record of a key. -/
def remove (b : Blazegraph) (key : String) (network : Network) : Except Failure Unit × Network :=
  b.post (b.updateForm (Statement.delete key)) (fun _ => .ok ()) network

/-- The number of records. -/
def countAll (b : Blazegraph) (network : Network) : Except Failure Int × Network :=
  b.post (b.queryForm Statement.count) (fun r => bindings r >>= countOf) network

/-- What there is to tell about the store. -/
def stats (b : Blazegraph) (network : Network) : Except Failure Stats × Network :=
  let (total, network) := b.countAll network
  (total.map fun n => ⟨"blazegraph", some ("endpoint", b.endpoint), n⟩, network)

/-- Whether the store can be reached. -/
def isHealthy (b : Blazegraph) (network : Network) : Except Failure Bool × Network :=
  match b.post (b.queryForm Statement.probe) (fun _ => .ok true) network with
  | (.error (.cacheUnavailable _), network) => (.ok false, network)
  | outcome => outcome

end Blazegraph

end ConceptQuery.Cache
