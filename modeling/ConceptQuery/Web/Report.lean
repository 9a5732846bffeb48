import ConceptQuery.Service.Query
import ConceptQuery.Variant.Registry
import ConceptQuery.Web.Message

/-!
# Answers about results

* `Web.reported` — an answer about the outcome of an action;
* `Web.outcomeAnswer`, `Web.lookupAnswer`, `Web.deletionAnswer`, `Web.statsAnswer`,
  `Web.healthAnswer`, `Web.variantsAnswer`, `Web.rootAnswer` — answers about results.
-/

namespace ConceptQuery.Web

/-- An answer about the outcome of an action. -/
def reported {α : Type} (action : String) (say : α → Answer) : Except Failure α → Answer
  | .ok a => say a
  | .error f => .detail f.status (.string (f.detail action))

/-- The text of a value that is one or is absent. -/
def textOrNull? : Option Json → Option Json
  | none => some .null
  | some (.string s) => some (.string s)
  | some _ => none

/-- The answer about what became of a prompt. It breaks down over a query or a result that is no
text. -/
def outcomeAnswer (o : Outcome) : Answer :=
  match o.query, textOrNull? o.result with
  | .string query, some result =>
    .document 200 (.object [("prompt", .string o.prompt), ("api", .string o.intent.api),
      ("cache_hit", .bool o.cacheHit), ("query", .string query), ("result", result)])
  | _, _ => .unhandled

/-- A cached record, if it is made of texts. -/
def recordDocument? (r : Cache.Record Json) : Option Json :=
  match r.prompt, r.intentText, r.query, textOrNull? r.result with
  | .string prompt, .string intentText, .string query, some result =>
    some (.object [("prompt_key", .string r.key), ("prompt", .string prompt),
      ("intent", .string intentText), ("compiled_query", .string query), ("result", result),
      ("created_at", .string r.createdAt.toReportText)])
  | _, _, _, _ => none

/-- The answer about the cached record of a prompt. -/
def lookupAnswer (prompt : String) (record : Option (Cache.Record Json)) : Answer :=
  let found (isHit : Bool) (document : Json) : Answer :=
    .document 200 (.object [("prompt", .string prompt), ("is_hit", .bool isHit),
      ("record", document)])
  match record with
  | none => found false .null
  | some r =>
    match recordDocument? r with
    | some document => found true document
    | none => .unhandled

/-- The answer about a deletion. -/
def deletionAnswer : Answer :=
  .document 200 (.object [("success", .bool true), ("message", .string "Cache entry deleted")])

/-- The answer about the state of the cache. -/
def statsAnswer (ttl : Duration) (s : Cache.Stats) : Answer :=
  .document 200 (.object [("backend", .string s.backend), ("total_entries", .integer s.totalEntries),
    ("ttl", .integer ttl.wholeSeconds)])

/-- The answer about the health of the cache. It breaks down if even that cannot be told. -/
def healthAnswer : Except Failure Bool → Answer
  | .ok healthy =>
    .document 200 (.object [("status", .string (if healthy then "healthy" else "unhealthy")),
      ("cache_healthy", .bool healthy)])
  | .error _ => .unhandled

/-- The answer about the registered variants. -/
def variantsAnswer (vs : List Variant) : Answer :=
  .document 200 (.array (vs.map fun v =>
    .object [("name", .string v.name), ("template", .string v.template.name),
      ("endpoint", .string v.endpoint), ("authenticated", .bool v.bearer?.isSome)]))

/-- The answer about the service itself. -/
def rootAnswer : Answer :=
  .document 200 (.object [("name", .string "Semantic Query API"), ("version", .string "0.1.0"),
    ("description",
      .string "Ontology-driven GraphQL query compilation with prompt caching"),
    ("endpoints", .object [("query", .string "/query"), ("compile", .string "/query/compile"),
      ("cache", .string "/cache"), ("stats", .string "/cache/stats"),
      ("variants", .string "/variants"), ("health", .string "/health"),
      ("docs", .string "/docs")])])

end ConceptQuery.Web
