import ConceptQuery.Intent.Canned
import ConceptQuery.Intent.Validation
import ConceptQuery.Service.Cache

/-!
# The query service

A prompt becomes an intent, the intent a query, and the query is sent.  Queries are cached by the
text of the prompt, on request together with the result.

* `Service` — how intents are found, how long queries are cached, and what a cache outage does;
* `Outcome` — what became of a prompt;
* `Service.execute` — a prompt from end to end;
* `Service.compileOnly` — a prompt up to its query;
* `Service.lookup`, `Service.invalidate` — the cached record of a prompt.
-/

namespace ConceptQuery

open Cache

/-- A service. -/
structure Service where
  /-- The intent text of a prompt that is meant for the variant of a tag. -/
  extract : (prompt api : String) → Except Failure String
  cache : PromptCache
  /-- Whether a request goes on without the cache during an outage. -/
  bypass : Bool
  /-- Whether results are cached along with queries. -/
  storeResults : Bool

/-- What became of a prompt. -/
structure Outcome where
  prompt : String
  intent : Intent
  query : Json
  /-- Whether the query came from the cache. -/
  cacheHit : Bool
  /-- The result, if the query was sent. -/
  result : Option Json

/-- The stand-in for extraction: one intent for each of the built-in variants, whatever the
prompt. -/
def cannedExtract (_prompt api : String) : Except Failure String :=
  .ok (Intent.canned (some api)).toText

namespace Service

/-- Goes on with a fallback during a cache outage, if the service is meant to. -/
def tolerate {α : Type} (s : Service) (fallback : α) (p : Plan α) : Plan α :=
  p.recover fun
    | .cacheUnavailable reason => if s.bypass then pure fallback else .fail (.cacheUnavailable reason)
    | f => .fail f

/-- The intent of a prompt, with its text. -/
def read (s : Service) (prompt api : String) : Plan (Intent × String) :=
  .done do
    let text ← s.extract prompt api
    return (← Intent.ofText text, text)

/-- The cached record of a prompt; an outage counts as a miss if it is tolerated. -/
def cached (s : Service) (prompt : String) : Plan (Option (Record Json)) :=
  s.tolerate none (s.cache.get prompt)

/-- Caches a query; an outage is passed over if it is tolerated. -/
def store (s : Service) (prompt query intentText : String) (result : Option String) : Plan Unit :=
  s.tolerate () do
    let _ ← PromptCache.put prompt query intentText result

/-- Compiles the query of an intent anew and caches it. -/
def compileFresh (s : Service) (prompt : String) (intent : Intent) (intentText : String) :
    Plan String := do
  let query ← Plan.call (.formulate intent)
  s.store prompt query intentText none
  return query

/-- Runs a prompt from end to end. -/
def execute (s : Service) (prompt api : String) : Plan Outcome := do
  let (intent, intentText) ← s.read prompt api
  match ← s.cached prompt with
  | some record =>
    match s.storeResults, record.result with
    | true, some result => return ⟨prompt, intent, record.query, true, some result⟩
    | _, _ =>
      let result ← Plan.call (.send record.query intent.api)
      return ⟨prompt, intent, record.query, true, some (.string result)⟩
  | none =>
    let query ← s.compileFresh prompt intent intentText
    let result ← Plan.call (.send (.string query) intent.api)
    if s.storeResults then
      s.store prompt query intentText (some result)
    return ⟨prompt, intent, .string query, false, some (.string result)⟩

/-- Runs a prompt up to its query, which is not sent. -/
def compileOnly (s : Service) (prompt api : String) : Plan Outcome := do
  let (intent, intentText) ← s.read prompt api
  match ← s.cached prompt with
  | some record => return ⟨prompt, intent, record.query, true, none⟩
  | none =>
    let query ← s.compileFresh prompt intent intentText
    return ⟨prompt, intent, .string query, false, none⟩

/-- The cached record of a prompt. An outage is never tolerated. -/
def lookup (s : Service) (prompt : String) : Plan (Option (Record Json)) :=
  s.cache.get prompt

/-- Drops the cached record of a prompt. An outage is never tolerated. -/
def invalidate (_ : Service) (prompt : String) : Plan Unit :=
  PromptCache.delete prompt

end Service

end ConceptQuery
