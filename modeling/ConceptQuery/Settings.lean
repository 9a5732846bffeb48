import ConceptQuery.Json.Whole
import ConceptQuery.Number.Numeral
import ConceptQuery.Variant.Registry

/-!
# Settings

How the service is set up.  Settings come from named variables, all of them texts, which replace
defaults.

* `CacheBackend`, `FailurePolicy` — where records are kept, and what a cache outage does to a
  request;
* `Settings` — all settings, with their defaults;
* `Settings.checked` — the choices that are validated last;
* `Settings.ofVariables` — settings from named variables;
* `Settings.registry` — the two built-in API variants.
-/

namespace ConceptQuery

open Text

/-- Where cache records are kept. -/
inductive CacheBackend where
  | blazegraph
  | redis
deriving Repr, DecidableEq

/-- The name of a backend. -/
def CacheBackend.name : CacheBackend → String
  | .blazegraph => "blazegraph"
  | .redis => "redis"

/-- What a cache outage does to a request: it goes on without the cache, or fails. -/
inductive FailurePolicy where
  | bypass
  | fail
deriving Repr, DecidableEq

/-- The name of a policy. -/
def FailurePolicy.name : FailurePolicy → String
  | .bypass => "bypass"
  | .fail => "fail"

/-- How the service is set up. -/
structure Settings where
  cacheBackend : CacheBackend := .blazegraph
  /-- How long a record lives. -/
  cacheTtlSeconds : Int := 600
  ttl_pos : 0 < cacheTtlSeconds := by decide
  cacheFailurePolicy : FailurePolicy := .bypass
  cacheStoreResults : Bool := false
  blazegraphEndpoint : String := "http://localhost:9999/blazegraph/namespace/kb/sparql"
  blazegraphTimeout : Binary64 := .ofInt 10
  redisUrl : String := "redis://localhost:6379"
  redisPassword : Option String := none
  cacheKeyPrefix : String := "semantic_query"
  githubGraphqlUrl : String := "https://api.github.com/graphql"
  githubToken : Option String := none
  countriesGraphqlUrl : String := "https://countries.trevorblades.com/"
  dispatchTimeout : Binary64 := .ofInt 30
  ontologyDir : Option String := none
  logLevel : String := "INFO"
  apiHost : String := "0.0.0.0"
  apiPort : Int := 8000
  apiReload : Bool := true

namespace Settings

/-- The settings when nothing is given. -/
def standard : Settings := {}

instance : Inhabited Settings := ⟨standard⟩

/-- Whether a cache outage lets a request go on without the cache. -/
def bypassOnFailure (s : Settings) : Bool :=
  s.cacheFailurePolicy == .bypass

/-- The backend of a given value. -/
def backendOf? : Json → Option CacheBackend
  | .string "blazegraph" => some .blazegraph
  | .string "redis" => some .redis
  | _ => none

/-- The policy of a given value. -/
def policyOf? : Json → Option FailurePolicy
  | .string "bypass" => some .bypass
  | .string "fail" => some .fail
  | _ => none

/-- Settings with a lifetime, a backend and a policy, validated in this order. -/
def checked (s : Settings) (ttl : Int) (backend policy : Json) : Except Failure Settings :=
  if h : 0 < ttl then
    match backendOf? backend with
    | none =>
      .error (.invalidValue ("CACHE_BACKEND must be one of ['blazegraph', 'redis'], got "
        ++ backend.plain))
    | some b =>
      match policyOf? policy with
      | none =>
        .error (.invalidValue ("CACHE_FAILURE_POLICY must be one of ['bypass', 'fail'], got "
          ++ policy.plain))
      | some p =>
        .ok { s with
          cacheTtlSeconds := ttl, ttl_pos := h, cacheBackend := b, cacheFailurePolicy := p }
  else .error (.invalidValue "CACHE_TTL_SECONDS must be a positive number of seconds")

/-- A whole number from a variable, or a default. -/
def wholeOr (value : Option String) (default : Int) : Except Failure Int :=
  match value with
  | none => .ok default
  | some s => (readInt s).mapError fun e => .invalidValue e.message

/-- A floating number from a variable, or a default. -/
def floatOr (value : Option String) (default : Binary64) : Except Failure Binary64 :=
  match value with
  | none => .ok default
  | some s => (readFloat s).mapError fun e => .invalidValue e.message

/-- A switch from a variable, or a default: on if the text is `true` in any letter case. -/
def switchOr (value : Option String) (default : Bool) : Bool :=
  match value with
  | none => default
  | some s => toLower s == "true"

/-- The names of the variables. -/
def variableNames : List String :=
  ["CACHE_BACKEND", "CACHE_TTL_SECONDS", "CACHE_FAILURE_POLICY", "CACHE_STORE_RESULTS",
    "BLAZEGRAPH_ENDPOINT", "BLAZEGRAPH_TIMEOUT", "REDIS_URL", "REDIS_PASSWORD", "CACHE_KEY_PREFIX",
    "GITHUB_GRAPHQL_URL", "GITHUB_TOKEN", "COUNTRIES_GRAPHQL_URL", "UPSTREAM_TIMEOUT",
    "ONTOLOGY_DIR", "LOG_LEVEL", "API_HOST", "API_PORT", "API_RELOAD"]

/-- Settings from named variables. Numbers are read first, in the order of the settings, and the
choices are validated last. -/
def ofVariables (get : String → Option String) : Except Failure Settings := do
  let d := standard
  let ttl ← wholeOr (get "CACHE_TTL_SECONDS") d.cacheTtlSeconds
  let blazegraphTimeout ← floatOr (get "BLAZEGRAPH_TIMEOUT") d.blazegraphTimeout
  let dispatchTimeout ← floatOr (get "UPSTREAM_TIMEOUT") d.dispatchTimeout
  let apiPort ← wholeOr (get "API_PORT") d.apiPort
  let s : Settings := { d with
    cacheStoreResults := switchOr (get "CACHE_STORE_RESULTS") d.cacheStoreResults
    blazegraphEndpoint := (get "BLAZEGRAPH_ENDPOINT").getD d.blazegraphEndpoint
    blazegraphTimeout := blazegraphTimeout
    redisUrl := (get "REDIS_URL").getD d.redisUrl
    redisPassword := get "REDIS_PASSWORD"
    cacheKeyPrefix := (get "CACHE_KEY_PREFIX").getD d.cacheKeyPrefix
    githubGraphqlUrl := (get "GITHUB_GRAPHQL_URL").getD d.githubGraphqlUrl
    githubToken := get "GITHUB_TOKEN"
    countriesGraphqlUrl := (get "COUNTRIES_GRAPHQL_URL").getD d.countriesGraphqlUrl
    dispatchTimeout := dispatchTimeout
    ontologyDir := get "ONTOLOGY_DIR"
    logLevel := (get "LOG_LEVEL").getD d.logLevel
    apiHost := (get "API_HOST").getD d.apiHost
    apiPort := apiPort
    apiReload := switchOr (get "API_RELOAD") d.apiReload }
  s.checked ttl (.string ((get "CACHE_BACKEND").getD d.cacheBackend.name))
    (.string ((get "CACHE_FAILURE_POLICY").getD d.cacheFailurePolicy.name))

/-- The variant of the paginated API. -/
def github (s : Settings) : Variant :=
  ⟨"github", .paginated, "graphql_github.ttl", s.githubGraphqlUrl, s.githubToken⟩

/-- The variant of the simple API. -/
def countries (s : Settings) : Variant :=
  ⟨"countries", .simple, "graphql_countries.ttl", s.countriesGraphqlUrl, none⟩

/-- The registry of the two built-in variants. -/
def registry (s : Settings) : Registry :=
  (Registry.empty.insert s.github).insert s.countries

end Settings

end ConceptQuery
