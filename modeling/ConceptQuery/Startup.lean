import ConceptQuery.LogLevel
import ConceptQuery.Service.World
import ConceptQuery.Settings

/-!
# Starting the service

* `Settings.blazegraph`, `Settings.redis` — the two backends, at a place of their own or at the
  configured one;
* `Settings.unconnected`, `Settings.connect` — the cache backend that the settings choose, before
  and after it is connected;
* `Settings.world` — the surroundings that the settings describe;
* `Settings.promptCache`, `Settings.service` — the cache and the service that the settings
  describe;
* `Settings.start` — a running service: documents are read, the backend is connected, and its
  health is checked.
-/

namespace ConceptQuery

open Cache Http

namespace Settings

/-- A given text, or a configured one if it is absent or empty. -/
def givenOr (configured : String) : Option String → String
  | none => configured
  | some given => if given.isEmpty then configured else given

/-- The triple store at an endpoint. -/
def blazegraph (s : Settings) (endpoint : Option String) : Blazegraph :=
  ⟨givenOr s.blazegraphEndpoint endpoint⟩

/-- The server with the keys of this cache behind a prefix. -/
def redis (s : Settings) (keyPrefix : Option String) (server : Redis.Server) : Redis :=
  ⟨givenOr s.cacheKeyPrefix keyPrefix, server⟩

/-- The cache backend, before it is connected. -/
def unconnected (s : Settings) (server : Redis.Server) : Backend :=
  match s.cacheBackend with
  | .redis => .redis (s.redis none server)
  | .blazegraph => .blazegraph (s.blazegraph none)

/-- Connects a backend, if it needs a connection of its own. -/
def connect (s : Settings) : Backend → Backend
  | .redis r =>
    .redis { r with server := r.server.receive (.connect s.redisUrl s.redisPassword) }
  | b => b

/-- Surroundings with the built-in variants and a backend that is not connected. -/
def world (s : Settings) (clock : Timestamp) (directory : Ontology.Directory)
    (server : Redis.Server) (network : Network) : World :=
  { clock, backend := s.unconnected server, stores := { variants := s.registry, directory }, network }

/-- Surroundings with the backend connected. -/
def connected (s : Settings) (w : World) : World :=
  { w with backend := s.connect w.backend }

/-- A cache whose records live for a number of seconds, or for the configured time if that is
absent or zero. -/
def promptCache (s : Settings) (seconds : Json) : Except Failure PromptCache :=
  (Duration.ofSeconds (if seconds.truthy then seconds else .integer s.cacheTtlSeconds)).map
    PromptCache.mk

/-- The service over a cache, as far as nothing else is asked of it. -/
def service (s : Settings) (cache : PromptCache) : Service :=
  { extract := cannedExtract, cache, bypass := s.bypassOnFailure,
    storeResults := s.cacheStoreResults }

/-- Starts the service. The health of the backend is asked for and makes no difference, unless it
cannot even be asked for. -/
def start (s : Settings) (w : World) : Except Failure Service × World :=
  match LogLevel.choose none s.logLevel with
  | .error f => (.error f, w)
  | .ok _ =>
    match w.stores.preload with
    | (.error f, stores) => (.error f, { w with stores })
    | (.ok _, stores) =>
      let w := s.connected { w with stores }
      match s.promptCache .null with
      | .error f => (.error f, w)
      | .ok cache =>
        match w.perform PromptCache.isHealthy with
        | (.error f, w) => (.error f, w)
        | (.ok _, w) => (.ok (s.service cache), w)

end Settings

end ConceptQuery
