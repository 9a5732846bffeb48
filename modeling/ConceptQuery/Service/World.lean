import ConceptQuery.Cache.Backend
import ConceptQuery.Dispatch
import ConceptQuery.Service.Query
import ConceptQuery.Formulation

/-!
# The surroundings of a service

* `World` — the clock, the cache backend, the mapping stores and the network;
* `World.answer` — the answer to a call, and the surroundings after it;
* `World.perform` — the outcome of a plan.
-/

namespace ConceptQuery

open Http Ontology

/-- The surroundings of a service. -/
structure World where
  clock : Timestamp
  backend : Cache.Backend
  stores : Stores
  network : Network

namespace World

/-- The surroundings after an operation of the cache. -/
def cached {α : Type} (w : World)
    (outcome : Except Failure α × Cache.Backend × Network) : Except Failure α × World :=
  (outcome.1, { w with backend := outcome.2.1, network := outcome.2.2 })

/-- The answer to a call, and the surroundings after it. -/
def answer (c : Call) (w : World) : Except Failure c.Answer × World :=
  match c with
  | .now => (.ok w.clock, w)
  | .fetch key => w.cached (w.backend.fetch key w.network)
  | .save record => w.cached (w.backend.save record w.network)
  | .remove key => w.cached (w.backend.remove key w.network)
  | .stats => w.cached (w.backend.stats w.network)
  | .health => w.cached (w.backend.isHealthy w.network)
  | .formulate intent =>
    let (t, stores) := intent.formulate w.stores
    (t.map (·.query), { w with stores })
  | .send query api =>
    let (result, network) := dispatch w.stores.variants query (some api) w.network
    (result, { w with network })

/-- The outcome of a plan, and the surroundings after it. -/
def perform {α : Type} (p : Plan α) (w : World) : Except Failure α × World :=
  p.run answer w

end World

end ConceptQuery
