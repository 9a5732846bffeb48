import ConceptQuery.Cache.Blazegraph
import ConceptQuery.Cache.Memory
import ConceptQuery.Cache.Redis

/-!
# Cache backends

The three backends behind one set of operations.  Records are read as a backend reports them, with
JSON values in place of texts.

* `Backend` — one of the three backends;
* `Backend.fetch`, `Backend.save`, `Backend.remove`, `Backend.stats`, `Backend.isHealthy` — the
  operations of the cache, over a network.
-/

namespace ConceptQuery.Cache

open Http

/-- Where records are kept. -/
inductive Backend where
  | memory (m : Memory)
  | redis (r : Redis)
  | blazegraph (b : Blazegraph)

instance : Inhabited Backend := ⟨.memory {}⟩

namespace Backend

/-- A record of texts as one of JSON values. -/
def reported (outcome : Except Failure (Option (Record String))) :
    Except Failure (Option (Record Json)) :=
  outcome.map (·.map (·.map .string))

/-- The record of a key. -/
def fetch (b : Backend) (key : String) (n : Network) :
    Except Failure (Option (Record Json)) × Backend × Network :=
  match b with
  | .memory m => let (a, m) := m.fetch key; (reported a, .memory m, n)
  | .redis r => let (a, r) := r.fetch key; (reported a, .redis r, n)
  | .blazegraph g => let (a, n) := g.fetch key n; (a, .blazegraph g, n)

/-- Writes a record in place of the one under its key. -/
def save (b : Backend) (record : Record String) (n : Network) :
    Except Failure Unit × Backend × Network :=
  match b with
  | .memory m => let (a, m) := m.save record; (a, .memory m, n)
  | .redis r => let (a, r) := r.save record; (a, .redis r, n)
  | .blazegraph g => let (a, n) := g.save record n; (a, .blazegraph g, n)

/-- Deletes the record of a key. -/
def remove (b : Backend) (key : String) (n : Network) : Except Failure Unit × Backend × Network :=
  match b with
  | .memory m => let (a, m) := m.remove key; (a, .memory m, n)
  | .redis r => let (a, r) := r.remove key; (a, .redis r, n)
  | .blazegraph g => let (a, n) := g.remove key n; (a, .blazegraph g, n)

/-- What the backend tells about itself. -/
def stats (b : Backend) (n : Network) : Except Failure Stats × Backend × Network :=
  match b with
  | .memory m => let (a, m) := m.stats; (a, .memory m, n)
  | .redis r => let (a, r) := r.stats; (a, .redis r, n)
  | .blazegraph g => let (a, n) := g.stats n; (a, .blazegraph g, n)

/-- Whether the backend can be reached. -/
def isHealthy (b : Backend) (n : Network) : Except Failure Bool × Backend × Network :=
  match b with
  | .memory m => (.ok m.isHealthy, .memory m, n)
  | .redis r => let (a, r) := r.isHealthy; (.ok a, .redis r, n)
  | .blazegraph g => let (a, n) := g.isHealthy n; (a, .blazegraph g, n)

end Backend

end ConceptQuery.Cache
