import ConceptQuery.Cache.Record
import ConceptQuery.Table

/-!
# The memory backend

Records are kept in a table.  Each operation can be out of order; it then changes nothing.

* `Memory.Operation`, `Memory` — the operations, the records, and which operations are out of
  order;
* `Memory.fetch`, `Memory.save`, `Memory.remove`, `Memory.stats`, `Memory.isHealthy` — the
  operations of the cache.
-/

namespace ConceptQuery.Cache

/-- The operations of the memory backend. -/
inductive Memory.Operation where
  | fetch
  | save
  | remove
  | stats
  | health
deriving Repr, DecidableEq

/-- Records by key, and the operations that are out of order. -/
structure Memory where
  records : Table (Record String) := .empty
  down : List Memory.Operation := []
deriving Inhabited

namespace Memory

/-- The failure of an operation that is out of order. -/
def isDown : Failure := .cacheUnavailable "store is down"

/-- Does something unless an operation is out of order. -/
def guarded {α : Type} (m : Memory) (o : Operation) (act : α × Memory) : Except Failure α × Memory :=
  if m.down.contains o then (.error isDown, m) else (.ok act.1, act.2)

/-- The record of a key. -/
def fetch (m : Memory) (key : String) : Except Failure (Option (Record String)) × Memory :=
  m.guarded .fetch (m.records.get? key, m)

/-- Keeps a record under its key. -/
def save (m : Memory) (r : Record String) : Except Failure Unit × Memory :=
  m.guarded .save ((), { m with records := m.records.insert r.key r })

/-- Drops the record of a key. -/
def remove (m : Memory) (key : String) : Except Failure Unit × Memory :=
  m.guarded .remove ((), { m with records := m.records.erase key })

/-- What there is to tell about the records. -/
def stats (m : Memory) : Except Failure Stats × Memory :=
  m.guarded .stats (⟨"memory", none, m.records.size⟩, m)

/-- Whether the backend is in order. -/
def isHealthy (m : Memory) : Bool :=
  !m.down.contains .health

end Memory

end ConceptQuery.Cache
