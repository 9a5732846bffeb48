import ConceptQuery.Service.Plan
import ConceptQuery.Time.Duration

/-!
# The prompt cache

Records are cached under the keys of their prompts and live for a fixed time.  A record that has
outlived it is dropped by the lookup that finds it.

* `PromptCache` — how long records live;
* `PromptCache.get`, `PromptCache.put`, `PromptCache.delete` — the record of a prompt;
* `PromptCache.stats`, `PromptCache.isHealthy` — the state of the cache.
-/

namespace ConceptQuery

open Cache

/-- A cache whose records live for a fixed time. -/
structure PromptCache where
  ttl : Duration

namespace PromptCache

/-- The live record of a prompt, if there is one. -/
def get (c : PromptCache) (prompt : String) : Plan (Option (Record Json)) := do
  let key := promptKey prompt
  match ← Plan.call (.fetch key) with
  | none => return none
  | some record =>
    if record.isExpired c.ttl.micros (← Plan.call .now) then
      Plan.call (.remove key)
      return none
    else return some record

/-- Caches a record for a prompt, made now, in place of any other. -/
def put (prompt query intentText : String) (result : Option String) : Plan (Record String) := do
  let createdAt ← Plan.call .now
  let record : Record String :=
    { key := promptKey prompt, prompt, intentText, query, result, createdAt }
  Plan.call (.save record)
  return record

/-- Drops the record of a prompt, if there is one. -/
def delete (prompt : String) : Plan Unit :=
  Plan.call (.remove (promptKey prompt))

/-- What the backend tells about itself. -/
def stats : Plan Stats :=
  Plan.call .stats

/-- Whether the backend can be reached. -/
def isHealthy : Plan Bool :=
  Plan.call .health

end PromptCache

end ConceptQuery
