import ConceptQuery.Cache.Record
import ConceptQuery.Intent.Basic
import ConceptQuery.Failure

/-!
# Plans

A plan is what a service is about to do: a sequence of calls on its surroundings, each chosen by
the answers so far.  Each call is one step that nothing else can come between, so plans can be run
in turns as well as one by one.

* `Call`, `Call.Answer` — the calls, and what each is answered with;
* `Plan` — a result, or a call and what follows for each outcome of it;
* `Plan.run` — the outcome of a plan in given surroundings;
* `Plan.recover` — a plan whose failures are looked after.
-/

namespace ConceptQuery

/-- A call on the surroundings of a service. -/
inductive Call where
  /-- What time it is. -/
  | now
  /-- The cached record of a key. -/
  | fetch (key : String)
  /-- Caches a record under its key. -/
  | save (record : Cache.Record String)
  /-- Drops the cached record of a key. -/
  | remove (key : String)
  /-- What the cache tells about itself. -/
  | stats
  /-- Whether the cache can be reached. -/
  | health
  /-- The query of an intent, from the mapping documents. -/
  | formulate (intent : Intent)
  /-- Sends a query to the variant of a tag. -/
  | send (query : Json) (api : String)

/-- What a call is answered with, if it does not fail. -/
abbrev Call.Answer : Call → Type
  | .now => Timestamp
  | .fetch _ => Option (Cache.Record Json)
  | .save _ => Unit
  | .remove _ => Unit
  | .stats => Cache.Stats
  | .health => Bool
  | .formulate _ => String
  | .send _ _ => String

/-- A result, or a call and what follows for each outcome of it. -/
inductive Plan (α : Type) where
  | done (result : Except Failure α)
  | ask (call : Call) (next : Except Failure call.Answer → Plan α)

namespace Plan

variable {α β σ : Type}

/-- What follows the result of a plan. -/
def thenResult : Plan α → (Except Failure α → Plan β) → Plan β
  | .done result, f => f result
  | .ask call next, f => .ask call fun answer => (next answer).thenResult f

/-- What follows the success of a plan. -/
def bind (p : Plan α) (f : α → Plan β) : Plan β :=
  p.thenResult fun
    | .ok a => f a
    | .error e => .done (.error e)

instance : Monad Plan where
  pure a := .done (.ok a)
  bind := bind

/-- The plan of a single call. -/
def call (c : Call) : Plan c.Answer :=
  .ask c .done

/-- The plan that fails. -/
def fail (f : Failure) : Plan α :=
  .done (.error f)

/-- A plan whose failures are looked after. -/
def recover (p : Plan α) (care : Failure → Plan α) : Plan α :=
  p.thenResult fun
    | .ok a => pure a
    | .error e => care e

/-- The outcome of a plan in surroundings that answer calls. -/
def run (answer : (c : Call) → σ → Except Failure c.Answer × σ) :
    Plan α → σ → Except Failure α × σ
  | .done result, s => (result, s)
  | .ask c next, s =>
    let (a, s) := answer c s
    (next a).run answer s

theorem run_thenResult (answer : (c : Call) → σ → Except Failure c.Answer × σ) (p : Plan α)
    (f : Except Failure α → Plan β) (s : σ) :
    (p.thenResult f).run answer s = (f (p.run answer s).1).run answer (p.run answer s).2 := by
  induction p generalizing s with
  | done result => rfl
  | ask c next ih => exact ih _ _

end Plan

end ConceptQuery
