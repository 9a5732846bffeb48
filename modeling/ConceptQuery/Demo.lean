import ConceptQuery.Startup

/-!
# The demonstration

The two canned intents are compiled, and then one prompt is run through the cache twice to show a
miss followed by a hit.  What is shown up to a failure stays shown.

* `TargetMapping.display`, `SubEntityMapping.display` — mappings as the demonstration shows them;
* `Demo.Script` — steps that show lines, change the surroundings and may fail;
* `Demo.compileCanned`, `Demo.cacheTwice` — the two parts;
* `Demo.run` — the whole demonstration.
-/

namespace ConceptQuery

open Text

/-- A target mapping as the demonstration shows it. -/
def TargetMapping.display (t : TargetMapping) : String :=
  "TargetMapping(field=" ++ quoted t.field ++ ", identifier_argument="
    ++ quoted t.identifierArgument ++ ")"

/-- A sub-entity mapping as the demonstration shows it. -/
def SubEntityMapping.display (s : SubEntityMapping) : String :=
  "SubEntityMapping(field=" ++ quoted s.field ++ ", graphql_type=" ++ quoted s.graphqlType
    ++ ", argument_field=" ++ quoted s.argumentField ++ ", ordering_field="
    ++ quoted s.orderingField ++ ", default_direction=" ++ quoted s.defaultDirection ++ ")"

namespace Demo

/-- What has been shown, and the surroundings. -/
structure Scene where
  shown : String
  world : World

/-- Steps that show lines, change the surroundings and may fail. -/
abbrev Script := ExceptT Failure (StateM Scene)

/-- Shows a line. -/
def say (line : String) : Script Unit :=
  modify fun scene => { scene with shown := scene.shown ++ line ++ "\n" }

/-- Does something in the surroundings. -/
def act {α : Type} (f : World → Except Failure α × World) : Script α := do
  let (outcome, world) := f (← get).world
  modify fun scene => { scene with world }
  match outcome with
  | .ok a => return a
  | .error f => throw f

/-- Shows a heading. -/
def heading (title : String) : Script Unit := do
  let bar := String.ofList (List.replicate 70 '=')
  say ("\n" ++ bar)
  say ("  " ++ title)
  say bar

/-- Compiles the canned intent of an API, without the cache. -/
def compileCanned (api : String) : Script Unit := do
  heading ("Compiling the " ++ api ++ " intent")
  let t ← act fun w =>
    let (t, stores) := formulate (Intent.canned (some api)).toText w.stores
    (t, { w with stores })
  say ("  target:     " ++ t.target.display)
  say ("  sub-entity: " ++ t.subEntity.display)
  say ""
  say t.query

/-- The prompt that is run through the cache. -/
def prompt : String := "Which continent is Brazil in?"

/-- Runs the prompt up to its query and shows whether the query came from the cache. -/
def attempt (service : Service) (number : Nat) : Script Unit := do
  let outcome ← act fun w => w.perform (service.compileOnly prompt "countries")
  say ("  attempt " ++ toString number ++ ": cache_hit=" ++ (Json.bool outcome.cacheHit).display)

/-- Runs the prompt through the cache twice, and leaves nothing behind. -/
def cacheTwice (service : Service) : Script Unit := do
  heading "Prompt cache"
  act fun w => w.perform (service.invalidate prompt)
  attempt service 1
  attempt service 2
  act fun w => w.perform (service.invalidate prompt)

/-- The steps of the demonstration. -/
def script (s : Settings) : Script Unit := do
  compileCanned "github"
  compileCanned "countries"
  act fun w => (.ok (), s.connected w)
  if (← act fun w => w.perform PromptCache.isHealthy) then
    cacheTwice (s.service (← act fun w => (s.promptCache .null, w)))
  else
    say "\nCache backend not reachable, skipping the cache demo."

/-- The outcome of the demonstration, with what it shows and the surroundings after it. -/
def run (s : Settings) (w : World) : Except Failure Unit × Scene :=
  (script s).run.run ⟨"", w⟩

end Demo

end ConceptQuery
