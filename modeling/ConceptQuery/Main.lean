import ConceptQuery.Demo
import ConceptQuery.Ontology.Packaged

/-!
# The demonstration as a program

The demonstration runs on the packaged documents, under settings from the environment.  The
program opens no connections, so the cache backend is out of reach and the second part of the
demonstration is skipped.

* `ConceptQuery.offline` — surroundings in which nothing can be reached;
* `main` — runs the demonstration.
-/

namespace ConceptQuery

/-- The start of the calendar. -/
def dayOne : Timestamp := ⟨0, 0, by decide, by decide, by decide, by decide⟩

/-- Surroundings in which nothing can be reached. -/
def offline (s : Settings) : World :=
  s.world dayOne Ontology.packaged { failing := [.ping] } ⟨[], .failed "no connection", []⟩

/-- What the demonstration shows under settings from variables, and its failure if it has one. -/
def demonstration (environment : String → Option String) : String × Option Failure :=
  match Settings.ofVariables environment with
  | .error f => ("", some f)
  | .ok s =>
    match Demo.run s (offline s) with
    | (.ok _, scene) => (scene.shown, none)
    | (.error f, scene) => (scene.shown, some f)

end ConceptQuery

/-- Runs the demonstration and reports a failure by the exit code. -/
def main : IO UInt32 := do
  let environment ← ConceptQuery.Settings.variableNames.mapM fun name =>
    return (name, ← IO.getEnv name)
  let (shown, failure) := ConceptQuery.demonstration fun name => (environment.lookup name).join
  IO.print shown
  match failure with
  | none => return 0
  | some f =>
    IO.eprintln f.message
    return 1
