import ConceptQuery.Compile
import ConceptQuery.Intent.Validation
import ConceptQuery.Ontology.Stores

/-!
# From intent text to query

* `Formulation` — an intent with its mappings and its query;
* `Intent.formulate`, `formulate` — the formulation of an intent and of an intent text, without
  cache or dispatch.
-/

namespace ConceptQuery

open Ontology

/-- An intent with its mappings and its query. -/
structure Formulation where
  intent : Intent
  target : TargetMapping
  subEntity : SubEntityMapping
  query : String

/-- The formulation of an intent: its labels are resolved, the first constraint included, and the
query is compiled. -/
def Intent.formulate (i : Intent) (s : Stores) : Except Failure Formulation × Stores :=
  match s.target i.target (some i.api) with
  | (.error f, s) => (.error f, s)
  | (.ok target, s) =>
    match s.subEntity i.subEntity i.constraint (some i.api) with
    | (.error f, s) => (.error f, s)
    | (.ok subEntity, s) =>
      ((compile s.variants i target subEntity).map fun query =>
        { intent := i, target, subEntity, query }, s)

/-- The formulation of an intent text. -/
def formulate (raw : String) (s : Stores) : Except Failure Formulation × Stores :=
  match Intent.ofText raw with
  | .error f => (.error f, s)
  | .ok i => i.formulate s

end ConceptQuery
