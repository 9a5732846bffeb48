import ConceptQuery.GraphQL.Layout
import ConceptQuery.Intent.Basic
import ConceptQuery.Ontology.Mapping
import ConceptQuery.Variant.Registry

/-!
# Compiling intents

An intent and its resolved mappings become a query in the shape of its variant's template.

* `Template.selections` — the query of a template as a document;
* `compile` — the query as text.
-/

namespace ConceptQuery

open GraphQL

/-- The projected fields. -/
def Intent.leaves (i : Intent) : List (Selection Int) :=
  i.fields.map fun name => .field name [] []

/-- The entity with the argument that finds it, around a selection. -/
def TargetMapping.around (t : TargetMapping) (identifier : String) (child : Selection Int) :
    Selection Int :=
  .field t.field
    (if t.identifierArgument.isEmpty then [] else [⟨t.identifierArgument, .string identifier⟩])
    [child]

/-- The page size, and the ordering if all of its parts are there. -/
def SubEntityMapping.connectionArguments (s : SubEntityMapping) (limit : Int) :
    List (Argument Int) :=
  ⟨"first", .int limit⟩ ::
    if s.hasOrdering then
      [⟨s.argumentField, .object [("field", .enum s.orderingField),
        ("direction", .enum s.defaultDirection)]⟩]
    else []

/-- The query of a template. The simple one ignores page size and ordering. -/
def Template.selections (template : Template) (i : Intent) (t : TargetMapping)
    (s : SubEntityMapping) : List (Selection Int) :=
  match template with
  | .simple => [t.around i.identifier (.field s.field [] i.leaves)]
  | .paginated =>
    [t.around i.identifier
      (.field s.field (s.connectionArguments i.limit) [.field "nodes" [] i.leaves])]

/-- The query of an intent with its mappings, as text. -/
def compile (variants : Registry) (i : Intent) (t : TargetMapping) (s : SubEntityMapping) :
    Except Failure String :=
  (variants.get (some i.api)).map fun v => render (v.template.selections i t s)

end ConceptQuery
