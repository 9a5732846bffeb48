/-!
# Resolved mappings

What concepts are called in the schema of an API.  An empty text is the mapping of an unknown
concept.

* `TargetMapping` — the root field of an entity and the argument that finds it;
* `SubEntityMapping` — the field of a collection, with the parts of an ordering;
* `SubEntityMapping.hasOrdering` — whether all parts of the ordering are there.
-/

namespace ConceptQuery

/-- The root field of an entity and the argument its identifier is passed as. -/
structure TargetMapping where
  field : String := ""
  identifierArgument : String := ""
deriving Repr, DecidableEq

/-- The field and type of a collection, with the ordering that a constraint asks for. -/
structure SubEntityMapping where
  field : String := ""
  graphqlType : String := ""
  argumentField : String := ""
  orderingField : String := ""
  defaultDirection : String := ""
deriving Repr, DecidableEq

/-- Whether all three parts of the ordering are there. -/
def SubEntityMapping.hasOrdering (m : SubEntityMapping) : Bool :=
  !m.argumentField.isEmpty && !m.orderingField.isEmpty && !m.defaultDirection.isEmpty

end ConceptQuery
