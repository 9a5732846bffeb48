import ConceptQuery.Rdf.Term

/-!
# The vocabulary of mapping documents

* `Ontology.label` — the property that gives a concept its label;
* `Ontology.concept` — a name in the namespace of mappings, with the properties that are
  consulted.
-/

namespace ConceptQuery.Ontology

open Rdf

/-- The property that gives a concept its label. -/
def label : Term := .iri "http://www.w3.org/2000/01/rdf-schema#label"

/-- A name in the namespace of mappings. -/
def concept (name : String) : Term := .iri ("http://example.org/ontology#" ++ name)

/-- The field a concept is mapped to. -/
def mapsToField : Term := concept "mapsToField"

/-- The argument an identifier is passed as. -/
def identifierArgument : Term := concept "identifierArgument"

/-- The type of a collection. -/
def mapsToType : Term := concept "mapsToGraphQLType"

/-- The argument that orders a collection. -/
def mapsToArgumentField : Term := concept "mapsToArgumentField"

/-- The field a collection is ordered by. -/
def mapsToOrderingField : Term := concept "mapsToOrderingField"

/-- The direction of the ordering. -/
def defaultDirection : Term := concept "defaultDirection"

end ConceptQuery.Ontology
