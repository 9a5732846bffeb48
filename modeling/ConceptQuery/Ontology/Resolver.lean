import ConceptQuery.Ontology.Mapping
import ConceptQuery.Ontology.Vocabulary
import ConceptQuery.Rdf.Graph

/-!
# Resolving labels

A label is looked up in a graph of mappings: the first subject that is labelled so and has all the
properties asked for gives their values, the first stated one of each.

* `Ontology.values?` — the values of properties of one subject;
* `Ontology.rowOf?` — the values of properties of the first subject with a label that has them
  all;
* `Ontology.resolveTarget`, `Ontology.resolveSubEntity` — the mappings of labels; an unknown label
  is mapped to empty texts.
-/

namespace ConceptQuery.Ontology

open Rdf

/-- The texts of the first values that a subject has for properties, if it has all of them. -/
def values? (g : Graph) (subject : Term) (properties : List Term) : Option (List String) :=
  properties.mapM fun p => (g.value? subject p).map Term.text

/-- The values of properties of the first subject with a label that has them all. Only a plain
literal with exactly this text is the label. -/
def rowOf? (g : Graph) (properties : List Term) (text : String) : Option (List String) :=
  (g.subjects label (.plain text)).findSome? fun subject => values? g subject properties

/-- The mapping of a target label. -/
def resolveTarget (g : Graph) (text : String) : TargetMapping :=
  match rowOf? g [mapsToField, identifierArgument] text with
  | some [field, argument] => ⟨field, argument⟩
  | _ => {}

/-- The ordering that a constraint label asks for: argument, field and direction. -/
def resolveConstraint (g : Graph) (text : String) : String × String × String :=
  match rowOf? g [mapsToArgumentField, mapsToOrderingField, defaultDirection] text with
  | some [argument, field, direction] => (argument, field, direction)
  | _ => ("", "", "")

/-- The mapping of a sub-entity label, joined with the ordering of a constraint. -/
def resolveSubEntity (g : Graph) (text : String) (constraint : Option String) :
    SubEntityMapping :=
  match rowOf? g [mapsToField, mapsToType] text with
  | some [field, type] =>
    let (argument, ordering, direction) :=
      match constraint with
      | none => ("", "", "")
      | some c => resolveConstraint g c
    ⟨field, type, argument, ordering, direction⟩
  | _ => {}

end ConceptQuery.Ontology
