/-!
# RDF terms and triples

* `Rdf.Kind`, `Rdf.Literal` — a text that is plain, in a language, or of a datatype;
* `Rdf.Term` — a resource, a blank node or a literal;
* `Rdf.Term.text` — what a term says: the lexical form of a literal, the name of a resource;
* `Rdf.Triple` — a statement.
-/

namespace ConceptQuery.Rdf

/-- What a literal's text is: plain, in a language, or of a datatype. -/
inductive Kind where
  | plain
  | language (tag : String)
  | datatype (iri : String)
deriving Repr, DecidableEq

/-- A text with its kind. -/
structure Literal where
  lexical : String
  kind : Kind
deriving Repr, DecidableEq

/-- A node of a graph. Blank nodes are labelled by the document or numbered as they arise. -/
inductive Term where
  | iri (name : String)
  | labelled (label : String)
  | fresh (number : Nat)
  | literal (l : Literal)
deriving Repr, DecidableEq

/-- A plain literal. -/
def Term.plain (s : String) : Term := .literal ⟨s, .plain⟩

/-- What a term says. -/
def Term.text : Term → String
  | .iri name => name
  | .labelled label => label
  | .fresh number => toString number
  | .literal l => l.lexical

/-- A statement. -/
structure Triple where
  subject : Term
  predicate : Term
  object : Term
deriving Repr, DecidableEq

end ConceptQuery.Rdf
