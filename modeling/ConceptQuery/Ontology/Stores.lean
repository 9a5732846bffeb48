import ConceptQuery.Ontology.Resolver
import ConceptQuery.Text.Utf8
import ConceptQuery.Turtle.Reader
import ConceptQuery.Variant.Registry

/-!
# Mapping stores

Each API variant has a document that maps concepts onto its schema.  A document is read when its
variant is first asked for; a graph that was read once is kept, and a failure is not remembered.

* `Ontology.Directory` — the documents as bytes, by file name;
* `Ontology.readDocument` — the graph of a document, if it is there, UTF-8 and Turtle;
* `Ontology.Stores` — the registered variants, the documents and the graphs read so far;
* `Ontology.Stores.get`, `Ontology.Stores.preload`, `Ontology.Stores.isLoaded` — the graph of a
  variant, the graphs of all variants, and whether there is one already;
* `Ontology.Stores.target`, `Ontology.Stores.subEntity` — labels resolved for a variant.
-/

namespace ConceptQuery.Ontology

open Rdf Text

/-- Documents as bytes, by file name. -/
abbrev Directory := Table (List UInt8)

/-- The graph of a document, if it is there, UTF-8 and Turtle. There are no other faults than these
three: one of the file system, one of a value and one of syntax. -/
def readDocument (directory : Directory) (file : String) : Option Graph := do
  let bytes ← directory.get? file
  let chars ← (Utf8.decode bytes).toOption
  Turtle.read ("file:///" ++ file) (String.ofList chars)

/-- The name of a file without its directories. -/
def fileName (path : String) : String :=
  .ofList (path.toList.reverse.takeWhile (· != '/')).reverse

/-- The registered variants, the documents and the graphs read so far, by the name of their
variant as it is spelled. -/
structure Stores where
  variants : Registry
  directory : Directory
  graphs : Table Graph := .empty

namespace Stores

/-- The graph of a variant, from the graphs read so far or from its document. All three kinds of
faults that a document can have are caught and told as one failure, without the words of the fault;
a reader that breaks down in any other way, which would not be caught, is not modelled. -/
def graphOf (s : Stores) (v : Variant) : Except Failure Graph × Stores :=
  match s.graphs.get? v.name with
  | some g => (.ok g, s)
  | none =>
    match readDocument s.directory v.ontologyFile with
    | some g => (.ok g, { s with graphs := s.graphs.insert v.name g })
    | none =>
      (.error (.mappingLoad (.string v.name) (.string (fileName v.ontologyFile)) none), s)

/-- The graph of the variant registered under a tag. -/
def get (s : Stores) (tag : Option String) : Except Failure Graph × Stores :=
  match s.variants.get tag with
  | .ok v => s.graphOf v
  | .error f => (.error f, s)

/-- The graphs of variants, one after the other up to the first failure. -/
def getAll (s : Stores) : List Variant → Except Failure Unit × Stores
  | [] => (.ok (), s)
  | v :: rest =>
    match s.get (some v.name) with
    | (.ok _, s) => s.getAll rest
    | (.error f, s) => (.error f, s)

/-- The graphs of all registered variants, in the order of registration. -/
def preload (s : Stores) : Except Failure Unit × Stores :=
  s.getAll s.variants.variants

/-- Whether a graph is kept under a tag in lower case. -/
def isLoaded (s : Stores) (tag : String) : Bool :=
  s.graphs.contains (toLower tag)

/-- Adds or replaces a variant. -/
def register (s : Stores) (d : Variant.Description) : Except Failure Stores :=
  (s.variants.register d).map fun variants => { s with variants }

/-- Writes a document. -/
def write (s : Stores) (file : String) (bytes : List UInt8) : Stores :=
  { s with directory := s.directory.insert file bytes }

/-- Removes a document. -/
def remove (s : Stores) (file : String) : Stores :=
  { s with directory := s.directory.erase file }

/-- The mapping of a target label for a variant. -/
def target (s : Stores) (label : String) (tag : Option String) : Except Failure TargetMapping × Stores :=
  let (g, s) := s.get tag
  (g.map (resolveTarget · label), s)

/-- The mapping of a sub-entity label for a variant, joined with a constraint. -/
def subEntity (s : Stores) (label : String) (constraint tag : Option String) :
    Except Failure SubEntityMapping × Stores :=
  let (g, s) := s.get tag
  (g.map (resolveSubEntity · label constraint), s)

end Stores

end ConceptQuery.Ontology
