import ConceptQuery.Json.Printer

/-!
# Intents

* `Intent` — a structured request: start at an entity, go to a collection below it, and project
  fields of its members;
* `Intent.constraint` — the one constraint that is consulted;
* `Intent.toJson`, `Intent.toText` — the wire form.
-/

namespace ConceptQuery

/-- A structured request for data of one API. -/
structure Intent where
  /-- The kind of request. -/
  action : String
  /-- The label of the entity to start from. -/
  target : String
  /-- The value by which the entity is found. -/
  identifier : String
  /-- The label of the collection below the entity. -/
  subEntity : String
  /-- The page size. -/
  limit : Int
  /-- Constraint labels, of which the first is consulted. -/
  constraints : List String
  /-- The fields to project, in order. -/
  fields : List String
  /-- The tag of the API variant. -/
  api : String
deriving Repr, DecidableEq

/-- The kind of request of an intent that names none. -/
def Intent.defaultAction : String := "QUERY"

/-- The constraint label that is consulted, if there is any. -/
def Intent.constraint (i : Intent) : Option String :=
  i.constraints.head?

/-- The wire form as a JSON object. -/
def Intent.toJson (i : Intent) : Json :=
  .object [
    ("action", .string i.action),
    ("target", .string i.target),
    ("identifier", .string i.identifier),
    ("subEntity", .string i.subEntity),
    ("limit", .integer i.limit),
    ("constraints", .array (i.constraints.map .string)),
    ("fields", .array (i.fields.map .string)),
    ("api", .string i.api)]

/-- The wire form as printable ASCII. -/
def Intent.toText (i : Intent) : String :=
  i.toJson.print .ascii

end ConceptQuery
