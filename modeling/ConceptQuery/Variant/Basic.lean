import ConceptQuery.Failure

/-!
# API variants

* `Template` — the two shapes of queries;
* `Variant` — all that is known of one API: its tag, query shape, mapping document, endpoint and
  token;
* `Variant.Description` — a variant as it is registered, its template given by name;
* `Variant.bearer?` — the authorisation that requests to the API carry.
-/

namespace ConceptQuery

/-- The shape of the queries of an API. -/
inductive Template where
  /-- A nested selection without arguments. -/
  | simple
  /-- A connection with a page size, an optional ordering and its nodes. -/
  | paginated
deriving Repr, DecidableEq

/-- The name of a template. -/
def Template.name : Template → String
  | .simple => "simple"
  | .paginated => "paginated"

/-- The template of a name. -/
def Template.ofName? (name : String) : Option Template :=
  if name = "simple" then some .simple else if name = "paginated" then some .paginated else none

/-- One API. -/
structure Variant where
  name : String
  template : Template
  ontologyFile : String
  endpoint : String
  token : Option String
deriving Repr, DecidableEq

/-- A variant as it is registered. -/
structure Variant.Description where
  name : String
  template : String
  ontologyFile : String
  endpoint : String
  token : Option String
deriving Repr, DecidableEq

/-- The variant of a description whose template exists. -/
def Variant.Description.check (d : Variant.Description) : Except Failure Variant :=
  match Template.ofName? d.template with
  | some template => .ok ⟨d.name, template, d.ontologyFile, d.endpoint, d.token⟩
  | none =>
    .error (.invalidValue ("Unknown query template " ++ Text.quoted d.template ++ " for "
      ++ Text.quoted d.name))

/-- The authorisation that requests carry: none if there is no token or an empty one. -/
def Variant.bearer? (v : Variant) : Option String :=
  match v.token with
  | none => none
  | some token => if token.isEmpty then none else some ("Bearer " ++ token)

end ConceptQuery
