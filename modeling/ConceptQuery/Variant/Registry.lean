import ConceptQuery.Table
import ConceptQuery.Text.LetterCase
import ConceptQuery.Variant.Basic

/-!
# The registry of API variants

Variants are found by their tag without regard to letter case, and listed in the order in which
their tags were first registered.

* `Registry` — the registered variants under their lower-case tags;
* `Registry.insert`, `Registry.register`, `Registry.ofDescriptions` — adding and replacing;
* `Registry.find?`, `Registry.get`, `Registry.contains` — finding by tag;
* `Registry.names`, `Registry.variants` — listing.
-/

namespace ConceptQuery

open Text

/-- The registered variants under their lower-case tags. -/
structure Registry where
  table : Table Variant

namespace Registry

/-- The registry without variants. -/
def empty : Registry := ⟨.empty⟩

instance : Inhabited Registry := ⟨empty⟩

/-- Adds or replaces a variant. -/
def insert (r : Registry) (v : Variant) : Registry :=
  ⟨r.table.insert (toLower v.name) v⟩

/-- Adds or replaces a variant, unless its template does not exist. -/
def register (r : Registry) (d : Variant.Description) : Except Failure Registry :=
  d.check.map r.insert

/-- A registry of variants, registered one after the other. -/
def ofDescriptions (ds : List Variant.Description) : Except Failure Registry :=
  ds.foldlM register empty

/-- The variant registered under a tag. -/
def find? (r : Registry) (tag : String) : Option Variant :=
  r.table.get? (toLower tag)

/-- The variant registered under a tag; it is a failure if there is none. An absent tag counts as
the empty one. -/
def get (r : Registry) (tag : Option String) : Except Failure Variant :=
  match r.find? (tag.getD "") with
  | some v => .ok v
  | none => .error (.unsupportedApi (Json.ofOption tag))

/-- Whether a variant is registered under a tag. -/
def contains (r : Registry) (tag : String) : Bool :=
  r.table.contains (toLower tag)

/-- The tags, in the order of their first registration. -/
def names (r : Registry) : List String :=
  r.table.keys

/-- The variants, in the order of their tags. -/
def variants (r : Registry) : List Variant :=
  r.table.entries.map (·.2)

end Registry

end ConceptQuery
