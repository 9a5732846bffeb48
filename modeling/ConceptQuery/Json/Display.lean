import ConceptQuery.Json.Value
import ConceptQuery.Number.Shortest
import ConceptQuery.Table
import ConceptQuery.Text.Quoted

/-!
# JSON values in messages

* `Json.display` — a value as messages show it: texts quoted, `None`, `True` and `False` for the
  literals, lists in brackets and objects in braces, each name once;
* `Json.plain` — the same, but a text on its own is shown as it is.
-/

namespace ConceptQuery.Json

open Text

mutual

/-- A value as messages show it. -/
def display : Json → String
  | .null => "None"
  | .bool b => if b then "True" else "False"
  | .integer n => toString n
  | .float x => x.toText
  | .string s => quoted s
  | .array items => "[" ++ ", ".intercalate (displayItems items) ++ "]"
  | .object members =>
    "\x7b" ++ ", ".intercalate ((Table.ofList (displayMembers members)).entries.map fun (name, value) =>
      quoted name ++ ": " ++ value) ++ "\x7d"

/-- The items of an array as messages show them. -/
def displayItems : List Json → List String
  | [] => []
  | item :: rest => display item :: displayItems rest

/-- The members of an object with their values as messages show them. -/
def displayMembers : List (String × Json) → List (String × String)
  | [] => []
  | (name, value) :: rest => (name, display value) :: displayMembers rest

end

/-- A value as it stands on its own in a message. -/
def plain : Json → String
  | .string s => s
  | v => v.display

end ConceptQuery.Json
