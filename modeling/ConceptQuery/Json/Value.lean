import ConceptQuery.Number.Binary64

/-!
# JSON values

* `Json` — a JSON value; whole numbers are kept apart from floating ones, and an object keeps its
  members as they were written, repeated names included;
* `Json.member?` — the value of a member, the last one if the name is repeated;
* `Json.ofOption`, `Json.present?` — null as the value of what is absent;
* `Json.truthy` — whether a value counts as present: not null, false, zero or empty;
* `Json.isFinite` — whether every number in a value is finite.
-/

namespace ConceptQuery

/-- A JSON value. -/
inductive Json where
  | null
  | bool (b : Bool)
  | integer (n : Int)
  | float (x : Binary64)
  | string (s : String)
  | array (items : List Json)
  | object (members : List (String × Json))
deriving Repr, BEq, Inhabited

namespace Json

/-- The last value given to a name. -/
def lookup (members : List (String × Json)) (name : String) : Option Json :=
  (members.reverse.find? (·.1 == name)).map (·.2)

/-- The value of a member of an object, the last one if the name is repeated. -/
def member? (v : Json) (name : String) : Option Json :=
  match v with
  | .object members => lookup members name
  | _ => none

/-- Whether a value counts as present: not null, false, zero or empty. -/
def truthy : Json → Bool
  | .null => false
  | .bool b => b
  | .integer n => n != 0
  | .float x => !x.isZero
  | .string s => !s.isEmpty
  | .array items => !items.isEmpty
  | .object members => !members.isEmpty

/-- The value of an optional text. -/
def ofOption : Option String → Json
  | none => .null
  | some s => .string s

/-- A value other than null. -/
def present? : Json → Option Json
  | .null => none
  | v => some v

mutual

/-- Whether every number in a value is finite. -/
def isFinite : Json → Bool
  | .float .nan => false
  | .float (.infinity _) => false
  | .array items => areFinite items
  | .object members => membersAreFinite members
  | _ => true

/-- Whether every number in some values is finite. -/
def areFinite : List Json → Bool
  | [] => true
  | item :: rest => item.isFinite && areFinite rest

/-- Whether every number in the values of some members is finite. -/
def membersAreFinite : List (String × Json) → Bool
  | [] => true
  | (_, value) :: rest => value.isFinite && membersAreFinite rest

end

end Json

end ConceptQuery
