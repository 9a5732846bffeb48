/-!
# Issues of an intent text

What is wrong with a text that should hold an intent, and where.

* `Intent.Problem` — what is wrong;
* `Intent.Place` — a member or an item on the way to the place;
* `Intent.Issue` — a problem and its place;
* `Intent.Problem.tag` — the short name of a problem;
* `Intent.summary` — the first line of the report on a number of issues.
-/

namespace ConceptQuery.Intent

/-- What is wrong with a part of an intent text. -/
inductive Problem where
  | notJson
  | notObject
  | missing
  | notString
  | emptyString
  | notInteger
  | unparsableInteger
  | oversizedInteger
  | fractionalInteger
  | notFinite
  | notPositive
  | notArray
  | emptyArray
  /-- A projected field that is not a name; `shown` is the name as messages show it. -/
  | notFieldName (shown : String)
deriving Repr, DecidableEq

/-- A step on the way to a part of a JSON value. -/
inductive Place where
  | member (name : String)
  | item (index : Nat)
deriving Repr, DecidableEq

/-- A problem and the way to the part that has it. -/
structure Issue where
  problem : Problem
  place : List Place
deriving Repr, DecidableEq

/-- The short name of a problem. -/
def Problem.tag : Problem → String
  | .notJson => "json_invalid"
  | .notObject => "model_type"
  | .missing => "missing"
  | .notString => "string_type"
  | .emptyString => "string_too_short"
  | .notInteger => "int_type"
  | .unparsableInteger => "int_parsing"
  | .oversizedInteger => "int_parsing_size"
  | .fractionalInteger => "int_from_float"
  | .notFinite => "finite_number"
  | .notPositive => "greater_than"
  | .notArray => "list_type"
  | .emptyArray => "too_short"
  | .notFieldName _ => "value_error"

/-- The first line of the report on a number of issues. The lines behind it, which go into the issues
one by one, are left out. -/
def summary (count : Nat) : String :=
  "Invalid intent: " ++ toString count ++ " validation " ++ (if count = 1 then "error" else "errors")
    ++ " for IntentPayload"

end ConceptQuery.Intent
