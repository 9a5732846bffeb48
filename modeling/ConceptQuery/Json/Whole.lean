import ConceptQuery.Failure
import ConceptQuery.Number.Numeral

/-!
# Whole numbers from JSON values

* `Json.kindName` — the kind of a value as messages name it;
* `Json.toWhole` — the whole number that a value stands for: the fraction of a floating number is
  dropped, a truth value counts as one or zero, and a text is read.
-/

namespace ConceptQuery.Json

/-- The kind of a value as messages name it. -/
def kindName : Json → String
  | .null => "NoneType"
  | .bool _ => "bool"
  | .integer _ => "int"
  | .float _ => "float"
  | .string _ => "str"
  | .array _ => "list"
  | .object _ => "dict"

/-- The whole number that a value stands for. -/
def toWhole : Json → Except Failure Int
  | .integer n => .ok n
  | .bool b => .ok (if b then 1 else 0)
  | .string s => (readInt s).mapError fun e => .invalidValue e.message
  | .float .nan => .error (.invalidValue "cannot convert float NaN to integer")
  | .float (.infinity _) => .error (.outOfRange "cannot convert float infinity to integer")
  | .float (.finite negative m e) => .ok (Binary64.truncate negative m e)
  | v =>
    .error (.wrongType ("int() argument must be a string, a bytes-like object or a real number, not '"
      ++ v.kindName ++ "'"))

end ConceptQuery.Json
