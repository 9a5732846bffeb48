import ConceptQuery.Failure
import ConceptQuery.Json.Reader
import ConceptQuery.Json.Whole
import ConceptQuery.Text.Charset

/-!
# JSON documents

A document is JSON text as bytes.  Its encoding is found out from its first bytes.

* `Json.Refusal` — why a document has no value, and the failure that this is;
* `Json.ofDocument` — the value of a document;
* `Json.item` — an item of a value by name;
* `Json.first` — the first item of a value.
-/

namespace ConceptQuery.Json

/-- Why a document has no value. -/
inductive Refusal where
  /-- It is no JSON, or its bytes are no text. -/
  | malformed (message : String)
  /-- It is nested more deeply than is followed. -/
  | tooDeep (message : String)
  /-- It spells half of a surrogate pair that stands alone. This is JSON, but no character of a
  text. -/
  | loneSurrogate
deriving Repr, DecidableEq

/-- The failure that a refusal is. -/
def Refusal.failure : Refusal → Failure
  | .malformed message => .invalidValue message
  | .tooDeep message => .tooDeep message
  | .loneSurrogate => .loneSurrogate

/-- The refusal of a text with a fault. -/
def Fault.refusal (f : Fault) (text : List Char) : Refusal :=
  match f.cause with
  | .tooDeep =>
    let kind := if (text.drop (f.position text)).head? = some '[' then "array" else "object"
    .tooDeep ("maximum recursion depth exceeded while decoding a JSON " ++ kind
      ++ " from a unicode string")
  | .loneSurrogate => .loneSurrogate
  | _ => .malformed (f.message text)

/-- The refusal of a document whose bytes are broken. -/
def refusalOf (charset : Text.Charset) (bytes : List UInt8) (b : Text.Broken) : Refusal :=
  if charset.isLoneHalf bytes b then .loneSurrogate
  else .malformed (b.message (charset.name bytes))

/-- The value of a document. -/
def ofDocument (limits : Limits) (bytes : List UInt8) : Except Refusal Json := do
  let charset := Text.Charset.detect bytes
  let text ← (charset.decode bytes).mapError (refusalOf charset bytes)
  (readUnmarked limits text).mapError (·.refusal text)

/-- The failure of looking into a value that has no items. -/
def noItems (v : Json) : Failure :=
  .wrongType ("'" ++ v.kindName ++ "' object is not subscriptable")

/-- An item of a value by name. Only objects have named items. -/
def item (v : Json) (name : String) : Except Failure Json :=
  match v with
  | .object members =>
    match lookup members name with
    | some w => .ok w
    | none => .error (.missingKey (.string name))
  | .array _ => .error (.wrongType "list indices must be integers or slices, not str")
  | .string _ => .error (.wrongType "string indices must be integers, not 'str'")
  | v => .error v.noItems

/-- The first item of a value that is not empty. Objects have no first item. -/
def first (v : Json) : Except Failure Json :=
  match v with
  | .array (w :: _) => .ok w
  | .array [] => .error (.wrongType "list index out of range")
  | .string s => .ok (.string (.ofList (s.toList.take 1)))
  | .object _ => .error (.missingKey (.integer 0))
  | v => .error v.noItems

end ConceptQuery.Json
