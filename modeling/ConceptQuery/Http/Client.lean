import ConceptQuery.Text.Character
import ConceptQuery.Text.Charset

/-!
# Clients

What a response says depends on the client that receives it, which finds a codec by the content type
and has a limit on the nesting of documents.

* `Http.parameter?` — a parameter of a header value, such as the charset of a content type;
* `Http.codecNamed?` — the codec that a content type names;
* `Http.Client` — how responses are read.
-/

namespace ConceptQuery.Http

open Text

/-- A value without the quotes around it. -/
def unquoted (value : List Char) : List Char :=
  match value with
  | '"' :: rest => if rest.getLast? = some '"' then rest.dropLast else value
  | _ => value

/-- A parameter of a header value: a part between semicolons that is a name, an equals sign and a
value. -/
def parameter? (value name : String) : Option String :=
  let parts := value.toList.splitBy fun a b => a != ';' && b != ';'
  let named? (part : List Char) : Option String :=
    let (before, after) := part.span (· != '=')
    if toLower (.ofList (trim isWhiteSpace before)) = name then
      some (.ofList (unquoted (trim isWhiteSpace (after.drop 1))))
    else none
  parts.findSome? named?

/-- The codec that a content type names, of those of the common encodings. -/
def codecNamed? (contentType : String) : Option Codec := do
  let name ← parameter? contentType "charset"
  let charset ← Charset.ofName? name
  return charset.codec

/-- How responses are read. -/
structure Client where
  /-- The codec for a content type, if there is one; any codecs may be at hand, under any names. -/
  codec? : String → Option Codec := codecNamed?
  /-- The deepest nesting of a document that is followed. -/
  depth : Option Nat := none

instance : Inhabited Client := ⟨{}⟩

end ConceptQuery.Http
