import ConceptQuery.Text.Hex

/-!
# Form encoding

The encoding of `application/x-www-form-urlencoded` fields: a text becomes its UTF-8 bytes,
unreserved bytes stand for themselves, a space becomes `+`, and every other byte becomes `%` and
two upper-case digits.

* `isUnreserved` — the letters, digits and marks that stand for themselves;
* `formEncodeByte`, `formEncode` — the encoding of a byte and of a text;
* `formBody` — one `name=value` field as the body of a form post.
-/

namespace ConceptQuery.Text

/-- Letters, digits and the marks `_ . - ~`. -/
def isUnreserved (c : Char) : Bool :=
  c.isAlphanum || c == '_' || c == '.' || c == '-' || c == '~'

/-- The encoding of one byte. -/
def formEncodeByte (b : UInt8) : List Char :=
  let c := Char.ofNat b.toNat
  if isUnreserved c then [c] else if c = ' ' then ['+'] else '%' :: hexByte b

/-- The encoding of a text given by its characters. -/
def formEncodeChars (s : List Char) : List Char :=
  (s.flatMap String.utf8EncodeChar).flatMap formEncodeByte

/-- The encoding of a text. -/
def formEncode (s : String) : String :=
  .ofList (formEncodeChars s.toList)

/-- A form with one field; the name is made of unreserved characters. -/
def formBody (name value : String) : String :=
  name ++ "=" ++ formEncode value

end ConceptQuery.Text
