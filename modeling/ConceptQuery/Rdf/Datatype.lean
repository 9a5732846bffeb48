import ConceptQuery.Number.Numeral
import ConceptQuery.Number.Shortest
import ConceptQuery.Rdf.Term
import ConceptQuery.Text.LetterCase

/-!
# Datatypes

A literal of a number or truth type is written in the usual form of its value; one whose text is
not a value of its type keeps it.

* `Rdf.xsd` — a name in the namespace of the built-in types;
* `Rdf.integerTypes` — the types of whole numbers;
* `Rdf.usualDecimal?` — the usual form of a decimal: no plus sign, a digit before the point and no
  zero before it that could be left out;
* `Rdf.usualForm?` — the usual form of a text of a type;
* `Rdf.Literal.typed` — a literal of a type.
-/

namespace ConceptQuery.Rdf

open Text

/-- A name in the namespace of the built-in types. -/
def xsd (name : String) : String :=
  "http://www.w3.org/2001/XMLSchema#" ++ name

/-- The types of whole numbers. -/
def integerTypes : List String :=
  ["integer", "int", "long", "short", "byte", "nonNegativeInteger", "positiveInteger",
    "nonPositiveInteger", "negativeInteger", "unsignedLong", "unsignedInt", "unsignedShort",
    "unsignedByte"].map xsd

/-- The usual form of a whole part: at least one digit, without leading zeros. -/
def usualWhole (ds : List Char) : List Char :=
  Nat.toDigits 10 (decimalValue ds)

/-- The usual form of a decimal. -/
def usualDecimal? (s : String) : Option String :=
  let (negative, digits) := takeSign (trim isWhiteSpace s.toList)
  let whole := digits.takeWhile Char.isDigit
  let sign := if negative then ['-'] else []
  match digits.dropWhile Char.isDigit with
  | [] => if whole.isEmpty then none else some (.ofList (sign ++ usualWhole whole))
  | point :: fraction =>
    if point = '.' && fraction.all Char.isDigit && !(whole.isEmpty && fraction.isEmpty) then
      some (.ofList (sign ++ usualWhole whole
        ++ if fraction.isEmpty then [] else '.' :: fraction))
    else none

/-- The usual form of a truth value. -/
def usualBoolean? (s : String) : Option String :=
  let word := toLower s
  if word = "true" || word = "1" then some "true"
  else if word = "false" || word = "0" then some "false"
  else none

/-- The usual form of a text of a type, if the text is a value of it and the type has one. -/
def usualForm? (s type : String) : Option String :=
  if integerTypes.contains type then (readInt s).toOption.map toString
  else if type = xsd "double" || type = xsd "float" then (readFloat s).toOption.map Binary64.toText
  else if type = xsd "decimal" then usualDecimal? s
  else if type = xsd "boolean" then usualBoolean? s
  else none

/-- A literal of a type, in its usual form. -/
def Literal.typed (s type : String) : Literal :=
  ⟨(usualForm? s type).getD s, .datatype type⟩

end ConceptQuery.Rdf
