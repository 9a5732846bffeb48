import ConceptQuery.Json.Value
import ConceptQuery.Number.Shortest
import ConceptQuery.Text.Hex

/-!
# Writing JSON

* `Json.Style` — what stands between items and after names, and which characters are escaped;
* `Json.Style.compact`, `Json.Style.ascii` — the two styles in use;
* `Json.escapeChar` — a character inside a string;
* `Json.print` — a value as text.
-/

namespace ConceptQuery.Json

open Text

/-- A style of writing. -/
structure Style where
  itemSeparator : String
  nameSeparator : String
  /-- Whether delete and all characters beyond ASCII are escaped. -/
  asciiOnly : Bool
deriving Repr, DecidableEq

/-- Without blanks, and with every character as it is that may be. -/
def Style.compact : Style := ⟨",", ":", false⟩

/-- With a blank after commas and colons, in printable ASCII. -/
def Style.ascii : Style := ⟨", ", ": ", true⟩

/-- The escape of a code unit. -/
def unitEscape (n : Nat) : List Char :=
  '\\' :: 'u' :: hex4 n

/-- The escape of a character by its code units, a surrogate pair beyond U+FFFF. -/
def unicodeEscape (c : Char) : List Char :=
  let n := c.toNat
  if n < 0x10000 then unitEscape n
  else unitEscape (0xD800 + (n - 0x10000) / 0x400) ++ unitEscape (0xDC00 + (n - 0x10000) % 0x400)

/-- A character inside a string. -/
def escapeChar (asciiOnly : Bool) (c : Char) : List Char :=
  if c = '"' then ['\\', '"']
  else if c = '\\' then ['\\', '\\']
  else if c = '\n' then ['\\', 'n']
  else if c = '\r' then ['\\', 'r']
  else if c = '\t' then ['\\', 't']
  else if c = '\x08' then ['\\', 'b']
  else if c = '\x0c' then ['\\', 'f']
  else if c.toNat < 0x20 then unitEscape c.toNat
  else if asciiOnly && 0x7F ≤ c.toNat then unicodeEscape c
  else [c]

/-- A string between quotes. -/
def printString (style : Style) (s : String) : String :=
  .ofList ('"' :: s.toList.flatMap (escapeChar style.asciiOnly) ++ ['"'])

/-- A floating number; the values without a decimal have names. -/
def printFloat : Binary64 → String
  | .nan => "NaN"
  | .infinity negative => if negative then "-Infinity" else "Infinity"
  | x => x.toText

mutual

/-- A value as text. -/
def print (style : Style) : Json → String
  | .null => "null"
  | .bool b => if b then "true" else "false"
  | .integer n => toString n
  | .float x => printFloat x
  | .string s => printString style s
  | .array items => "[" ++ style.itemSeparator.intercalate (printItems style items) ++ "]"
  | .object members =>
    "\x7b" ++ style.itemSeparator.intercalate (printMembers style members) ++ "\x7d"

/-- The items of an array as texts. -/
def printItems (style : Style) : List Json → List String
  | [] => []
  | item :: rest => print style item :: printItems style rest

/-- The members of an object as texts. -/
def printMembers (style : Style) : List (String × Json) → List String
  | [] => []
  | (name, value) :: rest =>
    (printString style name ++ style.nameSeparator ++ print style value) :: printMembers style rest

end

end ConceptQuery.Json
