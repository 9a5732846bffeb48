/-!
# Characters

* `isWhiteSpace` — the Unicode property `White_Space`;
* `trim` — a text without its leading and trailing characters of a class;
* `digitZeros`, `digitValue?` — the decimal digits of every script: ten neighbouring code points
  that begin with a zero;
* `Span`, `Span.covers` — a character class that follows no formula, as a table of spans of code
  points in ascending order.
-/

namespace ConceptQuery.Text

/-! ### White space -/

/-- The Unicode property `White_Space`. -/
def isWhiteSpace (c : Char) : Bool :=
  let n := c.toNat
  (0x09 ≤ n && n ≤ 0x0D) || n == 0x20 || n == 0x85 || n == 0xA0 || n == 0x1680
    || (0x2000 ≤ n && n ≤ 0x200A) || n == 0x2028 || n == 0x2029 || n == 0x202F || n == 0x205F
    || n == 0x3000

/-- A text without its leading and trailing characters of the class `p`. -/
def trim (p : Char → Bool) (s : List Char) : List Char :=
  ((s.dropWhile p).reverse.dropWhile p).reverse

/-! ### Decimal digits -/

/-- The code points of the digits zero in Unicode 14, in ascending order. -/
def digitZeros : List Nat := [
  0x30, 0x660, 0x6F0, 0x7C0, 0x966, 0x9E6, 0xA66, 0xAE6, 0xB66, 0xBE6, 0xC66, 0xCE6, 0xD66,
  0xDE6, 0xE50, 0xED0, 0xF20, 0x1040, 0x1090, 0x17E0, 0x1810, 0x1946, 0x19D0, 0x1A80, 0x1A90,
  0x1B50, 0x1BB0, 0x1C40, 0x1C50, 0xA620, 0xA8D0, 0xA900, 0xA9D0, 0xA9F0, 0xAA50, 0xABF0,
  0xFF10, 0x104A0, 0x10D30, 0x11066, 0x110F0, 0x11136, 0x111D0, 0x112F0, 0x11450, 0x114D0,
  0x11650, 0x116C0, 0x11730, 0x118E0, 0x11950, 0x11C50, 0x11D50, 0x11DA0, 0x16A60, 0x16AC0,
  0x16B50, 0x1D7CE, 0x1D7D8, 0x1D7E2, 0x1D7EC, 0x1D7F6, 0x1E140, 0x1E2F0, 0x1E950, 0x1FBF0]

/-- The value of a decimal digit of any script. -/
def digitValue? (c : Char) : Option Nat :=
  (digitZeros.find? fun z => z ≤ c.toNat && c.toNat < z + 10).map (c.toNat - ·)

/-! ### Spans of code points -/

/-- A run of neighbouring code points, both ends included. -/
structure Span where
  first : Nat
  last : Nat
deriving Repr, DecidableEq

/-- Whether an ascending table covers a code point; the search stops at the first span that
begins beyond it. -/
def Span.covers : List Span → Nat → Bool
  | [], _ => false
  | s :: rest, n => if n < s.first then false else n ≤ s.last || Span.covers rest n

end ConceptQuery.Text
