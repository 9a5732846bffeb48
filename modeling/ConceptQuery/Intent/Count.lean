import ConceptQuery.Intent.Issue
import ConceptQuery.Json.Value
import ConceptQuery.Number.Numeral

/-!
# Counts

How the page size of an intent is read.  A count may be a whole number, a floating number without
a fraction, a truth value, or a text that spells a whole number.

* `Intent.numeral?` — the number a text spells: digits with single underscores between them, and
  perhaps zeros after a point;
* `Intent.countOfText` — a count from a text;
* `Intent.countOfFloat` — a count from a floating number;
* `Intent.countOf` — a count from a JSON value.
-/

namespace ConceptQuery.Intent

open Text

/-- Whether a text is empty or a point with at least one zero. -/
def isZeroFraction : List Char → Bool
  | [] => true
  | c :: zeros => c == '.' && !zeros.isEmpty && zeros.all (· == '0')

/-- The number a text spells: a sign, digits with single underscores between them, and perhaps a
fraction of zeros. -/
def numeral? (s : List Char) : Option Int :=
  let (negative, digits) := takeSign s
  match digitGroups digits with
  | ([], _) => none
  | (ds, rest) =>
    if isZeroFraction rest then some (Binary64.signed negative (decimalValue ds)) else none

/-- A count from a text; white space around it is ignored, and its length in bytes is limited. -/
def countOfText (s : String) : Except Problem Int :=
  let cs := trim isWhiteSpace s.toList
  if digitLimit < (String.ofList cs).utf8ByteSize then .error .oversizedInteger
  else match numeral? cs with
    | some n => .ok n
    | none => .error .unparsableInteger

/-- A count from a floating number, which must be whole and below 2⁶³ in size. -/
def countOfFloat : Binary64 → Except Problem Int
  | .finite negative m e =>
    match Binary64.whole? negative m e with
    | none => .error .fractionalInteger
    | some n => if n.natAbs < Nat.pow 2 63 then .ok n else .error .oversizedInteger
  | _ => .error .notFinite

/-- A count from a JSON value. -/
def countOf : Json → Except Problem Int
  | .integer n => .ok n
  | .bool b => .ok (if b then 1 else 0)
  | .float x => countOfFloat x
  | .string s => countOfText s
  | _ => .error .notInteger

end ConceptQuery.Intent
