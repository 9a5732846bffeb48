import ConceptQuery.Number.Binary64
import ConceptQuery.Text.Character
import ConceptQuery.Text.Quoted

/-!
# Numerals in text

Whole and floating numbers as configuration and documents spell them: white space around
them is ignored, digits may be of any script, and a single underscore may stand between two digits.

* `digitLimit` — the largest number of digits a whole number may have;
* `NumeralError` — why a text is no number, with its message;
* `plainDigit` — digits and white space of every script in their ASCII form;
* `digitGroups` — digits with single underscores between them, and what follows;
* `readInt` — a whole number;
* `readFloat` — a floating number, an infinity or no number.
-/

namespace ConceptQuery

open Text

/-- The largest number of digits a whole number may have in text. -/
def digitLimit : Nat := 4300

/-- Why a text is not a number. -/
inductive NumeralError where
  | notInteger (text : String)
  | tooManyDigits (count : Nat)
  | notFloat (text : String)
deriving Repr, DecidableEq

/-- The message of a numeral error. Of a text that is no whole number, 200 characters are shown. -/
def NumeralError.message : NumeralError → String
  | .notInteger s =>
    "invalid literal for int() with base 10: " ++ .ofList ((quoted s).toList.take 200)
  | .tooManyDigits n =>
    "Exceeds the limit (" ++ toString digitLimit ++ " digits) for integer string conversion: "
      ++ "value has " ++ toString n
      ++ " digits; use sys.set_int_max_str_digits() to increase the limit"
  | .notFloat s => "could not convert string to float: " ++ quoted s

/-- A digit of any script as an ASCII digit, and any white space as a space. -/
def plainDigit (c : Char) : Char :=
  if isWhiteSpace c then ' '
  else match digitValue? c with
    | some v => v.digitChar
    | none => c

/-- The digits at the front, where a single underscore may stand between two of them, and the rest
of the text. -/
def digitGroups : List Char → List Char × List Char
  | '_' :: rest => ([], '_' :: rest)
  | c :: '_' :: d :: rest =>
    if c.isDigit && d.isDigit then
      let (ds, r) := digitGroups (d :: rest)
      (c :: ds, r)
    else if c.isDigit then ([c], '_' :: d :: rest) else ([], c :: '_' :: d :: rest)
  | c :: rest =>
    if c.isDigit then
      let (ds, r) := digitGroups rest
      (c :: ds, r)
    else ([], c :: rest)
  | [] => ([], [])

/-- A sign at the front, and the rest of the text. -/
def takeSign : List Char → Bool × List Char
  | '-' :: rest => (true, rest)
  | '+' :: rest => (false, rest)
  | s => (false, s)

/-- The number that decimal digits spell. -/
def decimalValue (ds : List Char) : Nat :=
  Nat.ofDigitChars 10 ds 0

/-- Reads a whole number. -/
def readInt (text : String) : Except NumeralError Int :=
  let (negative, s) := takeSign (trim isWhiteSpace (text.toList.map plainDigit))
  match digitGroups s with
  | ([], _) => .error (.notInteger text)
  | (ds, rest) =>
    if rest.head? = some '_' then .error (.notInteger text)
    else if digitLimit < ds.length then .error (.tooManyDigits ds.length)
    else if rest.isEmpty then .ok (Binary64.signed negative (decimalValue ds))
    else .error (.notInteger text)

/-- The exponent part at the front of a text: none, or `e` with an optional sign and digits. -/
def takeExponent : List Char → Int × List Char
  | c :: rest =>
    if c = 'e' || c = 'E' then
      let (negative, s) := takeSign rest
      match digitGroups s with
      | ([], _) => (0, c :: rest)
      | (ds, r) => (Binary64.signed negative (decimalValue ds), r)
    else (0, c :: rest)
  | [] => (0, [])

/-- The digits after a point at the front of a text, if there is one. -/
def takeFraction : List Char → List Char × List Char
  | '.' :: rest => digitGroups rest
  | s => ([], s)

/-- Reads an unsigned decimal number that fills the text; `negative` is its sign. -/
def readDecimal? (negative : Bool) (s : List Char) : Option Binary64 :=
  let (whole, rest) := digitGroups s
  let (fraction, rest) := takeFraction rest
  let (exponent, rest) := takeExponent rest
  if (whole.isEmpty && fraction.isEmpty) || !rest.isEmpty then none
  else some (.ofDecimal negative (decimalValue (whole ++ fraction)) (exponent - fraction.length))

/-- Reads a floating number. -/
def readFloat (text : String) : Except NumeralError Binary64 :=
  let (negative, s) := takeSign (trim isWhiteSpace (text.toList.map plainDigit))
  let word := s.map Char.toLower
  if word = ['i', 'n', 'f'] || word = ['i', 'n', 'f', 'i', 'n', 'i', 't', 'y'] then
    .ok (.infinity negative)
  else if word = ['n', 'a', 'n'] then .ok .nan
  else match readDecimal? negative s with
    | some x => .ok x
    | none => .error (.notFloat text)

end ConceptQuery
