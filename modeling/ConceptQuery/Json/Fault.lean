import ConceptQuery.Number.Numeral

/-!
# Faults of JSON text

* `Json.Fault` — why and where a text stops being JSON; the place is the number of characters
  left;
* `Json.Cause.words` — the cause in words;
* `Json.Fault.message` — the cause with line, column and character position.
-/

namespace ConceptQuery.Json

/-- Why a text is not JSON. -/
inductive Cause where
  | expectingValue
  | expectingName
  | expectingColon
  | expectingComma
  | unterminatedString
  | controlCharacter
  | unknownEscape
  | badUnicodeEscape
  | extraData
  | byteOrderMark
  | loneSurrogate
  | tooManyDigits (count : Nat)
  | tooDeep
  | outOfFuel
deriving Repr, DecidableEq

/-- A cause and the number of characters left at the place of the fault. -/
structure Fault where
  cause : Cause
  left : Nat
deriving Repr, DecidableEq

/-- The cause in words, without its place. -/
def Cause.words : Cause → String
  | .expectingValue => "Expecting value"
  | .expectingName => "Expecting property name enclosed in double quotes"
  | .expectingColon => "Expecting ':' delimiter"
  | .expectingComma => "Expecting ',' delimiter"
  | .unterminatedString => "Unterminated string starting at"
  | .controlCharacter => "Invalid control character at"
  | .unknownEscape => "Invalid \\escape"
  | .badUnicodeEscape => "Invalid \\uXXXX escape"
  | .extraData => "Extra data"
  | .byteOrderMark => "Unexpected UTF-8 BOM (decode using utf-8-sig)"
  | .loneSurrogate => "Lone surrogate"
  | .tooManyDigits n => (NumeralError.tooManyDigits n).message
  | .tooDeep => "Nested too deeply"
  | .outOfFuel => "Out of fuel"

/-- Whether a fault is one of notation, which is told with its place. -/
def Cause.isNotation : Cause → Bool
  | .tooManyDigits _ | .loneSurrogate | .tooDeep | .outOfFuel => false
  | _ => true

/-- The character position of a fault in its text. -/
def Fault.position (f : Fault) (text : List Char) : Nat :=
  text.length - f.left

/-- The cause with line, column and character position. -/
def Fault.message (f : Fault) (text : List Char) : String :=
  if f.cause.isNotation then
    let before := text.take (f.position text)
    let line := before.count '\n' + 1
    let column := (before.reverse.takeWhile (· != '\n')).length + 1
    f.cause.words ++ ": line " ++ toString line ++ " column " ++ toString column ++ " (char "
      ++ toString (f.position text) ++ ")"
  else f.cause.words

end ConceptQuery.Json
