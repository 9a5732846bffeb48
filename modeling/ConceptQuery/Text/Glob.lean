/-!
# Glob patterns

Patterns that name many keys at once.  They are matched byte by byte.  A star stands for any bytes,
a question mark for any one byte, and brackets hold the bytes one of which may stand there, or with
a caret those that may not; a backslash takes the meaning from the byte behind it.

* `Glob.Part` — what stands in a pattern;
* `Glob.Place`, `Glob.partsFrom` — the parts of a pattern, from outside or inside of brackets;
* `Glob.fits` — whether bytes are what the parts stand for;
* `Glob.accepts` — whether a text matches a pattern.
-/

namespace ConceptQuery.Text.Glob

/-- A part of a pattern. -/
inductive Part where
  | byte (b : UInt8)
  | anyByte
  /-- A byte in one of some spans, or a byte in none of them. -/
  | oneOf (negated : Bool) (spans : List (UInt8 × UInt8))
  | anyBytes
deriving Repr, DecidableEq

/-- Where in a pattern a byte stands: outside of brackets, or behind some spans inside of them. -/
inductive Place where
  | outside
  | inside (negated : Bool) (spans : List (UInt8 × UInt8))

/-- The parts of a pattern. Brackets that are not closed end with the pattern. -/
def partsFrom : Place → List UInt8 → List Part
  | .outside, [] => []
  | .outside, a :: rest =>
    if a = '*'.toUInt8 then .anyBytes :: partsFrom .outside rest
    else if a = '?'.toUInt8 then .anyByte :: partsFrom .outside rest
    else if a = '['.toUInt8 then
      match rest with
      | [] => partsFrom (.inside false []) []
      | b :: more =>
        if b = '^'.toUInt8 then partsFrom (.inside true []) more
        else partsFrom (.inside false []) (b :: more)
    else if a = '\\'.toUInt8 then
      match rest with
      | [] => [.byte a]
      | b :: more => .byte b :: partsFrom .outside more
    else .byte a :: partsFrom .outside rest
  | .inside negated spans, [] => [.oneOf negated spans]
  | .inside negated spans, a :: rest =>
    if a = ']'.toUInt8 then .oneOf negated spans :: partsFrom .outside rest
    else
      match rest with
      | [] => partsFrom (.inside negated ((a, a) :: spans)) []
      | b :: more =>
        if a = '\\'.toUInt8 then partsFrom (.inside negated ((b, b) :: spans)) more
        else
          -- A span takes its last byte whatever it is, even a closing bracket.
          match more with
          | c :: last =>
            if b = '-'.toUInt8 then partsFrom (.inside negated ((min a c, max a c) :: spans)) last
            else partsFrom (.inside negated ((a, a) :: spans)) (b :: c :: last)
          | [] => partsFrom (.inside negated ((a, a) :: spans)) [b]

/-- Whether a part stands for a single byte. -/
def Part.admits : Part → UInt8 → Bool
  | .byte a, b => a == b
  | .anyByte, _ => true
  | .oneOf negated spans, b => negated != spans.any fun span => span.1 ≤ b && b ≤ span.2
  | .anyBytes, _ => false

/-- Whether something holds of an ending of some bytes. -/
def anyEnding (p : List UInt8 → Bool) : List UInt8 → Bool
  | [] => p []
  | b :: rest => p (b :: rest) || anyEnding p rest

/-- Whether bytes are what parts stand for. -/
def fits : List Part → List UInt8 → Bool
  | [], bytes => bytes.isEmpty
  | .anyBytes :: parts, bytes => anyEnding (fits parts) bytes
  | _ :: _, [] => false
  | part :: parts, b :: bytes => part.admits b && fits parts bytes

/-- The bytes of a text. -/
def bytes (text : String) : List UInt8 :=
  text.toList.flatMap String.utf8EncodeChar

/-- Whether a text matches a pattern. -/
def accepts (pattern text : String) : Bool :=
  fits (partsFrom .outside (bytes pattern)) (bytes text)

end ConceptQuery.Text.Glob
