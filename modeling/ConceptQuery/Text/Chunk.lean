import ConceptQuery.Text.Hex

/-!
# Chunks of encoded text

An encoding cuts bytes into chunks: each is a character, or a run of bytes that is none.

* `Fault`, `Fault.words` — why a run of bytes is no character;
* `Chunk` — a character or a fault, with the number of bytes it takes;
* `lossy` — every broken chunk becomes U+FFFD;
* `intact` — the first broken chunk is reported with its place;
* `Broken.message` — the report in words.
-/

namespace ConceptQuery.Text

/-- Why a run of bytes is no character. -/
inductive Fault where
  | badStart
  | badContinuation
  | endOfData
  | truncated
  | badPair
  | strayHalf
  | surrogate
  | beyondLast
  | notAscii
  | undefinedByte
deriving Repr, DecidableEq

/-- A fault in words. -/
def Fault.words : Fault → String
  | .badStart => "invalid start byte"
  | .badContinuation => "invalid continuation byte"
  | .endOfData => "unexpected end of data"
  | .truncated => "truncated data"
  | .badPair => "illegal UTF-16 surrogate"
  | .strayHalf => "illegal encoding"
  | .surrogate => "code point in surrogate code point range(0xd800, 0xe000)"
  | .beyondLast => "code point not in range(0x110000)"
  | .notAscii => "ordinal not in range(128)"
  | .undefinedByte => "character maps to <undefined>"

/-- A character or a fault, with the number of bytes it takes. -/
abbrev Chunk := Except Fault Char × Nat

/-- A text in which every broken chunk has become U+FFFD. -/
def lossy (chunks : List Chunk) : List Char :=
  chunks.map fun
    | (.ok c, _) => c
    | (.error _, _) => Char.ofNat 0xFFFD

/-- A broken chunk with its place and its first byte. -/
structure Broken where
  fault : Fault
  position : Nat
  length : Nat
  firstByte : UInt8
deriving Repr, DecidableEq

/-- The characters of chunks that begin at a byte position, or the first broken chunk. -/
def intactFrom (bs : List UInt8) (position : Nat) : List Chunk → Except Broken (List Char)
  | [] => .ok []
  | (.ok c, k) :: rest => (intactFrom bs (position + k) rest).map (c :: ·)
  | (.error f, k) :: _ => .error ⟨f, position, k, bs.getD position 0⟩

/-- The characters of the chunks of bytes, or the first broken chunk. -/
def intact (bs : List UInt8) (chunks : List Chunk) : Except Broken (List Char) :=
  intactFrom bs 0 chunks

/-- The report on a broken chunk, for an encoding of a given name. -/
def Broken.message (b : Broken) (encoding : String) : String :=
  let place :=
    if b.length = 1 then
      "byte 0x" ++ .ofList (hexPad 2 b.firstByte.toNat) ++ " in position " ++ toString b.position
    else
      "bytes in position " ++ toString b.position ++ "-" ++ toString (b.position + b.length - 1)
  "'" ++ encoding ++ "' codec can't decode " ++ place ++ ": " ++ b.fault.words

end ConceptQuery.Text
