import ConceptQuery.Text.LetterCase
import ConceptQuery.Text.Utf8
import ConceptQuery.Text.Wide

/-!
# Character sets

* `Charset` — the encodings that are understood;
* `Charset.ofName?` — the encoding of a name, in any of its spellings;
* `Charset.detect` — the encoding of a JSON document, which begins with ASCII;
* `Charset.decode` — the text that bytes spell, or the first place where they spell none;
* `Codec`, `Charset.codec` — reading bytes of which some may spell nothing.
-/

namespace ConceptQuery.Text

/-- How bytes are read as a text: a codec that cannot go on reports why. -/
abbrev Codec := List UInt8 → Except String String

/-- An encoding. Without a byte order, a mark at the front gives it, else it is little. -/
inductive Charset where
  | utf8
  /-- UTF-8 in which a mark at the front is no text. -/
  | markedUtf8
  | utf16 (order : Option ByteOrder)
  | utf32 (order : Option ByteOrder)
  | latin1
  | ascii
  | windows1252
deriving Repr, DecidableEq

namespace Charset

/-- A name in lower case, with every run of other characters inside it as one underscore. -/
def normalName (name : String) : String :=
  let kept (c : Char) : Bool := c.isAlphanum || c == '.'
  let words := (name.toList.splitBy fun a b => kept a == kept b).filter (·.any kept)
  Text.toLower ("_".intercalate (words.map .ofList))

/-- The spellings of the names of the encodings. -/
def names : List (Charset × List String) :=
  [(.utf8, ["utf_8", "u8", "utf", "utf8", "utf8_ucs2", "utf8_ucs4", "cp65001"]),
    (.markedUtf8, ["utf_8_sig"]),
    (.utf16 none, ["utf_16", "u16", "utf16"]),
    (.utf16 (some .little), ["utf_16_le", "utf_16le", "unicodelittleunmarked"]),
    (.utf16 (some .big), ["utf_16_be", "utf_16be", "unicodebigunmarked"]),
    (.utf32 none, ["utf_32", "u32", "utf32"]),
    (.utf32 (some .little), ["utf_32_le", "utf_32le"]),
    (.utf32 (some .big), ["utf_32_be", "utf_32be"]),
    (.latin1, ["latin_1", "8859", "cp819", "csisolatin1", "ibm819", "iso8859", "iso8859_1",
      "iso_8859_1", "iso_8859_1_1987", "iso_ir_100", "l1", "latin", "latin1"]),
    (.ascii, ["ascii", "646", "ansi_x3.4_1968", "ansi_x3_4_1968", "ansi_x3.4_1986", "cp367",
      "csascii", "ibm367", "iso646_us", "iso_646.irv_1991", "iso_ir_6", "us", "us_ascii"]),
    (.windows1252, ["cp1252", "1252", "windows_1252"])]

/-- The encoding of a name. -/
def ofName? (name : String) : Option Charset :=
  (names.find? fun entry => entry.2.contains (normalName name)).map (·.1)

/-- The characters of the bytes 0x80 to 0x9F in the Windows encoding; zero where there is none. -/
def windowsBlock : List Nat :=
  [0x20AC, 0, 0x201A, 0x0192, 0x201E, 0x2026, 0x2020, 0x2021, 0x02C6, 0x2030, 0x0160, 0x2039,
    0x0152, 0, 0x017D, 0, 0, 0x2018, 0x2019, 0x201C, 0x201D, 0x2022, 0x2013, 0x2014, 0x02DC,
    0x2122, 0x0161, 0x203A, 0x0153, 0, 0x017E, 0x0178]

/-- The character of a byte in the Windows encoding. -/
def windowsChar (b : UInt8) : Except Fault Char :=
  let n := b.toNat
  if n < 0x80 || 0xA0 ≤ n then .ok (Char.ofNat n)
  else match windowsBlock.getD (n - 0x80) 0 with
    | 0 => .error .undefinedByte
    | m => .ok (Char.ofNat m)

/-- The byte order that a mark of units of some width gives, if there is one. -/
def orderMark? (width : Nat) (bs : List UInt8) : Option ByteOrder :=
  let mark := bs.take width
  if mark.length < width then none
  else if ByteOrder.little.number mark = 0xFEFF then some .little
  else if ByteOrder.big.number mark = 0xFEFF then some .big
  else none

/-- The mark at the front of a text in UTF-8. -/
def utf8Mark : List UInt8 := [0xEF, 0xBB, 0xBF]

/-- The number of bytes at the front that are a mark and no text. -/
def markLength (charset : Charset) (bs : List UInt8) : Nat :=
  match charset with
  | .markedUtf8 => if utf8Mark.isPrefixOf bs then 3 else 0
  | .utf16 none => if (orderMark? 2 bs).isSome then 2 else 0
  | .utf32 none => if (orderMark? 4 bs).isSome then 4 else 0
  | _ => 0

/-- The chunks of a text after its mark. -/
def chunks (charset : Charset) (bs : List UInt8) : List Chunk :=
  let text := bs.drop (charset.markLength bs)
  match charset with
  | .utf8 | .markedUtf8 => Utf8.chunks text
  | .utf16 order => Wide.chunks16 ((order.or (orderMark? 2 bs)).getD .little) text
  | .utf32 order => Wide.chunks32 ((order.or (orderMark? 4 bs)).getD .little) text
  | .latin1 => text.map fun b => (.ok (Char.ofNat b.toNat), 1)
  | .ascii => text.map fun b =>
    (if b.toNat < 0x80 then .ok (Char.ofNat b.toNat) else .error .notAscii, 1)
  | .windows1252 => text.map fun b => (windowsChar b, 1)

/-- The name of an encoding, with the byte order of the bytes that it reads. -/
def name (charset : Charset) (bs : List UInt8) : String :=
  let ordered (name : String) (order : Option ByteOrder) : String :=
    match order with
    | some .big => name ++ "-be"
    | _ => name ++ "-le"
  match charset with
  | .utf8 | .markedUtf8 => "utf-8"
  | .utf16 order => ordered "utf-16" (order.or (orderMark? 2 bs))
  | .utf32 order => ordered "utf-32" (order.or (orderMark? 4 bs))
  | .latin1 => "latin-1"
  | .ascii => "ascii"
  | .windows1252 => "charmap"

/-- The text that bytes spell, or the first place where they spell none. Places are counted from the
front, in marked UTF-8 from the end of the mark. -/
def decode (charset : Charset) (bs : List UInt8) : Except Broken (List Char) :=
  let start := charset.markLength bs
  match charset with
  | .markedUtf8 => intact (bs.drop start) (charset.chunks bs)
  | _ => intactFrom bs start (charset.chunks bs)

/-- Whether what is broken is half of a surrogate pair that stands alone. -/
def isLoneHalf (charset : Charset) (bs : List UInt8) (b : Broken) : Bool :=
  let spelled (bs : List UInt8) : Bool := match bs.drop b.position with
    | x :: y :: z :: _ => x = 0xED && 0xA0 ≤ y && y ≤ 0xBF && 0x80 ≤ z && z ≤ 0xBF
    | _ => false
  match charset with
  | .utf8 => spelled bs
  | .markedUtf8 => spelled (bs.drop (charset.markLength bs))
  | .utf16 _ => b.fault = .badPair || b.fault = .strayHalf || b.fault = .endOfData
  | .utf32 _ => b.fault = .surrogate
  | _ => false

/-- The name of an encoding that leaves the order of the bytes open, if there is a first unit and it
is no mark that tells this order. -/
def unmarked? (charset : Charset) (bs : List UInt8) : Option String :=
  match charset with
  | .utf16 none => if 2 ≤ bs.length && (orderMark? 2 bs).isNone then some "UTF-16" else none
  | .utf32 none => if 4 ≤ bs.length && (orderMark? 4 bs).isNone then some "UTF-32" else none
  | _ => none

/-- The codec of an encoding. Broken chunks become U+FFFD, but the mark that is needed to read on is
not made up, and one that breaks off is no text. -/
def codec (charset : Charset) : Codec := fun bs =>
  match charset.unmarked? bs with
  | some name => .error (name ++ " stream does not start with BOM")
  | none =>
    if charset = .markedUtf8 && bs.isPrefixOf utf8Mark then .ok ""
    else .ok (.ofList (lossy (charset.chunks bs)))

/-- The encoding of a JSON document: its first two characters are ASCII, so the zeros among the
first bytes tell the width of the units and their order, unless there is a mark. -/
def detect (bs : List UInt8) : Charset :=
  if (orderMark? 4 bs).isSome then .utf32 none
  else if (orderMark? 2 bs).isSome then .utf16 none
  else if utf8Mark.isPrefixOf bs then .markedUtf8
  else match bs with
    | a :: b :: c :: d :: _ =>
      if a = 0 then (if b = 0 then .utf32 (some .big) else .utf16 (some .big))
      else if b = 0 then (if c = 0 && d = 0 then .utf32 (some .little) else .utf16 (some .little))
      else .utf8
    | [a, b] =>
      if a = 0 then .utf16 (some .big) else if b = 0 then .utf16 (some .little) else .utf8
    | _ => .utf8

end Charset

end ConceptQuery.Text
