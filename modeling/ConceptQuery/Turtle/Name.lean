import ConceptQuery.Text.Hex

/-!
# Names in Turtle

The characters that names are made of, and names at the front of a text.

* `Turtle.isNameBase`, `Turtle.isNameStart`, `Turtle.isNameChar` — the character classes;
* `Turtle.nameRun` — the rest of a prefix or label;
* `Turtle.localRun` — the rest of a local name, with its escapes resolved.

A dot belongs to a name only if more of the name follows it.
-/

namespace ConceptQuery.Turtle

open Text

/-- Letters of all scripts. -/
def isNameBase (c : Char) : Bool :=
  let n := c.toNat
  (0x41 ≤ n && n ≤ 0x5A) || (0x61 ≤ n && n ≤ 0x7A) || (0xC0 ≤ n && n ≤ 0xD6)
    || (0xD8 ≤ n && n ≤ 0xF6) || (0xF8 ≤ n && n ≤ 0x2FF) || (0x370 ≤ n && n ≤ 0x37D)
    || (0x37F ≤ n && n ≤ 0x1FFF) || (0x200C ≤ n && n ≤ 0x200D) || (0x2070 ≤ n && n ≤ 0x218F)
    || (0x2C00 ≤ n && n ≤ 0x2FEF) || (0x3001 ≤ n && n ≤ 0xD7FF) || (0xF900 ≤ n && n ≤ 0xFDCF)
    || (0xFDF0 ≤ n && n ≤ 0xFFFD) || (0x10000 ≤ n && n ≤ 0xEFFFF)

/-- Letters and the underscore. -/
def isNameStart (c : Char) : Bool :=
  isNameBase c || c == '_'

/-- Letters, the underscore, the hyphen, digits and combining marks. -/
def isNameChar (c : Char) : Bool :=
  let n := c.toNat
  isNameStart c || c == '-' || c.isDigit || n == 0xB7 || (0x300 ≤ n && n ≤ 0x36F)
    || (0x203F ≤ n && n ≤ 0x2040)

/-- The characters of a prefix or label at the front of a text, and the rest. -/
def nameRun : List Char → List Char × List Char
  | [] => ([], [])
  | c :: rest =>
    if isNameChar c then
      let (name, left) := nameRun rest
      (c :: name, left)
    else if c = '.' then
      match nameRun rest with
      | ([], _) => ([], c :: rest)
      | (name, left) => (c :: name, left)
    else ([], c :: rest)

/-- The characters that a backslash brings into a local name. -/
def isEscapable (c : Char) : Bool :=
  "_~.-!$&'()*+,;=/?#@%".toList.contains c

/-- Whether a character is a hexadecimal digit. -/
def isHexDigit (c : Char) : Bool :=
  (hexValue? c).isSome

/-- The characters of a local name at the front of a text, and the rest. -/
def localRun : List Char → List Char × List Char
  | [] => ([], [])
  | c :: rest =>
    if isNameChar c || c = ':' then
      let (name, left) := localRun rest
      (c :: name, left)
    else if c = '.' then
      match localRun rest with
      | ([], _) => ([], c :: rest)
      | (name, left) => (c :: name, left)
    else if c = '%' then
      match rest with
      | a :: b :: more =>
        if isHexDigit a && isHexDigit b then
          let (name, left) := localRun more
          (c :: a :: b :: name, left)
        else ([], c :: rest)
      | _ => ([], c :: rest)
    else if c = '\\' then
      match rest with
      | e :: more =>
        if isEscapable e then
          let (name, left) := localRun more
          (e :: name, left)
        else ([], c :: rest)
      | _ => ([], c :: rest)
    else ([], c :: rest)

/-- Whether a character may begin a local name. -/
def isLocalStart (c : Char) : Bool :=
  isNameStart c || c == ':' || c.isDigit || c == '%' || c == '\\'

/-- A local name at the front of a text, which may be empty, and the rest. -/
def takeLocal (s : List Char) : List Char × List Char :=
  match s with
  | [] => ([], [])
  | c :: _ => if isLocalStart c then localRun s else ([], s)

end ConceptQuery.Turtle
