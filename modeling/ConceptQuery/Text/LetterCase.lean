import ConceptQuery.Text.LetterCase.Table

/-!
# Letter case

Full case mapping of texts after Unicode 14.

* `lowerChar`, `upperChar` — the images of a single character;
* `isFinalSigma` — whether a capital sigma between two texts ends a word;
* `toLower`, `toUpper` — the images of a text.
-/

namespace ConceptQuery.Text

/-- The lower case of a character outside any context; capital dotted I is the one character with
two characters as its image. -/
def lowerChar (c : Char) : List Char :=
  if c.toNat = 0x130 then ['i', Char.ofNat 0x307] else [Char.ofNat (Run.image lowerRuns c.toNat)]

/-- The upper case of a character. -/
def upperChar (c : Char) : List Char :=
  match upperSpecial.find? (·.1 == c.toNat) with
  | some (_, image) => image.map Char.ofNat
  | none => [Char.ofNat (Run.image upperRuns c.toNat)]

/-- Whether the first character that is not passed over has a letter case. -/
def startsCased (s : List Char) : Bool :=
  match s.dropWhile (fun c => Span.covers caseIgnorable c.toNat) with
  | [] => false
  | c :: _ => Span.covers cased c.toNat

/-- A capital sigma ends a word if a cased letter comes before it and none after it; `before` is
the preceding text, last character first. -/
def isFinalSigma (before after : List Char) : Bool :=
  startsCased before && !startsCased after

/-- Lower case of the rest of a text, given the text before it, last character first. -/
def lowerAfter (before : List Char) : List Char → List Char
  | [] => []
  | c :: rest =>
    (if c.toNat = 0x3A3 then [Char.ofNat (if isFinalSigma before rest then 0x3C2 else 0x3C3)]
      else lowerChar c) ++ lowerAfter (c :: before) rest

/-- The lower case of a text. -/
def toLower (s : String) : String :=
  .ofList (lowerAfter [] s.toList)

/-- The upper case of a text. -/
def toUpper (s : String) : String :=
  .ofList (s.toList.flatMap upperChar)

end ConceptQuery.Text
