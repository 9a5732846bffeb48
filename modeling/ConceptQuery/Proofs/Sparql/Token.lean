import ConceptQuery.Turtle.Token

/-!
# The tokens of SPARQL texts

The lexical grammar of SPARQL 1.1, as far as simple queries and updates need it, as a machine that
reads a text character by character.  What the machine accepts has these tokens in the whole
language; a text that has anything else in it is refused: long strings, language tags, decimals,
names with marks in them, references that depend on a base.

* `Sparql.Token` — references, names, words, variables, whole numbers, strings and marks;
* `Sparql.unescape?` — a text with its escapes of code points undone;
* `Sparql.Place`, `Sparql.step` — what has been begun but not ended, and what a character does;
* `Sparql.walk`, `Sparql.tokens?` — the tokens of a piece of text and of a whole text.
-/

namespace ConceptQuery.Sparql

open Text

/-- A token of the language. -/
inductive Token where
  | iri (name : String)
  /-- A name with its prefix. -/
  | name (scope part : String)
  | word (text : String)
  | var (name : String)
  | number (n : Nat)
  | string (text : String)
  | mark (c : Char)
  /-- The two carets between a string and its datatype. -/
  | carets
deriving Repr, DecidableEq

/-! ### Escapes of code points -/

/-- The character of hexadecimal digits. -/
def codePoint? (digits : List Char) : Option Char := do
  let n ← hexNumber? digits
  if n.isValidChar then some (Char.ofNat n) else none

/-- A text with its escapes of code points undone. This comes before all else, and only a backslash
that is not itself escaped begins such an escape. -/
def unescape? : List Char → Option (List Char)
  | [] => some []
  | c :: rest =>
    if c = '\\' then
      match rest with
      | 'u' :: h₁ :: h₂ :: h₃ :: h₄ :: left => do
        return (← codePoint? [h₁, h₂, h₃, h₄]) :: (← unescape? left)
      | 'U' :: h₁ :: h₂ :: h₃ :: h₄ :: h₅ :: h₆ :: h₇ :: h₈ :: left => do
        return (← codePoint? [h₁, h₂, h₃, h₄, h₅, h₆, h₇, h₈]) :: (← unescape? left)
      | e :: left => (unescape? left).map ('\\' :: e :: ·)
      | [] => some ['\\']
    else (unescape? rest).map (c :: ·)

/-! ### Characters -/

/-- The characters that may stand between tokens. -/
def isBlank (c : Char) : Bool :=
  [' ', '\t', '\n', '\r'].contains c

/-- Whether a character ends a line. -/
def isLineEnd (c : Char) : Bool :=
  c = '\n' || c = '\r'

/-- Whether a character is a token of its own, whatever follows it. -/
def isMark (c : Char) : Bool :=
  ['\x7b', '\x7d', '(', ')', ';', ','].contains c

/-- Whether a character goes on a run. -/
def isNameChar (c : Char) : Bool :=
  c.isAlphanum || c = '_'

/-- Whether a character ends every run before it. -/
def isDelimiter (c : Char) : Bool :=
  isBlank c || isMark c

/-- Whether a reference stands for itself whatever the base is: it begins with a scheme and has no
segments of dots. -/
def isAbsolute (s : List Char) : Bool :=
  let scheme := s.takeWhile (· != ':')
  !scheme.isEmpty && scheme.all Char.isAlpha && scheme.length < s.length
    && !(s.zip s.tail).contains ('/', '.')

/-! ### Reading character by character -/

/-- What a run of letters, digits and underscores is. -/
inductive Run where
  | word
  /-- A name behind its prefix. -/
  | part (scope : String)
  | var
  | number
deriving Repr, DecidableEq

/-- The token of a run. -/
def Run.token? (r : Run) (read : List Char) : Option Token :=
  match r with
  | .word => some (.word (.ofList read))
  | .part scope => some (.name scope (.ofList read))
  | .var => if read.isEmpty then none else some (.var (.ofList read))
  | .number => if read.all Char.isDigit then some (.number (Nat.ofDigitChars 10 read 0)) else none

/-- What has been begun but not ended, with the characters read of it, the latest first. -/
inductive Place where
  | between
  | comment
  | run (r : Run) (read : List Char)
  | iri (read : List Char)
  /-- Behind the first quote of a string. -/
  | opened
  /-- Behind two quotes, which are an empty string unless a third one follows. -/
  | closed
  | string (read : List Char)
  /-- In a string, behind a backslash. -/
  | escape (read : List Char)
  | caret
  /-- Behind a point, which is a mark unless a digit follows. -/
  | point
deriving Repr, DecidableEq

/-- The tokens that are ended, and what has been begun behind them. -/
abbrev Progress := Option (List Token × Place)

/-- A character between tokens. -/
def start (c : Char) : Progress :=
  if isBlank c then some ([], .between)
  else if isMark c then some ([.mark c], .between)
  else if c = '#' then some ([], .comment)
  else if c = '<' then some ([], .iri [])
  else if c = '"' then some ([], .opened)
  else if c = '?' || c = '$' then some ([], .run .var [])
  else if c = '^' then some ([], .caret)
  else if c = '.' then some ([], .point)
  else if c.isDigit then some ([], .run .number [c])
  else if c.isAlpha then some ([], .run .word [c])
  else none

/-- A character right behind a token that it ends. -/
def startAfter (t : Option Token) (c : Char) : Progress := do
  let t ← t
  let (ts, place) ← start c
  return (t :: ts, place)

/-- A character inside a string. -/
def stringStep (read : List Char) (c : Char) : Progress :=
  if c = '"' then some ([.string (.ofList read.reverse)], .between)
  else if c = '\\' then some ([], .escape read)
  else if isLineEnd c then none
  else some ([], .string (c :: read))

/-- What a character does. -/
def step : Place → Char → Progress
  | .between, c => start c
  | .comment, c => some ([], if isLineEnd c then .between else .comment)
  | .run r read, c =>
    if isNameChar c then some ([], .run r (c :: read))
    else if c = ':' ∧ r = .word then some ([], .run (.part (.ofList read.reverse)) [])
    else if isDelimiter c then startAfter (r.token? read.reverse) c
    else none
  | .iri read, c =>
    if c = '>' then
      if isAbsolute read.reverse then some ([.iri (.ofList read.reverse)], .between) else none
    else if Turtle.isIriChar c then some ([], .iri (c :: read))
    else none
  | .opened, c => if c = '"' then some ([], .closed) else stringStep [] c
  | .closed, c => if c = '"' then none else startAfter (some (.string "")) c
  | .string read, c => stringStep read c
  | .escape read, c => (Turtle.shortEscape? c).map fun e => ([], .string (e :: read))
  | .caret, c => if c = '^' then some ([.carets], .between) else none
  | .point, c => if c.isDigit then none else startAfter (some (.mark '.')) c

/-- What a piece of text does. -/
def walk (place : Place) : List Char → Progress
  | [] => some ([], place)
  | c :: rest => do
    let (ts, next) ← step place c
    (walk next rest).map fun (more, last) => (ts ++ more, last)

/-- The tokens that the end of a text ends. -/
def Place.finish : Place → Option (List Token)
  | .between | .comment => some []
  | .run r read => (r.token? read.reverse).map ([·])
  | .closed => some [.string ""]
  | .point => some [.mark '.']
  | _ => none

/-- All tokens of a text. -/
def tokens? (s : String) : Option (List Token) := do
  let (ts, place) ← walk .between (← unescape? s.toList)
  return ts ++ (← place.finish)

end ConceptQuery.Sparql
