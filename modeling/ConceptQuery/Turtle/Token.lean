import ConceptQuery.Turtle.Name

/-!
# Tokens of Turtle

* `Turtle.Token` — the tokens;
* `Turtle.readEscape?` — an escape in a string;
* `Turtle.shortString?`, `Turtle.longString?`, `Turtle.iriBody?` — the rest of a string or of a
  reference after its opening marks;
* `Turtle.number?` — a number;
* `Turtle.token?` — the token at the front of a text;
* `Turtle.tokensFrom` — all tokens of a text.
-/

namespace ConceptQuery.Turtle

open Text

/-- What follows the closing quote of a string. -/
inductive Suffix where
  | plain
  | language (tag : String)
  /-- A datatype, which is the next token. -/
  | datatype
deriving Repr, DecidableEq

/-- The three notations of numbers. -/
inductive NumberKind where
  | integer
  | decimal
  | double
deriving Repr, DecidableEq

/-- A token. -/
inductive Token where
  /-- A reference between angle brackets. -/
  | iri (reference : String)
  /-- A prefix and a local name. -/
  | name (scope rest : String)
  /-- The label of a blank node. -/
  | blank (label : String)
  | string (text : String) (suffix : Suffix)
  | number (kind : NumberKind) (lexical : String)
  /-- A bare word. -/
  | word (text : String)
  /-- A word after an at sign. -/
  | directive (text : String)
  /-- A punctuation mark. -/
  | mark (c : Char)
deriving Repr, DecidableEq

/-- The blanks between tokens. -/
def isSpace (c : Char) : Bool :=
  c == ' ' || c == '\t' || c == '\r' || c == '\n'

/-- Whether a character ends a line. -/
def isLineEnd (c : Char) : Bool :=
  c == '\r' || c == '\n'

/-- The text after the blanks and comments at its front; `inComment` tells whether it begins
within a comment. -/
def skipFrom (inComment : Bool) : List Char → List Char
  | [] => []
  | c :: rest =>
    if inComment then skipFrom (!isLineEnd c) rest
    else if isSpace c then skipFrom false rest
    else if c = '#' then skipFrom true rest
    else c :: rest

/-- The text after the blanks and comments at its front. -/
def skip (s : List Char) : List Char :=
  skipFrom false s

/-- The character of a code point that is written with a number of digits at the front. -/
def codePoint? (digits : Nat) (s : List Char) : Option (Char × List Char) :=
  if s.length < digits then none
  else match hexNumber? (s.take digits) with
    | none => none
    | some n => if n.isValidChar then some (Char.ofNat n, s.drop digits) else none

/-- A numeric escape after its backslash. -/
def numericEscape? : List Char → Option (Char × List Char)
  | [] => none
  | c :: rest => if c = 'u' then codePoint? 4 rest else if c = 'U' then codePoint? 8 rest else none

/-- The character of a short escape. -/
def shortEscape? (c : Char) : Option Char :=
  if c = 't' then some '\t'
  else if c = 'b' then some '\x08'
  else if c = 'n' then some '\n'
  else if c = 'r' then some '\r'
  else if c = 'f' then some '\x0c'
  else if c = '"' || c = '\'' || c = '\\' then some c
  else none

/-- An escape in a string, after its backslash. -/
def readEscape? : List Char → Option (Char × List Char)
  | [] => none
  | c :: rest =>
    match shortEscape? c with
    | some e => some (e, rest)
    | none => numericEscape? (c :: rest)

theorem codePoint?_length {digits : Nat} {s left : List Char} {c : Char}
    (h : codePoint? digits s = some (c, left)) : left.length ≤ s.length := by
  unfold codePoint? at h
  split at h
  · cases h
  · split at h
    · cases h
    · split at h
      · obtain ⟨-, rfl⟩ := Prod.mk.inj (Option.some.inj h)
        simp only [List.length_drop]
        omega
      · cases h

theorem numericEscape?_length {s left : List Char} {c : Char}
    (h : numericEscape? s = some (c, left)) : left.length < s.length := by
  cases s with
  | nil => cases h
  | cons d rest =>
    rw [numericEscape?] at h
    simp only [List.length_cons]
    split at h
    · have := codePoint?_length h
      omega
    · split at h
      · have := codePoint?_length h
        omega
      · cases h

theorem readEscape?_length {s left : List Char} {c : Char}
    (h : readEscape? s = some (c, left)) : left.length < s.length := by
  cases s with
  | nil => cases h
  | cons d rest =>
    rw [readEscape?] at h
    split at h
    · obtain ⟨-, rfl⟩ := Prod.mk.inj (Option.some.inj h)
      simp only [List.length_cons]
      omega
    · exact numericEscape?_length h

/-- The rest of a string on one line, up to its closing quote. -/
def shortString? (quote : Char) : List Char → Option (List Char × List Char)
  | [] => none
  | c :: rest =>
    if c = quote then some ([], rest)
    else if c = '\\' then
      match _h : readEscape? rest with
      | none => none
      | some (e, left) => (shortString? quote left).map fun (text, after) => (e :: text, after)
    else if isLineEnd c then none
    else (shortString? quote rest).map fun (text, after) => (c :: text, after)
termination_by s => s.length
decreasing_by
  · have := readEscape?_length _h
    simp only [List.length_cons]
    omega
  · simp only [List.length_cons]
    omega

/-- The rest of a string of several lines, up to its three closing quotes. -/
def longString? (quote : Char) : List Char → Option (List Char × List Char)
  | [] => none
  | c :: rest =>
    if c = quote ∧ rest.take 2 = [quote, quote] then some ([], rest.drop 2)
    else if c = '\\' then
      match _h : readEscape? rest with
      | none => none
      | some (e, left) => (longString? quote left).map fun (text, after) => (e :: text, after)
    else (longString? quote rest).map fun (text, after) => (c :: text, after)
termination_by s => s.length
decreasing_by
  · have := readEscape?_length _h
    simp only [List.length_cons]
    omega
  · simp only [List.length_cons]
    omega

/-- Whether a character may stand in a reference. -/
def isIriChar (c : Char) : Bool :=
  0x20 < c.toNat && !("<>\"\x7b\x7d|^`\\".toList.contains c)

/-- The rest of a reference, up to its closing bracket. -/
def iriBody? : List Char → Option (List Char × List Char)
  | [] => none
  | c :: rest =>
    if c = '>' then some ([], rest)
    else if c = '\\' then
      match _h : numericEscape? rest with
      | none => none
      | some (e, left) => (iriBody? left).map fun (text, after) => (e :: text, after)
    else if isIriChar c then (iriBody? rest).map fun (text, after) => (c :: text, after)
    else none
termination_by s => s.length
decreasing_by
  · have := numericEscape?_length _h
    simp only [List.length_cons]
    omega
  · simp only [List.length_cons]
    omega

/-- A language tag: letters, then parts of letters and digits after hyphens. -/
def languageTag? (s : List Char) : Option (List Char × List Char) :=
  let (run, left) := s.span fun c => c.isAlphanum || c == '-'
  let parts := (String.ofList run).splitOn "-"
  match parts with
  | [] => none
  | first :: _ =>
    if parts.all (!·.isEmpty) && first.toList.all Char.isAlpha then some (run, left) else none

/-- The suffix behind the closing quote of a string. -/
def takeSuffix? : List Char → Option (Suffix × List Char)
  | '@' :: rest =>
    (languageTag? rest).map fun (tag, left) =>
      (.language (String.ofList (tag.map Char.toLower)), left)
  | '^' :: '^' :: rest => some (.datatype, rest)
  | s => some (.plain, s)

/-- A string, given the text after its first quote. -/
def stringToken? (quote : Char) (s : List Char) : Option (Token × List Char) := do
  let (text, left) ←
    if s.take 2 = [quote, quote] then longString? quote (s.drop 2) else shortString? quote s
  let (suffix, after) ← takeSuffix? left
  return (.string (String.ofList text) suffix, after)

/-- An exponent at the front of a text, if one is there. -/
def exponent? : List Char → Option (List Char × List Char)
  | e :: rest =>
    if e = 'e' || e = 'E' then
      let sign := rest.takeWhile fun c => c == '+' || c == '-'
      let (digits, left) := (rest.drop sign.length).span Char.isDigit
      if sign.length ≤ 1 && !digits.isEmpty then some (e :: (sign ++ digits), left) else none
    else none
  | [] => none

/-- An unsigned number at the front of a text. -/
def unsigned? (s : List Char) : Option (NumberKind × List Char × List Char) :=
  let (whole, rest) := s.span Char.isDigit
  match rest with
  | '.' :: afterPoint =>
    let (fraction, left) := afterPoint.span Char.isDigit
    if whole.isEmpty && fraction.isEmpty then none
    else match exponent? left with
      | some (power, after) => some (.double, whole ++ '.' :: fraction ++ power, after)
      | none =>
        if fraction.isEmpty then some (.integer, whole, rest)
        else some (.decimal, whole ++ '.' :: fraction, left)
  | _ =>
    if whole.isEmpty then none
    else match exponent? rest with
      | some (power, after) => some (.double, whole ++ power, after)
      | none => some (.integer, whole, rest)

/-- A number at the front of a text. -/
def number? (s : List Char) : Option (Token × List Char) :=
  let sign := if s.head? = some '+' || s.head? = some '-' then s.take 1 else []
  (unsigned? (s.drop sign.length)).map fun (kind, lexical, left) =>
    (.number kind (String.ofList (sign ++ lexical)), left)

/-- A label of a blank node, after its underscore and colon. -/
def label? (s : List Char) : Option (Token × List Char) :=
  match s with
  | c :: _ =>
    if isNameStart c || c.isDigit then
      let (label, left) := nameRun s
      some (.blank (String.ofList label), left)
    else none
  | [] => none

/-- A word or a prefixed name; the text may also begin with the colon of an empty prefix. -/
def nameToken? (s : List Char) : Option (Token × List Char) :=
  let (scope, left) := match s with
    | c :: _ => if isNameBase c then nameRun s else ([], s)
    | [] => ([], s)
  match left with
  | ':' :: rest =>
    let (name, after) := takeLocal rest
    some (.name (String.ofList scope) (String.ofList name), after)
  | _ => if scope.isEmpty then none else some (.word (String.ofList scope), left)

/-- A word after an at sign. -/
def directive? (s : List Char) : Option (Token × List Char) :=
  let (word, left) := s.span Char.isAlpha
  if word.isEmpty then none else some (.directive (String.ofList word), left)

/-- The punctuation marks. -/
def isMark (c : Char) : Bool :=
  ".;,[]()".toList.contains c

/-- The token at the front of a text. A point with a digit behind it begins a number. -/
def token? (s : List Char) : Option (Token × List Char) :=
  match s with
  | [] => none
  | c :: rest =>
    if c = '<' then
      (iriBody? rest).map fun (text, left) => (.iri (String.ofList text), left)
    else if c = '"' || c = '\'' then stringToken? c rest
    else if c = '@' then directive? rest
    else if c = '_' then
      match rest with
      | ':' :: label => label? label
      | _ => none
    else if c.isDigit || c = '+' || c = '-' || (c = '.' && (rest.head?.any Char.isDigit)) then
      number? s
    else if isMark c then some (.mark c, rest)
    else nameToken? s

/-- The tokens of a text; each must take at least one character. -/
def tokensFrom (s : List Char) : Option (List Token) :=
  match skip s with
  | [] => some []
  | c :: rest =>
    match token? (c :: rest) with
    | none => none
    | some (t, left) =>
      if left.length < s.length then (tokensFrom left).map (t :: ·) else none
termination_by s.length

end ConceptQuery.Turtle
