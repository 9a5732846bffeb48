import ConceptQuery.GraphQL.Quoted
import ConceptQuery.Intent.Validation
import ConceptQuery.Proofs.Text.Spelling

/-!
# The tokens of GraphQL texts

The lexical grammar of the language, as far as executable documents without block strings,
fractions and spreads need it.  A text that has anything else in it is refused.

* `GraphQL.Token` — punctuators, names, whole numbers and strings;
* `GraphQL.stringBody?`, `GraphQL.readString?` — a string with its escapes undone;
* `GraphQL.takeToken?`, `GraphQL.tokenize` — one token, and all of them; blanks, line ends, commas
  and comments stand between tokens and are passed over;
* `stringBody?_escape`, `readString?_escape`, `takeToken?_quote` — a quoted text is read back.
-/

namespace ConceptQuery.GraphQL

open Text

/-- A token of the language. -/
inductive Token where
  | punctuator (c : Char)
  | name (text : String)
  | int (number : Int)
  | string (text : String)
deriving Repr, DecidableEq

/-! ### Characters -/

/-- Blanks, line ends, commas and the mark of byte order stand between tokens. -/
def isIgnored (c : Char) : Bool :=
  [' ', '\t', '\n', '\r', ',', '\ufeff'].contains c

/-- Whether a character ends a line. -/
def isLineEnd (c : Char) : Bool :=
  c = '\n' || c = '\r'

/-- Whether a character is a token of its own. -/
def isPunctuator (c : Char) : Bool :=
  ['!', '$', '&', '(', ')', ':', '=', '@', '[', ']', '\x7b', '|', '\x7d'].contains c

/-- Whether a character may go on a name. -/
def isNameContinue (c : Char) : Bool :=
  Intent.isNameStart c || c.isDigit

/-- Whether a character after a number makes it something else than a whole number. -/
def spoilsNumber (c : Char) : Bool :=
  c = '.' || Intent.isNameStart c

/-! ### Strings -/

/-- The characters that escapes of one character stand for. -/
def escapedChars : List (Char × Char) :=
  [('"', '"'), ('\\', '\\'), ('/', '/'), ('b', '\x08'), ('f', '\x0c'), ('n', '\n'), ('r', '\r'),
    ('t', '\t')]

/-- The character of four hexadecimal digits; surrogates are no characters. -/
def escapedCodePoint? (digits : List Char) : Option Char := do
  let n ← hexNumber? digits
  if n.isValidChar then some (Char.ofNat n) else none

/-- Whether a character may not stand in a string by itself. -/
def isRawControl (c : Char) : Bool :=
  c.toNat < 0x20 && c ≠ '\t'

/-- A character in front of the text of a string, if there is both. -/
def withChar (c : Option Char) (body : Option (List Char × List Char)) :
    Option (List Char × List Char) := do
  let c ← c
  let (text, after) ← body
  return (c :: text, after)

/-- The text of a string and what follows its closing quote; the text begins after the opening
one. -/
def stringBody? : List Char → Option (List Char × List Char)
  | [] => none
  | c :: rest =>
    if c = '"' then some ([], rest)
    else if c = '\\' then
      match rest with
      | 'u' :: h₁ :: h₂ :: h₃ :: h₄ :: left =>
        withChar (escapedCodePoint? [h₁, h₂, h₃, h₄]) (stringBody? left)
      | d :: left => withChar (escapedChars.lookup d) (stringBody? left)
      | [] => none
    else if isRawControl c then none
    else withChar (some c) (stringBody? rest)

/-- A string after its opening quote. Three quotes begin a block string, which is refused. -/
def readString? (s : List Char) : Option (List Char × List Char) :=
  if s.take 2 = ['"', '"'] then none else stringBody? s

/-! ### Tokens -/

/-- A whole number and what follows it. Digits do not begin with a zero, unless it is all there
is. -/
def wholeNumber? (s : List Char) : Option (Nat × List Char) :=
  let ds := s.takeWhile Char.isDigit
  let rest := s.dropWhile Char.isDigit
  if ds.isEmpty || (ds.head? = some '0' && ds ≠ ['0']) || rest.head?.any spoilsNumber then none
  else some (Nat.ofDigitChars 10 ds 0, rest)

/-- The token that begins with a character, and what follows it. -/
def takeToken? (c : Char) (rest : List Char) : Option (Token × List Char) :=
  if isPunctuator c then some (.punctuator c, rest)
  else if Intent.isNameStart c then
    some (.name (.ofList (c :: rest.takeWhile isNameContinue)), rest.dropWhile isNameContinue)
  else if c = '"' then (readString? rest).map fun (text, left) => (.string (.ofList text), left)
  else if c = '-' then (wholeNumber? rest).map fun (n, left) => (.int (-n), left)
  else (wholeNumber? (c :: rest)).map fun (n, left) => (.int n, left)

theorem withChar_eq_some {c : Option Char} {body : Option (List Char × List Char)}
    {text left : List Char} (h : withChar c body = some (text, left)) :
    ∃ rest, body = some (rest, left) := by
  simp only [withChar, Option.bind_eq_bind, Option.bind_eq_some_iff] at h
  obtain ⟨_, _, ⟨t, l⟩, hl, he⟩ := h
  obtain ⟨-, rfl⟩ := Prod.mk.inj (Option.some.inj he)
  exact ⟨t, hl⟩

theorem stringBody?_length {s text left : List Char} (h : stringBody? s = some (text, left)) :
    left.length < s.length := by
  fun_induction stringBody? s generalizing text with
  | case1 => cases h
  | case2 =>
    obtain ⟨-, rfl⟩ := Prod.mk.inj (Option.some.inj h)
    exact Nat.lt_succ_self _
  | case3 _ _ _ _ _ _ ih =>
    obtain ⟨_, hb⟩ := withChar_eq_some h
    have := ih hb
    simp only [List.length_cons]
    omega
  | case4 _ _ _ _ ih =>
    obtain ⟨_, hb⟩ := withChar_eq_some h
    have := ih hb
    simp only [List.length_cons]
    omega
  | case5 => cases h
  | case6 => cases h
  | case7 _ _ _ _ _ ih =>
    obtain ⟨_, hb⟩ := withChar_eq_some h
    have := ih hb
    simp only [List.length_cons]
    omega

theorem wholeNumber?_length {s left : List Char} {n : Nat}
    (h : wholeNumber? s = some (n, left)) : left.length < s.length := by
  simp only [wholeNumber?] at h
  split at h
  · cases h
  · next hn =>
    obtain ⟨-, rfl⟩ := Prod.mk.inj (Option.some.inj h)
    have hd : s.takeWhile Char.isDigit ≠ [] := by
      intro he
      simp [he] at hn
    have hl : (s.takeWhile Char.isDigit ++ s.dropWhile Char.isDigit).length = s.length := by
      rw [List.takeWhile_append_dropWhile]
    rw [List.length_append] at hl
    have := List.length_pos_iff.2 hd
    omega

/-- A token takes at least its first character. -/
theorem takeToken?_length {c : Char} {rest left : List Char} {t : Token}
    (h : takeToken? c rest = some (t, left)) : left.length ≤ rest.length := by
  simp only [takeToken?] at h
  split at h
  · obtain ⟨-, rfl⟩ := Prod.mk.inj (Option.some.inj h)
    exact Nat.le_refl _
  · split at h
    · obtain ⟨-, rfl⟩ := Prod.mk.inj (Option.some.inj h)
      exact (List.dropWhile_suffix _).length_le
    · split at h
      · obtain ⟨⟨text, l⟩, hl, he⟩ := Option.map_eq_some_iff.1 h
        obtain ⟨-, rfl⟩ := Prod.mk.inj he
        simp only [readString?] at hl
        split at hl
        · cases hl
        · exact Nat.le_of_lt (stringBody?_length hl)
      · split at h
        · obtain ⟨⟨n, l⟩, hl, he⟩ := Option.map_eq_some_iff.1 h
          obtain ⟨-, rfl⟩ := Prod.mk.inj he
          exact Nat.le_of_lt (wholeNumber?_length hl)
        · obtain ⟨⟨n, l⟩, hl, he⟩ := Option.map_eq_some_iff.1 h
          obtain ⟨-, rfl⟩ := Prod.mk.inj he
          exact Nat.lt_succ_iff.1 (wholeNumber?_length hl)

/-- All tokens of a text. -/
def tokenize : List Char → Option (List Token)
  | [] => some []
  | c :: rest =>
    if isIgnored c then tokenize rest
    else if c = '#' then tokenize (rest.dropWhile (!isLineEnd ·))
    else
      match _h : takeToken? c rest with
      | none => none
      | some (t, left) => (tokenize left).map (t :: ·)
termination_by s => s.length
decreasing_by
  · exact Nat.lt_succ_self _
  · exact Nat.lt_succ_of_le (List.dropWhile_suffix _).length_le
  · exact Nat.lt_succ_of_le (takeToken?_length _h)

/-! ### Quoted texts -/

theorem escapedCodePoint?_hex4 {n : Nat} (h : n < 0x20) :
    escapedCodePoint? (hex4 n) = some (Char.ofNat n) := by
  have hall : ∀ n < 0x20, escapedCodePoint? (hex4 n) = some (Char.ofNat n) := by decide
  exact hall n h

theorem stringBody?_quote (rest : List Char) : stringBody? ('"' :: rest) = some ([], rest) := by
  rw [stringBody?.eq_def]
  rfl

theorem stringBody?_plain {c : Char} (hq : c ≠ '"') (hb : c ≠ '\\') (hc : isRawControl c = false)
    (rest : List Char) : stringBody? (c :: rest) = withChar (some c) (stringBody? rest) := by
  rw [stringBody?.eq_def]
  simp [hq, hb, hc]

/-- An escaped character is read back. -/
theorem stringBody?_escapeChar (c : Char) (tail : List Char) :
    stringBody? (escapeChar c ++ tail) = withChar (some c) (stringBody? tail) := by
  unfold escapeChar
  split
  · subst_vars; rfl
  split
  · subst_vars; rfl
  split
  · subst_vars; rfl
  split
  · subst_vars; rfl
  split
  · subst_vars; rfl
  split
  · subst_vars; rfl
  split
  · subst_vars; rfl
  split
  · next hc =>
    have hcode := escapedCodePoint?_hex4 hc
    rw [Char.ofNat_toNat] at hcode
    rw [← hcode]
    rfl
  · next hq hb _ _ _ _ _ hc =>
    have hraw : isRawControl c = false := by simp [isRawControl, hc]
    rw [List.cons_append, List.nil_append, stringBody?_plain hq hb hraw]

/-- **A quoted text is read back** up to its closing quote. -/
theorem stringBody?_escape (s rest : List Char) :
    stringBody? (s.flatMap escapeChar ++ '"' :: rest) = some (s, rest) := by
  induction s with
  | nil => exact stringBody?_quote rest
  | cons c s ih =>
    rw [List.flatMap_cons, List.append_assoc, stringBody?_escapeChar, ih]
    rfl

theorem escapeChar_eq_cons (c : Char) : ∃ d rest, escapeChar c = d :: rest ∧ d ≠ '"' := by
  unfold escapeChar
  repeat' split
  all_goals exact ⟨_, _, rfl, by first | decide | assumption⟩

/-- What stands in a string does not begin with a quote. -/
theorem head?_escape (s : List Char) : (s.flatMap escapeChar).head? ≠ some '"' := by
  cases s with
  | nil => simp
  | cons c s =>
    obtain ⟨d, rest, hd, hne⟩ := escapeChar_eq_cons c
    simp [hd, hne]

theorem readString?_escape (s rest : List Char) (h : rest.head? ≠ some '"') :
    readString? (s.flatMap escapeChar ++ '"' :: rest) = some (s, rest) := by
  rw [readString?, if_neg (take_two_ne (head?_escape s) h), stringBody?_escape]

theorem toList_escape (s : String) : (escape s).toList = s.toList.flatMap escapeChar :=
  String.toList_ofList

/-- The string of a quoted text is the token behind its opening quote. -/
theorem takeToken?_quote (s : String) {rest : List Char} (h : rest.head? ≠ some '"') :
    takeToken? '"' ((escape s).toList ++ '"' :: rest) = some (.string s, rest) := by
  rw [toList_escape]
  show (readString? _).map (fun read => (Token.string (.ofList read.1), read.2)) = _
  rw [readString?_escape _ _ h, Option.map_some, String.ofList_toList]

end ConceptQuery.GraphQL
