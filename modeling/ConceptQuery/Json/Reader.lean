import ConceptQuery.Json.Value
import ConceptQuery.Json.Fault
import ConceptQuery.Text.Hex

/-!
# Reading JSON

The grammar of RFC 8259 with the literals `NaN`, `Infinity` and `-Infinity`.  Every reader takes
characters off the front of a list and returns what it read and the rest.

* `Json.Limits` — what a reader refuses although the grammar allows it;
* `Json.stringBody` — the rest of a string after its opening quote;
* `Json.readNumber` — a number;
* `Json.readValue`, `Json.readElements`, `Json.readMembers` — values and the insides of
  containers, by recursion on a bound on the number of steps;
* `Json.readUnmarked`, `Json.readText` — a whole text, the latter with a check for a mark.
-/

namespace ConceptQuery.Json

open Text

/-- What a reader refuses although the grammar allows it. -/
structure Limits where
  /-- The deepest nesting of arrays and objects. -/
  depth : Option Nat
  /-- Whether the limit on digits also holds for the whole part of floating numbers. -/
  floatDigits : Bool
deriving Repr, DecidableEq

/-- The limits of documents exchanged with services. -/
def Limits.lenient : Limits := ⟨none, false⟩

/-- The limits of texts whose content is validated. -/
def Limits.strict : Limits := ⟨some 200, true⟩

/-- The four characters that JSON allows between tokens. -/
def isSpace (c : Char) : Bool :=
  c == ' ' || c == '\t' || c == '\n' || c == '\r'

/-- The text after the blanks at its front. -/
def skipSpace (s : List Char) : List Char :=
  s.dropWhile isSpace

/-- The text after a given character at its front. -/
def accept? (c : Char) : List Char → Option (List Char)
  | [] => none
  | d :: rest => if d = c then some rest else none

/-- The character that a short escape stands for. -/
def shortEscape? (c : Char) : Option Char :=
  if c = '"' || c = '\\' || c = '/' then some c
  else if c = 'b' then some '\x08'
  else if c = 'f' then some '\x0c'
  else if c = 'n' then some '\n'
  else if c = 'r' then some '\r'
  else if c = 't' then some '\t'
  else none

/-- Whether a code unit is the first half of a surrogate pair. -/
def isHighSurrogate (n : Nat) : Bool :=
  0xD800 ≤ n && n < 0xDC00

/-- Whether a code unit is the second half of a surrogate pair. -/
def isLowSurrogate (n : Nat) : Bool :=
  0xDC00 ≤ n && n < 0xE000

/-- The character of a surrogate pair. -/
def joinSurrogates (high low : Nat) : Char :=
  Char.ofNat (0x10000 + (high - 0xD800) * 0x400 + (low - 0xDC00))

/-- Four hexadecimal digits at the front of a text, as a number, and the rest. -/
def takeUnit? : List Char → Option (Nat × List Char)
  | a :: b :: c :: d :: rest => (hexNumber? [a, b, c, d]).map fun n => (n, rest)
  | _ => none

/-- The text after a word at its front. -/
def dropWord? : List Char → List Char → Option (List Char)
  | [], s => some s
  | c :: word, d :: s => if c = d then dropWord? word s else none
  | _ :: _, [] => none

/-- The second half of a surrogate pair; the text follows the first half. -/
def readLowHalf (high : Nat) (s : List Char) : Except Fault (Char × List Char) :=
  match dropWord? ['\\', 'u'] s with
  | none => .error ⟨.loneSurrogate, s.length⟩
  | some rest =>
    match takeUnit? rest with
    | none => .error ⟨.badUnicodeEscape, rest.length + 1⟩
    | some (low, left) =>
      if isLowSurrogate low then .ok (joinSurrogates high low, left)
      else .error ⟨.loneSurrogate, s.length⟩

/-- The character of an escape after `\u`; a character must follow the digits. -/
def readUnicodeEscape (s : List Char) : Except Fault (Char × List Char) :=
  if (s.drop 4).isEmpty then .error ⟨.badUnicodeEscape, s.length + 1⟩
  else match takeUnit? s with
    | none => .error ⟨.badUnicodeEscape, s.length + 1⟩
    | some (n, rest) =>
      if isHighSurrogate n then readLowHalf n rest
      else if isLowSurrogate n then .error ⟨.loneSurrogate, s.length⟩
      else .ok (Char.ofNat n, rest)

/-- The character of an escape after its backslash; `start` is the number of characters left at
the opening quote of the string. -/
def readEscape (start : Nat) : List Char → Except Fault (Char × List Char)
  | [] => .error ⟨.unterminatedString, start⟩
  | c :: rest =>
    if c = 'u' then readUnicodeEscape rest
    else match shortEscape? c with
      | some e => .ok (e, rest)
      | none => .error ⟨.unknownEscape, rest.length + 2⟩

theorem takeUnit?_length {s left : List Char} {n : Nat} (h : takeUnit? s = some (n, left)) :
    left.length + 4 = s.length := by
  unfold takeUnit? at h
  split at h
  · obtain ⟨_, _, e⟩ := Option.map_eq_some_iff.1 h
    cases e
    simp only [List.length_cons]
  · cases h

theorem dropWord?_length {word s left : List Char} (h : dropWord? word s = some left) :
    left.length + word.length = s.length := by
  induction word generalizing s with
  | nil => cases h; rfl
  | cons c word ih =>
    cases s with
    | nil => cases h
    | cons d s =>
      rw [dropWord?] at h
      split at h
      · simp only [List.length_cons, ← ih h, Nat.add_assoc]
      · cases h

theorem readLowHalf_length {high : Nat} {s left : List Char} {c : Char}
    (h : readLowHalf high s = .ok (c, left)) : left.length < s.length := by
  unfold readLowHalf at h
  split at h
  · cases h
  · next hw =>
    have hs := dropWord?_length hw
    split at h
    · cases h
    · next hu =>
      have := takeUnit?_length hu
      split at h
      · obtain ⟨-, rfl⟩ := Prod.mk.inj (Except.ok.inj h)
        simp only [List.length_cons, List.length_nil] at hs
        omega
      · cases h

theorem readUnicodeEscape_length {s left : List Char} {c : Char}
    (h : readUnicodeEscape s = .ok (c, left)) : left.length < s.length := by
  unfold readUnicodeEscape at h
  split at h
  · cases h
  · split at h
    · cases h
    · next hu =>
      have hl := takeUnit?_length hu
      split at h
      · have := readLowHalf_length h
        omega
      · split at h
        · cases h
        · obtain ⟨-, rfl⟩ := Prod.mk.inj (Except.ok.inj h)
          omega

/-- An escape takes at least one character. -/
theorem readEscape_length {start : Nat} {s left : List Char} {c : Char}
    (h : readEscape start s = .ok (c, left)) : left.length < s.length := by
  unfold readEscape at h
  split at h
  · cases h
  · split at h
    · have := readUnicodeEscape_length h
      simp only [List.length_cons]
      omega
    · split at h <;> cases h
      simp only [List.length_cons]
      omega

/-- The rest of a string after its opening quote; `start` is the number of characters left at that
quote. -/
def stringBody (start : Nat) : List Char → Except Fault (List Char × List Char)
  | [] => .error ⟨.unterminatedString, start⟩
  | c :: rest =>
    if c = '"' then .ok ([], rest)
    else if c = '\\' then
      match _h : readEscape start rest with
      | .error f => .error f
      | .ok (e, left) => (stringBody start left).map fun (text, after) => (e :: text, after)
    else if c.toNat < 0x20 then .error ⟨.controlCharacter, rest.length + 1⟩
    else (stringBody start rest).map fun (text, after) => (c :: text, after)
termination_by s => s.length
decreasing_by
  · have := readEscape_length _h
    simp only [List.length_cons]
    omega
  · simp only [List.length_cons]
    omega

/-- A run of digits at the front of a text, and the rest. -/
def takeDigits (s : List Char) : List Char × List Char :=
  s.span Char.isDigit

/-- The whole part of a number: a zero, or digits without a leading zero. -/
def takeWhole? : List Char → Option (List Char × List Char)
  | [] => none
  | c :: rest =>
    if c = '0' then some (['0'], rest)
    else if c.isDigit then
      let (ds, left) := takeDigits rest
      some (c :: ds, left)
    else none

/-- A point with digits behind it, if the text begins so: the digits and the rest. -/
def takePoint (s : List Char) : Option (List Char) × List Char :=
  match accept? '.' s with
  | none => (none, s)
  | some rest =>
    match takeDigits rest with
    | ([], _) => (none, s)
    | (ds, left) => (some ds, left)

/-- A power of ten, if the text begins with one: its exponent and the rest. -/
def takePower (s : List Char) : Option Int × List Char :=
  match s with
  | c :: rest =>
    if c = 'e' || c = 'E' then
      let (negative, digits) := takeSign rest
      match takeDigits digits with
      | ([], _) => (none, s)
      | (ds, left) => (some (Binary64.signed negative (decimalValue ds)), left)
    else (none, s)
  | [] => (none, s)

/-- A number at the front of a text. `negative` tells whether a minus sign was taken, and `start`
is the number of characters left where the number begins. -/
def readNumber (limits : Limits) (start : Nat) (negative : Bool) (s : List Char) :
    Except Fault (Json × List Char) :=
  match takeWhole? s with
  | none => .error ⟨.expectingValue, start⟩
  | some (whole, rest) =>
    let (fraction, rest) := takePoint rest
    let (power, rest) := takePower rest
    let isWhole := fraction.isNone && power.isNone
    if (isWhole || limits.floatDigits) && digitLimit < whole.length then
      .error ⟨.tooManyDigits whole.length, start⟩
    else if isWhole then .ok (.integer (Binary64.signed negative (decimalValue whole)), rest)
    else
      let digits := fraction.getD []
      .ok (.float (.ofDecimal negative (decimalValue (whole ++ digits))
        (power.getD 0 - digits.length)), rest)

/-- The literals other than strings and numbers, with their values. -/
def literals : List (List Char × Json) := [
  ("null".toList, .null), ("true".toList, .bool true), ("false".toList, .bool false),
  ("NaN".toList, .float .nan), ("Infinity".toList, .float (.infinity false)),
  ("-Infinity".toList, .float (.infinity true))]

/-- A literal or a number at the front of a text. -/
def readScalar (limits : Limits) (s : List Char) : Except Fault (Json × List Char) :=
  match literals.findSome? fun (word, value) => (dropWord? word s).map fun rest => (value, rest) with
  | some found => .ok found
  | none =>
    match accept? '-' s with
    | some rest => readNumber limits s.length true rest
    | none => readNumber limits s.length false s

/-- A string at the front of a text, if a quote is there. -/
def readString? (s : List Char) : Option (Except Fault (String × List Char)) :=
  (accept? '"' s).map fun rest =>
    (stringBody s.length rest).map fun (text, left) => (String.ofList text, left)

/-- A name and the colon behind it; the text begins at the name. -/
def readName (s : List Char) : Except Fault (String × List Char) :=
  match readString? s with
  | none => .error ⟨.expectingName, s.length⟩
  | some (.error f) => .error f
  | some (.ok (name, left)) =>
    match accept? ':' (skipSpace left) with
    | some after => .ok (name, skipSpace after)
    | none => .error ⟨.expectingColon, (skipSpace left).length⟩

mutual

/-- A value at the front of a text without leading blanks; `depth` is the nesting that is still
allowed. -/
def readValue (limits : Limits) : (fuel : Nat) → (depth : Option Nat) → List Char →
    Except Fault (Json × List Char)
  | 0, _, s => .error ⟨.outOfFuel, s.length⟩
  | fuel + 1, depth, s =>
    match readString? s with
    | some r => r.map fun (text, left) => (.string text, left)
    | none =>
      match accept? '[' s, accept? '\x7b' s with
      | some rest, _ =>
        if depth = some 0 then .error ⟨.tooDeep, s.length⟩
        else match accept? ']' (skipSpace rest) with
          | some left => .ok (.array [], left)
          | none =>
            (readElements limits fuel (depth.map (· - 1)) (skipSpace rest)).map
              fun (items, left) => (.array items, left)
      | none, some rest =>
        if depth = some 0 then .error ⟨.tooDeep, s.length⟩
        else match accept? '\x7d' (skipSpace rest) with
          | some left => .ok (.object [], left)
          | none =>
            (readMembers limits fuel (depth.map (· - 1)) (skipSpace rest)).map
              fun (members, left) => (.object members, left)
      | none, none => readScalar limits s

/-- The elements of an array up to its closing bracket. -/
def readElements (limits : Limits) : (fuel : Nat) → (depth : Option Nat) → List Char →
    Except Fault (List Json × List Char)
  | 0, _, s => .error ⟨.outOfFuel, s.length⟩
  | fuel + 1, depth, s =>
    match readValue limits fuel depth s with
    | .error f => .error f
    | .ok (value, left) =>
      match accept? ']' (skipSpace left), accept? ',' (skipSpace left) with
      | some after, _ => .ok ([value], after)
      | none, some after =>
        (readElements limits fuel depth (skipSpace after)).map
          fun (values, rest) => (value :: values, rest)
      | none, none => .error ⟨.expectingComma, (skipSpace left).length⟩

/-- The members of an object up to its closing brace. -/
def readMembers (limits : Limits) : (fuel : Nat) → (depth : Option Nat) → List Char →
    Except Fault (List (String × Json) × List Char)
  | 0, _, s => .error ⟨.outOfFuel, s.length⟩
  | fuel + 1, depth, s =>
    match readName s with
    | .error f => .error f
    | .ok (name, afterName) =>
      match readValue limits fuel depth afterName with
      | .error f => .error f
      | .ok (value, left) =>
        match accept? '\x7d' (skipSpace left), accept? ',' (skipSpace left) with
        | some after, _ => .ok ([(name, value)], after)
        | none, some after =>
          (readMembers limits fuel depth (skipSpace after)).map
            fun (members, rest) => ((name, value) :: members, rest)
        | none, none => .error ⟨.expectingComma, (skipSpace left).length⟩

end

/-- Reads a text that holds one value and begins with no mark. -/
def readUnmarked (limits : Limits) (s : List Char) : Except Fault Json :=
  match readValue limits (2 * s.length + 2) limits.depth (skipSpace s) with
  | .error f => .error f
  | .ok (value, left) =>
    match skipSpace left with
    | [] => .ok value
    | after => .error ⟨.extraData, after.length⟩

/-- Reads a text that holds one value; a mark of byte order is refused. -/
def readText (limits : Limits) (s : List Char) : Except Fault Json :=
  if s.head? = some '\ufeff' then .error ⟨.byteOrderMark, s.length⟩ else readUnmarked limits s

end ConceptQuery.Json
