import ConceptQuery.Json.Reader

/-!
# The grammar of JSON texts

RFC 8259 with the literals `NaN`, `Infinity` and `-Infinity`, as a relation between texts and what
they spell. It speaks of whole texts, where a reader takes characters off the front of one.

* `Json.Blank`, `Json.Digits`, `Json.Sign` — blanks, digits and signs;
* `Json.StringChar`, `Json.StringText` — one character of a string, and the inside of a string;
* `Json.WholePart`, `Json.Fraction`, `Json.Power`, `Json.NumberText` — numbers and their parts;
* `Json.ValueText`, `Json.ElementsText`, `Json.MembersText` — values and the insides of containers;
* `Json.TextOf` — a text that holds one value.
-/

namespace ConceptQuery.Json

open Text

/-- Characters that may stand between tokens. -/
def Blank (s : List Char) : Prop :=
  ∀ c ∈ s, c = ' ' ∨ c = '\t' ∨ c = '\n' ∨ c = '\r'

/-- One or more digits. -/
structure Digits (ds : List Char) : Prop where
  ne_nil : ds ≠ []
  isDigit : ∀ d ∈ ds, d.isDigit = true

/-- A sign that may be absent, and whether it is minus. -/
inductive Sign : List Char → Bool → Prop where
  | absent : Sign [] false
  | plus : Sign ['+'] false
  | minus : Sign ['-'] true

/-! ### Strings -/

/-- The characters that stand behind a backslash, with what they stand for. -/
def shortEscapes : List (Char × Char) :=
  [('"', '"'), ('\\', '\\'), ('/', '/'), ('b', '\x08'), ('f', '\x0c'), ('n', '\n'), ('r', '\r'),
    ('t', '\t')]

/-- One character of a string, and how it is written. -/
inductive StringChar : List Char → Char → Prop where
  | plain {c : Char} (hquote : c ≠ '"') (hbackslash : c ≠ '\\') (hcontrol : 0x20 ≤ c.toNat) :
    StringChar [c] c
  | short {c e : Char} (h : (c, e) ∈ shortEscapes) : StringChar ['\\', c] e
  | unicode {a b c d : Char} {n : Nat} (h : hexNumber? [a, b, c, d] = some n)
    (hchar : n < 0xD800 ∨ 0xE000 ≤ n) : StringChar ['\\', 'u', a, b, c, d] (Char.ofNat n)
  | pair {a b c d a' b' c' d' : Char} {high low : Nat} (h : hexNumber? [a, b, c, d] = some high)
    (h' : hexNumber? [a', b', c', d'] = some low) (hhigh : 0xD800 ≤ high ∧ high < 0xDC00)
    (hlow : 0xDC00 ≤ low ∧ low < 0xE000) :
    StringChar ['\\', 'u', a, b, c, d, '\\', 'u', a', b', c', d'] (joinSurrogates high low)

/-- The inside of a string, and the text that it spells. -/
inductive StringText : List Char → List Char → Prop where
  | nil : StringText [] []
  | cons {u s cs : List Char} {c : Char} (hu : StringChar u c) (hs : StringText s cs) :
    StringText (u ++ s) (c :: cs)

/-! ### Numbers -/

/-- The whole part of a number: a zero, or digits that do not begin with one. -/
inductive WholePart : List Char → Prop where
  | zero : WholePart ['0']
  | digits {c : Char} {ds : List Char} (hc : c.isDigit = true) (hzero : c ≠ '0')
    (hds : ∀ d ∈ ds, d.isDigit = true) : WholePart (c :: ds)

/-- A fraction that may be absent, and its digits. -/
inductive Fraction : List Char → Option (List Char) → Prop where
  | absent : Fraction [] none
  | present {ds : List Char} (h : Digits ds) : Fraction ('.' :: ds) (some ds)

/-- A power of ten that may be absent, and its exponent. -/
inductive Power : List Char → Option Int → Prop where
  | absent : Power [] none
  | present {e : Char} {sign ds : List Char} {negative : Bool} (he : e = 'e' ∨ e = 'E')
    (hsign : Sign sign negative) (hds : Digits ds) :
    Power (e :: (sign ++ ds)) (some (Binary64.signed negative (decimalValue ds)))

/-- A minus sign, if there is one. -/
def minusText (negative : Bool) : List Char :=
  if negative then ['-'] else []

/-- A number, and how it is written: whole if neither a fraction nor a power of ten is there. -/
inductive NumberText (limits : Limits) : List Char → Json → Prop where
  | integer {negative : Bool} {whole : List Char} (hwhole : WholePart whole)
    (hlimit : whole.length ≤ digitLimit) :
    NumberText limits (minusText negative ++ whole)
      (.integer (Binary64.signed negative (decimalValue whole)))
  | float {negative : Bool} {whole f p : List Char} {fraction : Option (List Char)}
    {power : Option Int} (hwhole : WholePart whole) (hf : Fraction f fraction) (hp : Power p power)
    (hfloat : ¬ (fraction = none ∧ power = none))
    (hlimit : limits.floatDigits = true → whole.length ≤ digitLimit) :
    NumberText limits (minusText negative ++ (whole ++ (f ++ p)))
      (.float (.ofDecimal negative (decimalValue (whole ++ fraction.getD []))
        (power.getD 0 - (fraction.getD []).length)))

/-! ### Values -/

mutual

/-- A value, and how it is written; `depth` is the nesting that is allowed. -/
inductive ValueText (limits : Limits) : Option Nat → List Char → Json → Prop where
  | literal {depth : Option Nat} {word : List Char} {v : Json} (h : (word, v) ∈ literals) :
    ValueText limits depth word v
  | number {depth : Option Nat} {t : List Char} {v : Json} (h : NumberText limits t v) :
    ValueText limits depth t v
  | string {depth : Option Nat} {s cs : List Char} (h : StringText s cs) :
    ValueText limits depth ('"' :: (s ++ ['"'])) (.string (String.ofList cs))
  | emptyArray {depth : Option Nat} {b : List Char} (hdepth : depth ≠ some 0) (hb : Blank b) :
    ValueText limits depth ('[' :: (b ++ [']'])) (.array [])
  | array {depth : Option Nat} {s : List Char} {items : List Json} (hdepth : depth ≠ some 0)
    (h : ElementsText limits (depth.map (· - 1)) s items) :
    ValueText limits depth ('[' :: (s ++ [']'])) (.array items)
  | emptyObject {depth : Option Nat} {b : List Char} (hdepth : depth ≠ some 0) (hb : Blank b) :
    ValueText limits depth ('\x7b' :: (b ++ ['\x7d'])) (.object [])
  | object {depth : Option Nat} {s : List Char} {members : List (String × Json)}
    (hdepth : depth ≠ some 0) (h : MembersText limits (depth.map (· - 1)) s members) :
    ValueText limits depth ('\x7b' :: (s ++ ['\x7d'])) (.object members)

/-- The elements of an array, with the commas between them and all blanks. -/
inductive ElementsText (limits : Limits) : Option Nat → List Char → List Json → Prop where
  | last {depth : Option Nat} {b t b' : List Char} {v : Json} (hb : Blank b)
    (hv : ValueText limits depth t v) (hb' : Blank b') :
    ElementsText limits depth (b ++ (t ++ b')) [v]
  | more {depth : Option Nat} {b t b' s : List Char} {v : Json} {vs : List Json} (hb : Blank b)
    (hv : ValueText limits depth t v) (hb' : Blank b') (hs : ElementsText limits depth s vs) :
    ElementsText limits depth (b ++ (t ++ (b' ++ ',' :: s))) (v :: vs)

/-- The members of an object, with the commas between them and all blanks. -/
inductive MembersText (limits : Limits) : Option Nat → List Char → List (String × Json) → Prop where
  | last {depth : Option Nat} {b name cs b₁ b₂ t b' : List Char} {v : Json} (hb : Blank b)
    (hname : StringText name cs) (hb₁ : Blank b₁) (hb₂ : Blank b₂) (hv : ValueText limits depth t v)
    (hb' : Blank b') :
    MembersText limits depth (b ++ '"' :: (name ++ '"' :: (b₁ ++ ':' :: (b₂ ++ (t ++ b')))))
      [(String.ofList cs, v)]
  | more {depth : Option Nat} {b name cs b₁ b₂ t b' s : List Char} {v : Json}
    {vs : List (String × Json)} (hb : Blank b) (hname : StringText name cs) (hb₁ : Blank b₁)
    (hb₂ : Blank b₂) (hv : ValueText limits depth t v) (hb' : Blank b')
    (hs : MembersText limits depth s vs) :
    MembersText limits depth
      (b ++ '"' :: (name ++ '"' :: (b₁ ++ ':' :: (b₂ ++ (t ++ (b' ++ ',' :: s))))))
      ((String.ofList cs, v) :: vs)

end

/-- A text that holds one value, with blanks around it. -/
def TextOf (limits : Limits) (s : List Char) (v : Json) : Prop :=
  ∃ b t b', Blank b ∧ Blank b' ∧ s = b ++ (t ++ b') ∧ ValueText limits limits.depth t v

end ConceptQuery.Json
