import ConceptQuery.Proofs.Text.Spelling
import ConceptQuery.Turtle.Token

/-!
# Strings in one pair of quotes

The grammar of Turtle strings on one line, which is that of SPARQL strings too, and its reader.

* `Turtle.StringChar`, `Turtle.StringText` — the ways to write a character inside a string, and what
  a whole inside says;
* `readEscape?_codePoint`, `shortString?_of_char`, `shortString?_of_text` — what is written is read,
  whatever follows it.
-/

namespace ConceptQuery.Turtle

open Text

/-! ### The grammar -/

/-- The marks of code points, with the number of digits that follow. -/
def codePointWidths : List (Char × Nat) :=
  [('u', 4), ('U', 8)]

/-- A character inside a string, and how it is written. -/
inductive StringChar : List Char → Char → Prop where
  | plain {c : Char} (hquote : c ≠ '"') (hbackslash : c ≠ '\\') (hline : isLineEnd c = false) :
    StringChar [c] c
  | short {d c : Char} (h : shortEscape? d = some c) : StringChar ['\\', d] c
  | codePoint {mark : Char} {digits : List Char} {n : Nat}
      (hmark : (mark, digits.length) ∈ codePointWidths) (h : hexNumber? digits = some n)
      (hvalid : n.isValidChar) : StringChar ('\\' :: mark :: digits) (Char.ofNat n)

/-- The inside of a string, and the text that it says. -/
abbrev StringText : List Char → List Char → Prop :=
  Spelled StringChar

variable {w s text after left : List Char} {c : Char}

/-! ### From the grammar to the reader -/

theorem StringChar.head?_ne {c : Char} (h : StringChar w c) : w.head? ≠ some '"' := by
  cases h with
  | plain hquote _ _ => exact fun heq => hquote (Option.some.inj heq)
  | short => exact fun heq => absurd (Option.some.inj heq) (by decide)
  | codePoint => exact fun heq => absurd (Option.some.inj heq) (by decide)

theorem StringChar.ne_nil {c : Char} (h : StringChar w c) : w ≠ [] := by
  cases h <;> exact List.cons_ne_nil _ _

/-- The inside of a string does not begin with a quote. -/
theorem StringText.head?_ne (h : StringText w s) : w.head? ≠ some '"' := by
  cases h with
  | nil => nofun
  | cons hw _ =>
    obtain ⟨d, w, rfl⟩ := List.exists_cons_of_ne_nil hw.ne_nil
    exact hw.head?_ne

theorem codePoint?_append {digits : List Char} {n : Nat} (h : hexNumber? digits = some n)
    (hvalid : n.isValidChar) (rest : List Char) :
    codePoint? digits.length (digits ++ rest) = some (Char.ofNat n, rest) := by
  have hlong : ¬ (digits ++ rest).length < digits.length := by
    rw [List.length_append]
    omega
  rw [codePoint?, if_neg hlong, List.take_left, List.drop_left, h]
  exact if_pos hvalid

theorem readEscape?_codePoint {mark : Char} {digits : List Char} {n : Nat}
    (hmark : (mark, digits.length) ∈ codePointWidths) (h : hexNumber? digits = some n)
    (hvalid : n.isValidChar) (rest : List Char) :
    readEscape? (mark :: digits ++ rest) = some (Char.ofNat n, rest) := by
  have hread := codePoint?_append h hvalid rest
  simp only [codePointWidths, List.mem_cons, Prod.mk.injEq, List.not_mem_nil, or_false] at hmark
  rcases hmark with ⟨rfl, hlength⟩ | ⟨rfl, hlength⟩
  · rw [hlength] at hread
    exact hread
  · rw [hlength] at hread
    exact hread

theorem readEscape?_short {d : Char} (h : shortEscape? d = some c) (rest : List Char) :
    readEscape? (d :: rest) = some (c, rest) := by
  rw [readEscape?, h]

theorem shortString?_quote (rest : List Char) :
    shortString? '"' ('"' :: rest) = some ([], rest) := by
  rw [shortString?, if_pos rfl]

theorem shortString?_escape {s : List Char} (h : readEscape? s = some (c, left)) :
    shortString? '"' ('\\' :: s)
      = (shortString? '"' left).map fun (text, after) => (c :: text, after) := by
  rw [shortString?, if_neg (by decide), if_pos rfl]
  split
  · next hnone =>
    rw [h] at hnone
    cases hnone
  · next hread =>
    rw [h] at hread
    obtain ⟨rfl, rfl⟩ := Prod.mk.inj (Option.some.inj hread)
    rfl

/-- A written character is read, whatever follows it. -/
theorem shortString?_of_char (h : StringChar w c) (rest : List Char) :
    shortString? '"' (w ++ rest)
      = (shortString? '"' rest).map fun (text, after) => (c :: text, after) := by
  cases h with
  | plain hquote hbackslash hline =>
    rw [List.singleton_append, shortString?, if_neg hquote, if_neg hbackslash,
      if_neg (by simp [hline])]
  | short h => exact shortString?_escape (readEscape?_short h rest)
  | codePoint hmark h hvalid =>
    exact shortString?_escape (readEscape?_codePoint hmark h hvalid rest)

/-- **The inside of a string is read**, whatever follows its closing quote. -/
theorem shortString?_of_text (h : StringText w text) (rest : List Char) :
    shortString? '"' (w ++ '"' :: rest) = some (text, rest) := by
  induction h with
  | nil => exact shortString?_quote rest
  | cons hw _ ih =>
    rw [List.append_assoc, shortString?_of_char hw, ih]
    rfl

end ConceptQuery.Turtle
