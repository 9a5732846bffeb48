import ConceptQuery.Proofs.Sparql.Lexing
import ConceptQuery.Proofs.Turtle.Strings

/-!
# Literals end where they were ended

A string in one pair of quotes is written as in Turtle. The literal of a text is such a string, and
is read as the text by its grammar alone, by undoing escapes of code points before all else, and as
a token of a whole text.

* `Sparql.readString?` — a string at the front of a text;
* `stringText_escape` — the inside of a literal;
* `readString?_quote` — a literal is read up to its end, whatever follows it;
* `tokens?_quote_append` — a literal in front of a text is one more token;
* `literal_exact` — literals are exact.
-/

namespace ConceptQuery.Sparql

open Turtle (StringText)

/-- A string in one pair of quotes at the front of a text, and what follows it. Three quotes begin a
long string, which is refused. -/
def readString? : List Char → Option (List Char × List Char)
  | c :: rest =>
    if c = '"' ∧ rest.take 2 ≠ ['"', '"'] then Turtle.shortString? '"' rest else none
  | [] => none

variable {s : String} {rest : List Char}

theorem stringChar_escapeChar (c : Char) : Turtle.StringChar (escapeChar c) c := by
  unfold escapeChar
  split
  · subst_vars
    exact .short rfl
  next hbackslash =>
  split
  · subst_vars
    exact .short rfl
  next hquote =>
  split
  · subst_vars
    exact .short rfl
  next hfeed =>
  split
  · subst_vars
    exact .short rfl
  next hreturn =>
  split
  · subst_vars
    exact .short rfl
  · exact .plain hquote hbackslash (by simp [Turtle.isLineEnd, hfeed, hreturn])

theorem stringText_escape (s : List Char) : StringText (s.flatMap escapeChar) s :=
  Text.spelled_flatMap stringChar_escapeChar s

theorem toList_quote (s : String) :
    (quote s).toList = '"' :: (s.toList.flatMap escapeChar ++ ['"']) :=
  String.toList_ofList

/-- **A literal is read up to its end**, whatever follows it, if that does not begin with a quote.
Only the literal of the empty text could become the beginning of a long string. -/
theorem readString?_quote (s : String) (h : rest.head? ≠ some '"') :
    readString? ((quote s).toList ++ rest) = some (s.toList, rest) := by
  have htwo := Text.take_two_ne (stringText_escape s.toList).head?_ne h
  rw [toList_quote, List.cons_append, List.append_assoc, List.singleton_append, readString?,
    if_pos ⟨rfl, htwo⟩]
  exact Turtle.shortString?_of_text (stringText_escape s.toList) rest

/-- **A literal in front of a text is one more token**, if the text does not begin with a quote once
its escapes of code points are undone. -/
theorem tokens?_quote_append {t : String}
    (h : ∀ rest, unescape? t.toList = some rest → rest.head? ≠ some '"') :
    tokens? (quote s ++ t) = (tokens? t).map (.string s :: ·) := by
  unfold tokens?
  rw [String.toList_append, stable_quote]
  cases hrest : unescape? t.toList with
  | none => rfl
  | some rest =>
    have hquote : (quote s).toList = quoteChars s.toList := String.toList_ofList
    simp only [Option.map_some, Option.bind_eq_bind, Option.bind_some, hquote]
    cases rest with
    | nil =>
      rw [List.append_nil]
      by_cases hs : s.toList = []
      · obtain rfl : s = "" := String.toList_eq_nil_iff.1 hs
        rfl
      · rw [walk_quoteChars hs, String.ofList_toList]
        rfl
    | cons c rest =>
      have hc : c ≠ '"' := by simpa using h _ hrest
      rw [walk_quote s hc]
      cases walk .between (c :: rest) with
      | none => rfl
      | some more =>
        simp only [Option.map_some, Option.bind_some]
        cases more.2.finish <;> rfl

theorem quote_injective : Function.Injective quote := by
  intro s t hsame
  have hend : ([] : List Char).head? ≠ some '"' := by decide
  have hs := readString?_quote s hend
  rw [hsame, readString?_quote t hend] at hs
  exact String.toList_injective (Prod.mk.inj (Option.some.inj hs)).1.symm

/-- **Literals are exact.** In front of any text that does not begin with a quote the literal of a
text is read up to its end, and says the text. No string that begins with its opening quote ends
anywhere else, whatever follows. Undoing escapes of code points before all else does not change the
literal, and behind it the tokens are those of what follows. No two texts have the same literal. -/
theorem literal_exact (s : String) :
    (∀ rest : List Char, rest.head? ≠ some '"' →
        readString? ((quote s).toList ++ rest) = some (s.toList, rest))
      ∧ (∀ w text rest after, StringText w text
          ∧ (quote s).toList ++ rest = '"' :: (w ++ '"' :: after)
        ↔ (quote s).toList = '"' :: (w ++ ['"']) ∧ text = s.toList ∧ after = rest)
      ∧ (∀ rest, unescape? ((quote s).toList ++ rest)
        = (unescape? rest).map ((quote s).toList ++ ·))
      ∧ (∀ t, (∀ rest, unescape? t.toList = some rest → rest.head? ≠ some '"') →
        tokens? (quote s ++ t) = (tokens? t).map (.string s :: ·))
      ∧ ∀ t, quote s = quote t → s = t := by
  refine ⟨fun rest => readString?_quote s, ?_, stable_quote s, fun t => tokens?_quote_append,
    fun t hsame => quote_injective hsame⟩
  have hinside := stringText_escape s.toList
  intro w text rest after
  rw [toList_quote]
  constructor
  · rintro ⟨htext, hsame⟩
    rw [List.cons_append, List.append_assoc, List.singleton_append] at hsame
    obtain ⟨rfl, rfl, rfl⟩ := hinside.ending_unique Turtle.shortString?_of_text htext
      (List.cons.inj hsame).2
    exact ⟨rfl, rfl, rfl⟩
  · rintro ⟨hw, rfl, rfl⟩
    obtain rfl := List.append_cancel_right (List.cons.inj hw).2
    exact ⟨hinside, by simp⟩

/-- A text that ends in a backslash and has what looks like an escaped code point of a quote, before
a text that begins with one. -/
theorem literal_exact_lookalike :
    let s := "a\\u0022\n\\"
    let rest := "\\u0022 .".toList
    rest.head? ≠ some '"' ∧ quote s = "\"a\\\\u0022\\n\\\\\""
      ∧ readString? ((quote s).toList ++ rest) = some (s.toList, rest)
      ∧ (∀ rest, unescape? " .".toList = some rest → rest.head? ≠ some '"')
      ∧ tokens? (quote s ++ " .") = some [.string s, .mark '.'] := by
  intro s rest
  have hpoint : ∀ rest, unescape? " .".toList = some rest → rest.head? ≠ some '"' := by
    intro rest hrest
    obtain rfl : [' ', '.'] = rest := Option.some.inj hrest
    decide
  refine ⟨by decide, by decide, (literal_exact s).1 rest (by decide), hpoint, ?_⟩
  exact ((literal_exact s).2.2.2.1 " ." hpoint).trans (by decide)

end ConceptQuery.Sparql
