import Mathlib.Init

/-!
# Spelled texts

Languages write the characters of a text one after the other, each in one of several ways.

* `Text.Spelled` — a piece of writing, and the text that it spells;
* `spelled_flatMap` — a text that a function spells;
* `Spelled.ending_unique` — what can be read up to a closing mark ends there in one way only;
* `take_two_ne` — where a quote does not begin three of them.
-/

namespace ConceptQuery.Text

/-- A piece of writing and the text that it spells, given the ways to write one character. -/
inductive Spelled (one : List Char → Char → Prop) : List Char → List Char → Prop where
  | nil : Spelled one [] []
  | cons {w ws s : List Char} {c : Char} (hw : one w c) (hws : Spelled one ws s) :
    Spelled one (w ++ ws) (c :: s)

variable {one : List Char → Char → Prop} {w w' s s' : List Char}

/-- A text is spelled by what a function writes for each of its characters. -/
theorem spelled_flatMap {write : Char → List Char} (h : ∀ c, one (write c) c) (s : List Char) :
    Spelled one (s.flatMap write) s := by
  induction s with
  | nil => exact .nil
  | cons c s ih => exact .cons (h c) ih

/-- If pieces are read up to a closing mark, whatever follows it, then a text goes on with a piece
and the mark in one way only. -/
theorem Spelled.ending_unique {read : List Char → Option (List Char × List Char)} {mark : Char}
    (hread : ∀ {w s}, Spelled one w s → ∀ rest, read (w ++ mark :: rest) = some (s, rest))
    (h : Spelled one w s) (h' : Spelled one w' s') {rest rest' : List Char}
    (hsame : w ++ mark :: rest = w' ++ mark :: rest') : w = w' ∧ s = s' ∧ rest = rest' := by
  have hsame' := hread h rest
  rw [hsame, hread h' rest'] at hsame'
  obtain ⟨rfl, rfl⟩ := Prod.mk.inj (Option.some.inj hsame')
  exact ⟨List.append_cancel_right hsame, rfl, rfl⟩

/-- A quote, the inside of a string, its closing quote and what follows do not begin with three
quotes, unless the inside or what follows begins with one. -/
theorem take_two_ne {q : Char} {rest : List Char} (hw : w.head? ≠ some q)
    (hrest : rest.head? ≠ some q) : (w ++ q :: rest).take 2 ≠ [q, q] := by
  intro htake
  match w, rest with
  | [], [] => simp at htake
  | [], d :: rest => simp_all
  | d :: w, _ => simp_all

end ConceptQuery.Text
