import ConceptQuery.Cache.Record
import ConceptQuery.Proofs.Text.FormEncoding
import Mathlib.Tactic.Tauto

/-!
# Keys of prompts

A key is a fixed beginning and the form encoding of its prompt.  The encoding has an alphabet of its
own, and it can be decoded, so no two prompts share a key.

* `Text.FormSpelled` — letters, digits, marks, and percent signs with two digits each;
* `Text.formSpelled_encode`, `Text.formEncode_append` — encodings are spelled so, and go piece by
  piece;
* `promptKey_eq_append_iff` — what stands behind the beginning of a key;
* `promptKey_injective`, `promptKey_inj` — two prompts with the same key are the same text.
-/

namespace ConceptQuery.Text

/-! ### The alphabet of encodings -/

/-- The upper-case hexadecimal digits. -/
def upperHexDigits : List Char :=
  ['0', '1', '2', '3', '4', '5', '6', '7', '8', '9', 'A', 'B', 'C', 'D', 'E', 'F']

/-- The marks that stand in encodings beside letters and digits. -/
def formMarks : List Char :=
  ['_', '.', '-', '~', '+']

/-- How encodings are spelled: letters and digits of ASCII, marks, and percent signs each with two
upper-case hexadecimal digits behind it. -/
inductive FormSpelled : List Char → Prop where
  | nil : FormSpelled []
  | plain {c : Char} {rest : List Char} (hc : c.isAlphanum = true ∨ c ∈ formMarks)
      (h : FormSpelled rest) : FormSpelled (c :: rest)
  | escape {high low : Char} {rest : List Char} (hhigh : high ∈ upperHexDigits)
      (hlow : low ∈ upperHexDigits) (h : FormSpelled rest) :
      FormSpelled ('%' :: high :: low :: rest)

theorem plain_of_isUnreserved {c : Char} (hc : isUnreserved c = true) :
    c.isAlphanum = true ∨ c ∈ formMarks := by
  simp only [isUnreserved, Bool.or_eq_true, beq_iff_eq] at hc
  simp only [formMarks, List.mem_cons, List.not_mem_nil, or_false]
  tauto

theorem upperHexDigit_mem : ∀ n < 16, upperHexDigit n ∈ upperHexDigits := by
  decide

/-- An encoded byte is spelled so, whatever follows it. -/
theorem FormSpelled.encodeByte (b : UInt8) {rest : List Char} (h : FormSpelled rest) :
    FormSpelled (formEncodeByte b ++ rest) := by
  have hb : b.toNat < 256 := b.toNat_lt
  rw [formEncodeByte]
  by_cases hplain : isUnreserved (Char.ofNat b.toNat) = true
  · rw [if_pos hplain]
    exact .plain (plain_of_isUnreserved hplain) h
  rw [if_neg hplain]
  by_cases hspace : Char.ofNat b.toNat = ' '
  · rw [if_pos hspace]
    exact .plain (.inr (by decide)) h
  · rw [if_neg hspace]
    have hhigh := upperHexDigit_mem (b.toNat / 16) (by omega)
    have hlow := upperHexDigit_mem (b.toNat % 16) (by omega)
    exact .escape hhigh hlow h

theorem formSpelled_encode (s : String) : FormSpelled (formEncode s).toList := by
  rw [formEncode, String.toList_ofList, formEncodeChars]
  induction s.toList.flatMap String.utf8EncodeChar with
  | nil => exact .nil
  | cons b bs ih => exact ih.encodeByte b

/-- **Encodings are made piece by piece.** -/
theorem formEncode_append (s t : String) :
    formEncode (s ++ t) = formEncode s ++ formEncode t := by
  simp only [formEncode, formEncodeChars, String.toList_append, List.flatMap_append,
    String.ofList_append]

theorem not_colon_of_encoded {s : String} : ':' ∉ (formEncode s).toList := by
  intro h
  rcases mem_formEncode h with hplain | hplus | hpercent
  · exact absurd hplain (by decide)
  · exact absurd hplus (by decide)
  · exact absurd hpercent (by decide)

end ConceptQuery.Text

namespace ConceptQuery.Cache

/-! ### Keys tell prompts apart -/

theorem promptKey_eq_append_iff {p rest : String} :
    promptKey p = keyStart ++ rest ↔ Text.formEncode p = rest := by
  rw [promptKey, ← String.toList_inj, String.toList_append, String.toList_append,
    List.append_cancel_left_eq, String.toList_inj]

theorem promptKey_injective : Function.Injective promptKey := by
  intro p q h
  exact Text.formEncode_injective (promptKey_eq_append_iff.1 h)

theorem promptKey_inj {p q : String} : promptKey p = promptKey q ↔ p = q :=
  promptKey_injective.eq_iff

end ConceptQuery.Cache
