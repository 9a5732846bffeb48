import ConceptQuery.Number.Numeral
import Mathlib.Algebra.Group.Nat.Defs

/-!
# Numerals are read back

* `digitGroups_digit`, `digitGroups_digits` — digits without underscores between them;
* `readInt_toString` — a number is read back from its decimal digits, up to the limit on them;
* `decimalValue_lt` — a number is below the power of ten of as many digits as spell it.
-/

namespace ConceptQuery

open Text

variable {c : Char} {s : List Char}

theorem ne_underscore_of_isDigit (hc : c.isDigit = true) : c ≠ '_' := by
  rintro rfl
  cases hc

theorem digitGroups_digit (hc : c.isDigit = true) (hs : s.head? ≠ some '_') :
    digitGroups (c :: s) = (c :: (digitGroups s).1, (digitGroups s).2) := by
  rw [digitGroups.eq_3 c s (ne_underscore_of_isDigit hc), if_pos hc]
  rintro d s' rfl
  exact hs rfl

theorem digitGroups_digits (h : ∀ c ∈ s, c.isDigit = true) : digitGroups s = (s, []) := by
  induction s with
  | nil => rfl
  | cons c s ih =>
    rw [List.forall_mem_cons] at h
    have hs : s.head? ≠ some '_' := fun heq =>
      ne_underscore_of_isDigit (h.2 _ (List.mem_of_head? heq)) rfl
    rw [digitGroups_digit h.1 hs, ih h.2]

/-- A digit of ASCII is no white space, no sign, and plain already. -/
theorem plain_of_isDigit (hc : c.isDigit = true) :
    isWhiteSpace c = false ∧ plainDigit c = c ∧ c ≠ '-' ∧ c ≠ '+' := by
  have hall : ∀ n < 58, (Char.ofNat n).isDigit = true → isWhiteSpace (Char.ofNat n) = false
      ∧ plainDigit (Char.ofNat n) = Char.ofNat n ∧ Char.ofNat n ≠ '-' ∧ Char.ofNat n ≠ '+' := by
    decide
  have h := hall c.toNat (Nat.lt_succ_of_le (Char.isDigit_iff_toNat.1 hc).2)
  rw [Char.ofNat_toNat] at h
  exact h hc

theorem trim_eq_self {p : Char → Bool} (h : ∀ c ∈ s, p c = false) : trim p s = s := by
  have hkeep {l : List Char} (hl : ∀ c ∈ l, p c = false) : l.dropWhile p = l := by
    cases l with
    | nil => rfl
    | cons c l => rw [List.dropWhile_cons, hl c List.mem_cons_self, if_neg Bool.false_ne_true]
  rw [trim, hkeep h, hkeep fun c hc => h c (List.mem_reverse.1 hc), List.reverse_reverse]

theorem takeSign_of_digits (h : ∀ c ∈ s, c.isDigit = true) : takeSign s = (false, s) := by
  unfold takeSign
  split
  · exact absurd rfl (plain_of_isDigit (h '-' List.mem_cons_self)).2.2.1
  · exact absurd rfl (plain_of_isDigit (h '+' List.mem_cons_self)).2.2.2
  · rfl

/-- **A number is read back from its decimal digits**, up to the limit on them. -/
theorem readInt_toString {n : Nat} (hlimit : (Nat.toDigits 10 n).length ≤ digitLimit) :
    readInt (toString n) = .ok n := by
  have hdigits : ∀ c ∈ Nat.toDigits 10 n, c.isDigit = true :=
    fun c hc => Nat.isDigit_of_mem_toDigits (by decide) (by decide) hc
  have htext : (toString n).toList = Nat.toDigits 10 n := Nat.toList_repr
  have hplain : (Nat.toDigits 10 n).map plainDigit = Nat.toDigits 10 n :=
    (List.map_congr_left fun c hc => (plain_of_isDigit (hdigits c hc)).2.1).trans (List.map_id' _)
  have htrim : trim isWhiteSpace (Nat.toDigits 10 n) = Nat.toDigits 10 n :=
    trim_eq_self fun c hc => (plain_of_isDigit (hdigits c hc)).1
  have hvalue : decimalValue (Nat.toDigits 10 n) = n := Nat.ofDigitChars_ten_toDigits
  unfold readInt
  rw [htext, hplain, htrim, takeSign_of_digits hdigits]
  dsimp only
  rw [digitGroups_digits hdigits]
  cases hds : Nat.toDigits 10 n with
  | nil => exact absurd hds Nat.toDigits_ne_nil
  | cons c ds =>
    rw [hds] at hlimit hvalue
    have hnext : ¬ ([] : List Char).head? = some '_' := by simp
    dsimp only
    rw [if_neg hnext, if_neg (Nat.not_lt.2 hlimit), hvalue]
    rfl

/-! ### Sizes -/

theorem ofDigitChars_lt (h : ∀ c ∈ s, c.isDigit = true) (n : Nat) :
    Nat.ofDigitChars 10 s n < (n + 1) * 10 ^ s.length := by
  induction s generalizing n with
  | nil => simp [Nat.ofDigitChars]
  | cons c s ih =>
    obtain ⟨hc, hs⟩ := List.forall_mem_cons.1 h
    have hdigit : c.toNat - '0'.toNat ≤ 9 := by
      have hrange := Char.isDigit_iff_toNat.1 hc
      have hzero : '0'.toNat = 48 := rfl
      have hnine : '9'.toNat = 57 := rfl
      omega
    have hstep : 10 * n + (c.toNat - '0'.toNat) + 1 ≤ (n + 1) * 10 := by omega
    calc Nat.ofDigitChars 10 (c :: s) n
        = Nat.ofDigitChars 10 s (10 * n + (c.toNat - '0'.toNat)) := Nat.ofDigitChars_cons
      _ < (10 * n + (c.toNat - '0'.toNat) + 1) * 10 ^ s.length := ih hs _
      _ ≤ (n + 1) * 10 * 10 ^ s.length := Nat.mul_le_mul_right _ hstep
      _ = (n + 1) * 10 ^ (c :: s).length := by
        rw [List.length_cons, Nat.pow_succ, Nat.mul_assoc, Nat.mul_comm 10]

theorem decimalValue_lt (h : ∀ c ∈ s, c.isDigit = true) : decimalValue s < 10 ^ s.length := by
  have hlt := ofDigitChars_lt h 0
  rw [Nat.zero_add, Nat.one_mul] at hlt
  exact hlt

end ConceptQuery
