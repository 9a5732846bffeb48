import ConceptQuery.Intent.Count
import ConceptQuery.Proofs.Json.Numbers
import ConceptQuery.Proofs.Number.Numeral
import Mathlib.Algebra.Group.Nat.Defs

/-!
# What counts as a whole number

* `GroupedDigits`, `ZeroFraction`, `Numeral` — whole numbers as texts spell them;
* `Counts` — JSON values that stand for a whole number;
* `numeral?_eq_some`, `countOf_eq_ok` — exactly these are counted.
-/

namespace ConceptQuery.Intent

open Text

variable {s t rest ds : List Char} {n : Int}

/-- Digits with single underscores between them, and the digits alone. -/
inductive GroupedDigits : List Char → List Char → Prop where
  | last {c : Char} (hc : c.isDigit = true) : GroupedDigits [c] [c]
  | next {c : Char} {s ds : List Char} (hc : c.isDigit = true) (hs : GroupedDigits s ds) :
    GroupedDigits (c :: s) (c :: ds)
  | underscore {c : Char} {s ds : List Char} (hc : c.isDigit = true) (hs : GroupedDigits s ds) :
    GroupedDigits (c :: '_' :: s) (c :: ds)

/-- Zeros behind a point, or nothing. -/
inductive ZeroFraction : List Char → Prop where
  | absent : ZeroFraction []
  | zeros {zeros : List Char} (hne : zeros ≠ []) (hzeros : ∀ c ∈ zeros, c = '0') :
    ZeroFraction ('.' :: zeros)

/-- A whole number, and how a text spells it. -/
inductive Numeral : List Char → Int → Prop where
  | spelled {sign s ds f : List Char} {negative : Bool} (hsign : Json.Sign sign negative)
    (hs : GroupedDigits s ds) (hf : ZeroFraction f) :
    Numeral (sign ++ (s ++ f)) (Binary64.signed negative (decimalValue ds))

/-- The whole number that a JSON value stands for: a whole number itself, a truth value, a floating
number `± m · 2 ^ e` without a fraction and below 2⁶³ in size, or a text that spells one, perhaps
with white space around it. -/
inductive Counts : Json → Int → Prop where
  | integer (n : Int) : Counts (.integer n) n
  | bool (b : Bool) : Counts (.bool b) (if b then 1 else 0)
  | float {negative : Bool} {m : Nat} {e n : Int}
    (hwhole : Binary64.signed negative (m * 2 ^ e.toNat) = n * (2 ^ (-e).toNat : Nat))
    (hsize : n.natAbs < 2 ^ 63) : Counts (.float (.finite negative m e)) n
  | text {b t b' : List Char} {n : Int} (hb : ∀ c ∈ b, isWhiteSpace c = true)
    (hb' : ∀ c ∈ b', isWhiteSpace c = true) (ht : Numeral t n)
    (hsize : (String.ofList t).utf8ByteSize ≤ digitLimit) :
    Counts (.string (String.ofList (b ++ (t ++ b')))) n

/-! ### Texts -/

theorem GroupedDigits.head (h : GroupedDigits s ds) :
    ∃ c u, s = c :: u ∧ c.isDigit = true := by
  cases h with
  | last hc => exact ⟨_, _, rfl, hc⟩
  | next hc => exact ⟨_, _, rfl, hc⟩
  | underscore hc => exact ⟨_, _, rfl, hc⟩

theorem GroupedDigits.ne_nil (h : GroupedDigits s ds) : ds ≠ [] := by
  cases h <;> simp

theorem digitGroups_underscore {c d : Char} (hc : c.isDigit = true) (hd : d.isDigit = true)
    (s : List Char) :
    digitGroups (c :: '_' :: d :: s)
      = (c :: (digitGroups (d :: s)).1, (digitGroups (d :: s)).2) := by
  rw [digitGroups.eq_2 c d s (ne_underscore_of_isDigit hc), if_pos (by rw [hc, hd]; rfl)]

/-- Grouped digits are read up to the end or to a point. -/
theorem digitGroups_append (h : GroupedDigits s ds) (hrest : ∀ c, rest.head? = some c → c = '.') :
    digitGroups (s ++ rest) = (ds, rest) := by
  have hstop : digitGroups rest = ([], rest) := by
    cases rest with
    | nil => rfl
    | cons c rest =>
      obtain rfl := hrest c rfl
      unfold digitGroups
      split <;> simp_all
  induction h with
  | @last c hc =>
    have hunderscore : rest.head? ≠ some '_' := by
      intro heq
      cases hrest _ heq
    rw [List.singleton_append, digitGroups_digit hc hunderscore, hstop]
  | @next c s ds hc hs ih =>
    have hunderscore : (s ++ rest).head? ≠ some '_' := by
      obtain ⟨d, u, rfl, hd⟩ := hs.head
      intro heq
      exact ne_underscore_of_isDigit hd (Option.some.inj heq)
    rw [List.cons_append, digitGroups_digit hc hunderscore, ih]
  | @underscore c s ds hc hs ih =>
    obtain ⟨d, u, rfl, hd⟩ := hs.head
    rw [List.cons_append] at ih
    rw [List.cons_append, List.cons_append, List.cons_append, digitGroups_underscore hc hd, ih]

/-- Nothing is read as digits from what begins with none. -/
theorem of_digitGroups_nil (h : digitGroups s = ([], rest)) :
    rest = s ∧ ∀ c, s.head? = some c → c.isDigit = false := by
  induction s using digitGroups.induct with
  | case1 r =>
    rw [digitGroups.eq_1] at h
    refine ⟨(Prod.mk.inj h).2.symm, ?_⟩
    intro c hc
    obtain rfl := Option.some.inj hc
    rfl
  | case2 c d r hne hdigits ds' r' hread =>
    rw [digitGroups.eq_2 c d r hne, if_pos hdigits, hread] at h
    cases h
  | case3 c d r hne hdigits hc =>
    rw [digitGroups.eq_2 c d r hne, if_neg hdigits, if_pos hc] at h
    cases h
  | case4 c d r hne hdigits hc =>
    rw [digitGroups.eq_2 c d r hne, if_neg hdigits, if_neg hc] at h
    refine ⟨(Prod.mk.inj h).2.symm, ?_⟩
    intro c' hc'
    obtain rfl := Option.some.inj hc'
    exact Bool.not_eq_true _ ▸ hc
  | case5 c r hne hmore hc ds' r' hread =>
    rw [digitGroups.eq_3 c r hne hmore, if_pos hc, hread] at h
    cases h
  | case6 c r hne hmore hc =>
    rw [digitGroups.eq_3 c r hne hmore, if_neg hc] at h
    refine ⟨(Prod.mk.inj h).2.symm, ?_⟩
    intro c' hc'
    obtain rfl := Option.some.inj hc'
    exact Bool.not_eq_true _ ▸ hc
  | case7 =>
    rw [digitGroups.eq_4] at h
    refine ⟨(Prod.mk.inj h).2.symm, ?_⟩
    intro c hc
    cases hc

/-- What is read as digits is grouped digits. -/
theorem groupedDigits_of_digitGroups (h : digitGroups s = (ds, rest)) (hds : ds ≠ []) :
    ∃ g, s = g ++ rest ∧ GroupedDigits g ds := by
  induction s using digitGroups.induct generalizing ds rest with
  | case1 r =>
    rw [digitGroups.eq_1] at h
    exact absurd (Prod.mk.inj h).1.symm hds
  | case2 c d r hne hdigits ds' r' hread ih =>
    rw [digitGroups.eq_2 c d r hne, if_pos hdigits, hread] at h
    obtain ⟨rfl, rfl⟩ := Prod.mk.inj h
    obtain ⟨hc, hd⟩ := Bool.and_eq_true_iff.1 hdigits
    have hsome : ds' ≠ [] := by
      rintro rfl
      rw [(of_digitGroups_nil hread).2 d rfl] at hd
      cases hd
    obtain ⟨g, hg, hgroup⟩ := ih hread hsome
    exact ⟨c :: '_' :: g, by rw [hg, List.cons_append, List.cons_append], .underscore hc hgroup⟩
  | case3 c d r hne hdigits hc =>
    rw [digitGroups.eq_2 c d r hne, if_neg hdigits, if_pos hc] at h
    obtain ⟨rfl, rfl⟩ := Prod.mk.inj h
    exact ⟨[c], rfl, .last hc⟩
  | case4 c d r hne hdigits hc =>
    rw [digitGroups.eq_2 c d r hne, if_neg hdigits, if_neg hc] at h
    exact absurd (Prod.mk.inj h).1.symm hds
  | case5 c r hne hmore hc ds' r' hread ih =>
    rw [digitGroups.eq_3 c r hne hmore, if_pos hc, hread] at h
    obtain ⟨rfl, rfl⟩ := Prod.mk.inj h
    by_cases hnone : ds' = []
    · subst hnone
      obtain ⟨rfl, -⟩ := of_digitGroups_nil hread
      exact ⟨[c], rfl, .last hc⟩
    · obtain ⟨g, hg, hgroup⟩ := ih hread hnone
      exact ⟨c :: g, by rw [hg, List.cons_append], .next hc hgroup⟩
  | case6 c r hne hmore hc =>
    rw [digitGroups.eq_3 c r hne hmore, if_neg hc] at h
    exact absurd (Prod.mk.inj h).1.symm hds
  | case7 =>
    rw [digitGroups.eq_4] at h
    exact absurd (Prod.mk.inj h).1.symm hds

theorem isZeroFraction_iff : isZeroFraction s = true ↔ ZeroFraction s := by
  constructor
  · intro h
    cases s with
    | nil => exact .absent
    | cons c zeros =>
      simp only [isZeroFraction, Bool.and_eq_true, beq_iff_eq, Bool.not_eq_true',
        List.isEmpty_eq_false_iff, List.all_eq_true] at h
      obtain ⟨⟨rfl, hne⟩, hzeros⟩ := h
      exact .zeros hne hzeros
  · intro h
    cases h with
    | absent => rfl
    | zeros hne hzeros =>
      simp only [isZeroFraction, Bool.and_eq_true, beq_iff_eq, Bool.not_eq_true',
        List.isEmpty_eq_false_iff, List.all_eq_true]
      exact ⟨⟨trivial, hne⟩, hzeros⟩

theorem ZeroFraction.head (h : ZeroFraction s) : ∀ c, s.head? = some c → c = '.' := by
  intro c hc
  cases h with
  | absent => cases hc
  | zeros => exact (Option.some.inj hc).symm

/-- **A text is read as a whole number exactly if it spells one.** -/
theorem numeral?_eq_some : numeral? s = some n ↔ Numeral s n := by
  constructor
  · intro h
    obtain ⟨sign, hsign, hs⟩ := Json.sign_takeSign s
    rcases htake : takeSign s with ⟨negative, digits⟩
    rw [htake] at hsign hs
    unfold numeral? at h
    rw [htake] at h
    dsimp only at h hsign hs
    split at h
    · cases h
    · next ds rest hne hread =>
      obtain ⟨g, rfl, hgroup⟩ := groupedDigits_of_digitGroups hread hne
      split at h
      · next hf =>
        obtain rfl := Option.some.inj h
        rw [hs]
        exact .spelled hsign hgroup (isZeroFraction_iff.1 hf)
      · cases h
  · intro h
    cases h with
    | @spelled sign s ds f negative hsign hs hf =>
      obtain ⟨c, u, rfl, hc⟩ := hs.head
      have hdigit : Json.Digits [c] := ⟨by simp, by simpa using hc⟩
      have hnosign : (c :: u ++ f).head? ≠ some '-' ∧ (c :: u ++ f).head? ≠ some '+' :=
        Json.noSign_digits (s := u ++ f) hdigit
      rw [numeral?, Json.takeSign_append hsign hnosign]
      dsimp only
      rw [digitGroups_append hs hf.head]
      have hne := hs.ne_nil
      cases ds with
      | nil => exact absurd rfl hne
      | cons d ds =>
        dsimp only
        rw [if_pos (isZeroFraction_iff.2 hf)]

/-! ### White space around a number -/

/-- A text is what is left of it between characters of a class. -/
theorem trim_split (p : Char → Bool) (s : List Char) : ∃ b b', s = b ++ (trim p s ++ b')
    ∧ (∀ c ∈ b, p c = true) ∧ ∀ c ∈ b', p c = true := by
  refine ⟨s.takeWhile p, ((s.dropWhile p).reverse.takeWhile p).reverse, ?_, ?_, ?_⟩
  · rw [trim, ← List.reverse_append, List.takeWhile_append_dropWhile, List.reverse_reverse,
      List.takeWhile_append_dropWhile]
  · intro c hc
    exact List.mem_takeWhile_imp hc
  · intro c hc
    exact List.mem_takeWhile_imp (List.mem_reverse.1 hc)

/-- A text is left whole between characters of a class if it neither begins nor ends with one. -/
theorem trim_append {p : Char → Bool} {b b' : List Char} (hb : ∀ c ∈ b, p c = true)
    (hb' : ∀ c ∈ b', p c = true) (hhead : ∃ c, s.head? = some c ∧ p c = false)
    (hlast : ∃ c, s.getLast? = some c ∧ p c = false) : trim p (b ++ (s ++ b')) = s := by
  obtain ⟨c, hc, hpc⟩ := hhead
  obtain ⟨d, hd, hpd⟩ := hlast
  have hfront : (s ++ b').dropWhile p = s ++ b' := by
    cases s with
    | nil => cases hc
    | cons c' s =>
      obtain rfl := Option.some.inj hc
      rw [List.cons_append, List.dropWhile_cons, hpc]
      rfl
  have hback : s.reverse.dropWhile p = s.reverse := by
    have hrev : s.reverse.head? = some d := by rw [List.head?_reverse, hd]
    cases hs : s.reverse with
    | nil =>
      rw [hs] at hrev
      cases hrev
    | cons d' r =>
      rw [hs] at hrev
      obtain rfl := Option.some.inj hrev
      rw [List.dropWhile_cons, hpd]
      rfl
  rw [trim, List.dropWhile_append_of_pos hb, hfront, List.reverse_append,
    List.dropWhile_append_of_pos (fun c hc => hb' c (List.mem_reverse.1 hc)), hback,
    List.reverse_reverse]

theorem not_white_of_isDigit {c : Char} (hc : c.isDigit = true) : isWhiteSpace c = false := by
  have hrange : 0x30 ≤ c.toNat ∧ c.toNat ≤ 0x39 := by
    simpa [Char.isDigit, UInt32.le_iff_toNat_le] using hc
  simp only [isWhiteSpace, Bool.or_eq_false_iff, Bool.and_eq_false_iff, decide_eq_false_iff_not,
    beq_eq_false_iff_ne]
  omega

theorem Numeral.head (h : Numeral t n) : ∃ c, t.head? = some c ∧ isWhiteSpace c = false := by
  cases h with
  | spelled hsign hs hf =>
    cases hsign with
    | absent =>
      obtain ⟨c, u, rfl, hc⟩ := hs.head
      exact ⟨c, rfl, not_white_of_isDigit hc⟩
    | plus => exact ⟨'+', rfl, rfl⟩
    | minus => exact ⟨'-', rfl, rfl⟩

theorem GroupedDigits.last? (h : GroupedDigits s ds) :
    ∃ c, s.getLast? = some c ∧ c.isDigit = true := by
  induction h with
  | last hc => exact ⟨_, rfl, hc⟩
  | next hc hs ih =>
    obtain ⟨c, hlast, hdigit⟩ := ih
    exact ⟨c, by rw [List.getLast?_cons, hlast]; rfl, hdigit⟩
  | underscore hc hs ih =>
    obtain ⟨c, hlast, hdigit⟩ := ih
    exact ⟨c, by rw [List.getLast?_cons, List.getLast?_cons, hlast]; rfl, hdigit⟩

theorem Numeral.last? (h : Numeral t n) : ∃ c, t.getLast? = some c ∧ isWhiteSpace c = false := by
  cases h with
  | @spelled sign s ds f negative hsign hs hf =>
    cases hf with
    | absent =>
      obtain ⟨c, hlast, hc⟩ := hs.last?
      rw [List.append_nil]
      exact ⟨c, by rw [List.getLast?_append, hlast]; rfl, not_white_of_isDigit hc⟩
    | @zeros zeros hne hzeros =>
      refine ⟨'0', ?_, rfl⟩
      have hlast : zeros.getLast? = some '0' := by
        rw [List.getLast?_eq_some_getLast hne, hzeros _ (List.getLast_mem hne)]
      rw [List.getLast?_append, List.getLast?_append, List.getLast?_cons, hlast]
      rfl

theorem countOfText_eq_ok {w : String} :
    countOfText w = .ok n ↔ Counts (.string w) n := by
  unfold countOfText
  constructor
  · intro h
    dsimp only at h
    split at h
    · cases h
    · next hsize =>
      split at h
      · next n' hread =>
        obtain rfl := Except.ok.inj h
        obtain ⟨b, b', hw, hb, hb'⟩ := trim_split isWhiteSpace w.toList
        have htext : w = String.ofList (b ++ (trim isWhiteSpace w.toList ++ b')) := by
          rw [← hw, String.ofList_toList]
        rw [htext]
        exact .text hb hb' (numeral?_eq_some.1 hread) (Nat.le_of_not_lt hsize)
      · cases h
  · intro h
    cases h with
    | text hb hb' ht hsize =>
      rw [String.toList_ofList, trim_append hb hb' ht.head ht.last?]
      dsimp only
      rw [if_neg (Nat.not_lt.2 hsize), numeral?_eq_some.2 ht]

/-! ### Floating numbers -/

/-- The sign of a product with a whole number is that of the other factor. -/
theorem signed_mul (negative : Bool) (den q : Nat) :
    Binary64.signed negative (den * q) = Binary64.signed negative q * (den : Int) := by
  cases negative with
  | true =>
    show -((den * q : Nat) : Int) = -(q : Int) * den
    rw [Int.natCast_mul, Int.neg_mul, Int.mul_comm]
  | false =>
    show ((den * q : Nat) : Int) = q * den
    rw [Int.natCast_mul, Int.mul_comm]

/-- A quotient without a remainder is told by its product. -/
theorem signed_eq_mul_iff (negative : Bool) (num den : Nat) (hden : 0 < den) :
    Binary64.signed negative num = n * (den : Int)
      ↔ num % den = 0 ∧ Binary64.signed negative (num / den) = n := by
  have hpos : (0 : Int) < den := by exact_mod_cast hden
  constructor
  · intro h
    have hdvd : den ∣ num := by
      apply Int.natCast_dvd_natCast.1
      cases negative with
      | true =>
        have hneg : (num : Int) = -n * den := by
          rw [Int.neg_mul, ← h]
          simp [Binary64.signed]
        exact ⟨-n, by rw [hneg, Int.mul_comm]⟩
      | false => exact ⟨n, by rw [Int.mul_comm]; exact h⟩
    obtain ⟨q, rfl⟩ := hdvd
    refine ⟨Nat.mul_mod_right den q, ?_⟩
    rw [Nat.mul_div_cancel_left q hden]
    apply Int.eq_of_mul_eq_mul_right (Int.ne_of_gt hpos)
    rw [← h, signed_mul]
  · rintro ⟨hmod, rfl⟩
    obtain ⟨q, rfl⟩ := Nat.dvd_of_mod_eq_zero hmod
    rw [Nat.mul_div_cancel_left q hden, signed_mul]

theorem whole?_eq_some {negative : Bool} {m : Nat} {e : Int} :
    Binary64.whole? negative m e = some n
      ↔ Binary64.signed negative (m * 2 ^ e.toNat) = n * (2 ^ (-e).toNat : Nat) := by
  have hden : 0 < 2 ^ (-e).toNat := Nat.two_pow_pos _
  rw [signed_eq_mul_iff negative _ _ hden]
  show (if m * 2 ^ e.toNat % 2 ^ (-e).toNat = 0 then
    some (Binary64.signed negative (m * 2 ^ e.toNat / 2 ^ (-e).toNat)) else none) = some n ↔ _
  split
  · next h => simp [h]
  · next h => simp [h]

theorem countOfFloat_eq_ok {x : Binary64} : countOfFloat x = .ok n ↔ Counts (.float x) n := by
  cases x with
  | nan => exact ⟨fun h => (by cases h), fun h => (by cases h)⟩
  | infinity => exact ⟨fun h => (by cases h), fun h => (by cases h)⟩
  | finite negative m e =>
    unfold countOfFloat
    constructor
    · intro h
      dsimp only at h
      split at h
      · cases h
      · next n' hwhole =>
        split at h
        · next hsize =>
          obtain rfl := Except.ok.inj h
          exact .float (whole?_eq_some.1 hwhole) hsize
        · cases h
    · intro h
      cases h with
      | float hwhole hsize =>
        dsimp only
        rw [whole?_eq_some.2 hwhole]
        exact if_pos hsize

/-- **A JSON value is counted exactly if it stands for a whole number.** -/
theorem countOf_eq_ok {v : Json} : countOf v = .ok n ↔ Counts v n := by
  cases v with
  | null => exact ⟨fun h => (by cases h), fun h => (by cases h)⟩
  | bool b =>
    constructor
    · intro h
      obtain rfl := Except.ok.inj h
      exact .bool b
    · intro h
      cases h
      rfl
  | integer m =>
    constructor
    · intro h
      obtain rfl := Except.ok.inj h
      exact .integer m
    · intro h
      cases h
      rfl
  | float x => exact countOfFloat_eq_ok
  | string w => exact countOfText_eq_ok
  | array items => exact ⟨fun h => (by cases h), fun h => (by cases h)⟩
  | object members => exact ⟨fun h => (by cases h), fun h => (by cases h)⟩

end ConceptQuery.Intent
