import ConceptQuery.Proofs.Except
import ConceptQuery.Proofs.Json.Grammar
import Mathlib.Data.List.TakeDrop
import Mathlib.Data.List.TakeWhile

/-!
# Numbers are read as the grammar has them

A number goes as far as it can, so it is read whole only if what follows it cannot continue it.

* `Ends` — a text that cannot continue a number;
* `takeWhole?_append`, `takePoint_append`, `takePower_append` — the parts of a number are read;
* `readScalar_of_number` — a number is read, if its text has ended;
* `text_of_readNumber` — what is read as a number is one.
-/

namespace ConceptQuery.Json

open Text

variable {limits : Limits} {s rest left ds t : List Char} {v : Json} {negative : Bool} {start : Nat}

/-- A text at which a number ends. -/
def Ends (s : List Char) : Prop :=
  ∀ c, s.head? = some c → c.isDigit = false ∧ c ≠ '.' ∧ c ≠ 'e' ∧ c ≠ 'E'

/-- A text that begins with no digit. -/
def EndsDigits (s : List Char) : Prop :=
  ∀ c, s.head? = some c → c.isDigit = false

theorem Ends.digits (h : Ends s) : EndsDigits s :=
  fun c hc => (h c hc).1

/-! ### Digits -/

theorem takeDigits_eq (s : List Char) :
    takeDigits s = (s.takeWhile Char.isDigit, s.dropWhile Char.isDigit) := by
  rw [takeDigits, List.span_eq_takeWhile_dropWhile]

theorem takeDigits_append (hds : ∀ d ∈ ds, d.isDigit = true) (hs : EndsDigits s) :
    takeDigits (ds ++ s) = (ds, s) := by
  rw [takeDigits_eq, List.takeWhile_append_of_pos hds, List.dropWhile_append_of_pos hds]
  cases s with
  | nil => simp
  | cons c s =>
    have hc := hs c rfl
    simp [hc]

theorem of_takeDigits (h : takeDigits s = (ds, left)) :
    s = ds ++ left ∧ (∀ d ∈ ds, d.isDigit = true) ∧ EndsDigits left := by
  rw [takeDigits_eq] at h
  obtain ⟨rfl, rfl⟩ := Prod.mk.inj h
  refine ⟨(List.takeWhile_append_dropWhile).symm, fun d hd => List.mem_takeWhile_imp hd, ?_⟩
  intro c hc
  have hhead := List.head?_dropWhile_not Char.isDigit s
  rw [hc] at hhead
  simpa using hhead

theorem accept?_eq_some {c : Char} : accept? c s = some left ↔ s = c :: left := by
  cases s with
  | nil => simp [accept?]
  | cons d s =>
    simp only [accept?, List.cons.injEq]
    split
    · next h => simp [h]
    · next h => simp [h]

theorem accept?_eq_none {c : Char} : accept? c s = none ↔ s.head? ≠ some c := by
  cases s with
  | nil => simp [accept?]
  | cons d s => simp [accept?]

theorem sign_takeSign (s : List Char) :
    ∃ sign, Sign sign (takeSign s).1 ∧ s = sign ++ (takeSign s).2 := by
  unfold takeSign
  split
  · exact ⟨['-'], .minus, rfl⟩
  · exact ⟨['+'], .plus, rfl⟩
  · exact ⟨[], .absent, rfl⟩

/-- A sign is taken from what begins with none. -/
theorem takeSign_append {sign : List Char} (h : Sign sign negative)
    (hs : s.head? ≠ some '-' ∧ s.head? ≠ some '+') : takeSign (sign ++ s) = (negative, s) := by
  cases h with
  | plus => rfl
  | minus => rfl
  | absent =>
    unfold takeSign
    rw [List.nil_append]
    split
    · exact absurd rfl hs.1
    · exact absurd rfl hs.2
    · rfl

theorem head?_digits (h : Digits ds) :
    ∃ c, (ds ++ s).head? = some c ∧ c.isDigit = true := by
  cases ds with
  | nil => exact absurd rfl h.ne_nil
  | cons c ds => exact ⟨c, rfl, h.isDigit c List.mem_cons_self⟩

theorem noSign_digits (h : Digits ds) :
    (ds ++ s).head? ≠ some '-' ∧ (ds ++ s).head? ≠ some '+' := by
  obtain ⟨c, hc, hdigit⟩ := head?_digits (s := s) h
  rw [hc]
  constructor
  · rintro h
    obtain rfl := Option.some.inj h
    cases hdigit
  · rintro h
    obtain rfl := Option.some.inj h
    cases hdigit

/-! ### From the grammar to the reader -/

theorem takeWhole?_append (h : WholePart ds) (hs : EndsDigits s) :
    takeWhole? (ds ++ s) = some (ds, s) := by
  cases h with
  | zero => rfl
  | digits hc hzero hds =>
    rw [List.cons_append, takeWhole?, if_neg hzero, if_pos hc]
    rw [takeDigits_append hds hs]

theorem endsDigits_fraction {f : List Char} {fraction : Option (List Char)}
    (h : Fraction f fraction) (hs : EndsDigits s) : EndsDigits (f ++ s) := by
  cases h with
  | absent => exact hs
  | present =>
    intro c hc
    obtain rfl := Option.some.inj hc
    rfl

theorem endsDigits_power {p : List Char} {power : Option Int} (h : Power p power)
    (hs : EndsDigits s) : EndsDigits (p ++ s) := by
  cases h with
  | absent => exact hs
  | present he =>
    intro c hc
    obtain rfl := Option.some.inj hc
    rcases he with rfl | rfl <;> rfl

/-- A fraction is read from what begins with none. -/
theorem takePoint_append {f : List Char} {fraction : Option (List Char)} (h : Fraction f fraction)
    (hs : EndsDigits s) (hpoint : s.head? ≠ some '.') : takePoint (f ++ s) = (fraction, s) := by
  cases h with
  | absent => rw [List.nil_append, takePoint, accept?_eq_none.2 hpoint]
  | @present ds hds =>
    rw [List.cons_append, takePoint, accept?_eq_some.2 rfl]
    dsimp only
    rw [takeDigits_append hds.isDigit hs]
    cases ds with
    | nil => exact absurd rfl hds.ne_nil
    | cons d ds => rfl

/-- A power of ten is read from what begins with none. -/
theorem takePower_append {p : List Char} {power : Option Int} (h : Power p power) (hs : Ends s) :
    takePower (p ++ s) = (power, s) := by
  cases h with
  | absent =>
    unfold takePower
    cases s with
    | nil => rfl
    | cons c s =>
      obtain ⟨-, -, he, hE⟩ := hs c rfl
      simp [he, hE]
  | @present e sign ds negative he hsign hds =>
    have hexponent : (decide (e = 'e') || decide (e = 'E')) = true := by simpa using he
    rw [List.cons_append, List.append_assoc, takePower, if_pos hexponent,
      takeSign_append hsign (noSign_digits hds)]
    dsimp only
    rw [takeDigits_append hds.isDigit hs.digits]
    cases ds with
    | nil => exact absurd rfl hds.ne_nil
    | cons d ds => rfl

theorem head?_power_ne_point {p : List Char} {power : Option Int} (h : Power p power)
    (hs : Ends s) : (p ++ s).head? ≠ some '.' := by
  cases h with
  | absent => exact fun hc => (hs _ hc).2.1 rfl
  | present he =>
    intro hc
    obtain rfl := Option.some.inj hc
    rcases he with he | he <;> cases he

/-- The parts of a number are read one after the other. -/
theorem readNumber_append (limits : Limits) {whole f p : List Char} {fraction : Option (List Char)}
    {power : Option Int} (hwhole : WholePart whole) (hf : Fraction f fraction) (hp : Power p power)
    (hs : Ends s) (start : Nat) (negative : Bool) :
    readNumber limits start negative (whole ++ (f ++ (p ++ s)))
      = if ((fraction.isNone && power.isNone) || limits.floatDigits)
            && digitLimit < whole.length then
          .error ⟨.tooManyDigits whole.length, start⟩
        else if fraction.isNone && power.isNone then
          .ok (.integer (Binary64.signed negative (decimalValue whole)), s)
        else .ok (.float (.ofDecimal negative (decimalValue (whole ++ fraction.getD []))
          (power.getD 0 - (fraction.getD []).length)), s) := by
  have hpower := endsDigits_power hp hs.digits
  rw [readNumber, takeWhole?_append hwhole (endsDigits_fraction hf hpower)]
  dsimp only
  rw [takePoint_append hf hpower (head?_power_ne_point hp hs)]
  dsimp only
  rw [takePower_append hp hs]

theorem head_wholePart {whole : List Char} (h : WholePart whole) :
    ∃ c ds, whole = c :: ds ∧ c.isDigit = true := by
  cases h with
  | zero => exact ⟨'0', [], rfl, rfl⟩
  | digits hc => exact ⟨_, _, rfl, hc⟩

theorem literals_eq : literals = [
    (['n', 'u', 'l', 'l'], .null), (['t', 'r', 'u', 'e'], .bool true),
    (['f', 'a', 'l', 's', 'e'], .bool false), (['N', 'a', 'N'], .float .nan),
    (['I', 'n', 'f', 'i', 'n', 'i', 't', 'y'], .float (.infinity false)),
    (['-', 'I', 'n', 'f', 'i', 'n', 'i', 't', 'y'], .float (.infinity true))] :=
  rfl

/-- Nothing that begins as a number is a literal. -/
theorem noLiteral_digit {c : Char} (hc : c.isDigit = true) (negative : Bool) (s : List Char) :
    (literals.findSome? fun (word, value) =>
      (dropWord? word (minusText negative ++ c :: s)).map fun rest => (value, rest)) = none := by
  have hn : ¬ 'n' = c := by rintro rfl; cases hc
  have ht : ¬ 't' = c := by rintro rfl; cases hc
  have hf : ¬ 'f' = c := by rintro rfl; cases hc
  have hN : ¬ 'N' = c := by rintro rfl; cases hc
  have hI : ¬ 'I' = c := by rintro rfl; cases hc
  have hminus : ¬ '-' = c := by rintro rfl; cases hc
  rw [literals_eq]
  cases negative <;> simp [minusText, dropWord?, hn, ht, hf, hN, hI, hminus]

/-- A number is read without its sign, which was taken before. -/
theorem readScalar_digit {c : Char} (hc : c.isDigit = true) (negative : Bool) (s : List Char) :
    readScalar limits (minusText negative ++ c :: s)
      = readNumber limits (minusText negative ++ c :: s).length negative (c :: s) := by
  rw [readScalar, noLiteral_digit hc]
  cases negative with
  | true => rfl
  | false =>
    have hminus : ('-' : Char) ≠ c := by rintro rfl; cases hc
    dsimp only
    rw [show minusText false ++ c :: s = c :: s from rfl,
      accept?_eq_none.2 (by simpa using hminus.symm)]

/-- **A number is read**, if its text has ended. -/
theorem readScalar_of_number (h : NumberText limits t v) (hs : Ends s) :
    readScalar limits (t ++ s) = .ok (v, s) := by
  cases h with
  | @integer negative whole hwhole hlimit =>
    have hread := readNumber_append limits hwhole .absent .absent hs
      (minusText negative ++ (whole ++ s)).length negative
    obtain ⟨c, ds, rfl, hc⟩ := head_wholePart hwhole
    rw [List.append_assoc, List.cons_append, readScalar_digit hc]
    refine hread.trans ?_
    have hfew : decide (digitLimit < (c :: ds).length) = false := by
      rw [decide_eq_false_iff_not]
      omega
    rw [hfew, Bool.and_false]
    rfl
  | @float negative whole f p fraction power hwhole hf hp hfloat hlimit =>
    have hread := readNumber_append limits hwhole hf hp hs
      (minusText negative ++ (whole ++ (f ++ (p ++ s)))).length negative
    obtain ⟨c, ds, rfl, hc⟩ := head_wholePart hwhole
    rw [List.append_assoc, List.append_assoc, List.append_assoc, List.cons_append,
      readScalar_digit hc]
    refine hread.trans ?_
    have hparts : (fraction.isNone && power.isNone) = false := by
      rw [← Bool.not_eq_true, Bool.and_eq_true, Option.isNone_iff_eq_none,
        Option.isNone_iff_eq_none]
      exact hfloat
    have hfew : ¬ ((limits.floatDigits && decide (digitLimit < (c :: ds).length)) = true) := by
      simp only [Bool.and_eq_true, decide_eq_true_eq, not_and]
      intro h
      have := hlimit h
      omega
    rw [hparts, Bool.false_or, if_neg hfew]
    rfl

/-! ### From the reader to the grammar -/

theorem of_takeWhole? (h : takeWhole? s = some (ds, left)) : WholePart ds ∧ s = ds ++ left := by
  unfold takeWhole? at h
  split at h
  · cases h
  · next c rest =>
    split at h
    · next hzero =>
      obtain ⟨rfl, rfl⟩ := Prod.mk.inj (Option.some.inj h)
      rw [hzero]
      exact ⟨.zero, rfl⟩
    · next hzero =>
      split at h
      · next hc =>
        obtain ⟨rfl, rfl⟩ := Prod.mk.inj (Option.some.inj h)
        obtain ⟨hrest, hds, -⟩ := of_takeDigits (s := rest) rfl
        refine ⟨.digits hc hzero hds, ?_⟩
        rw [List.cons_append, ← hrest]
      · cases h

theorem of_takePoint {fraction : Option (List Char)} (h : takePoint s = (fraction, left)) :
    ∃ f, Fraction f fraction ∧ s = f ++ left := by
  unfold takePoint at h
  split at h
  · obtain ⟨rfl, rfl⟩ := Prod.mk.inj h
    exact ⟨[], .absent, rfl⟩
  · next rest hpoint =>
    split at h
    · obtain ⟨rfl, rfl⟩ := Prod.mk.inj h
      exact ⟨[], .absent, rfl⟩
    · next ds after hne htake =>
      obtain ⟨rfl, rfl⟩ := Prod.mk.inj h
      obtain ⟨rfl, hds, -⟩ := of_takeDigits htake
      refine ⟨'.' :: ds, .present ⟨?_, hds⟩, accept?_eq_some.1 hpoint⟩
      rintro rfl
      exact hne rfl

theorem of_takePower {power : Option Int} (h : takePower s = (power, left)) :
    ∃ p, Power p power ∧ s = p ++ left := by
  unfold takePower at h
  split at h
  · next c rest =>
    split at h
    · next he =>
      dsimp only at h
      split at h
      · obtain ⟨rfl, rfl⟩ := Prod.mk.inj h
        exact ⟨[], .absent, rfl⟩
      · next ds after hne htake =>
        obtain ⟨rfl, rfl⟩ := Prod.mk.inj h
        obtain ⟨hdigits, hds, -⟩ := of_takeDigits htake
        obtain ⟨sign, hsign, hrest⟩ := sign_takeSign rest
        refine ⟨c :: (sign ++ ds), .present (by simpa using he) hsign ⟨?_, hds⟩, ?_⟩
        · rintro rfl
          exact hne rfl
        · rw [List.cons_append, List.append_assoc, ← hdigits, ← hrest]
    · obtain ⟨rfl, rfl⟩ := Prod.mk.inj h
      exact ⟨[], .absent, rfl⟩
  · obtain ⟨rfl, rfl⟩ := Prod.mk.inj h
    exact ⟨[], .absent, rfl⟩

/-- **What is read as a number** is one. -/
theorem text_of_readNumber (h : readNumber limits start negative s = .ok (v, left)) :
    ∃ t, NumberText limits (minusText negative ++ t) v ∧ s = t ++ left := by
  unfold readNumber at h
  split at h
  · cases h
  · next whole rest htake =>
    obtain ⟨hwhole, rfl⟩ := of_takeWhole? htake
    rcases hpoint : takePoint rest with ⟨fraction, rest₁⟩
    rw [hpoint] at h
    dsimp only at h
    rcases hpower : takePower rest₁ with ⟨power, rest₂⟩
    rw [hpower] at h
    dsimp only at h
    obtain ⟨f, hf, rfl⟩ := of_takePoint hpoint
    obtain ⟨p, hp, rfl⟩ := of_takePower hpower
    split at h
    · cases h
    · next hfew =>
      split at h
      · next hparts =>
        obtain ⟨rfl, rfl⟩ := Prod.mk.inj (Except.ok.inj h)
        rw [hparts] at hfew
        have hlimit : whole.length ≤ digitLimit := by simpa using hfew
        simp only [Bool.and_eq_true, Option.isNone_iff_eq_none] at hparts
        obtain ⟨rfl, rfl⟩ := hparts
        cases hf
        cases hp
        exact ⟨whole, .integer hwhole hlimit, rfl⟩
      · next hparts =>
        obtain ⟨rfl, rfl⟩ := Prod.mk.inj (Except.ok.inj h)
        refine ⟨whole ++ (f ++ p), .float hwhole hf hp ?_ ?_, ?_⟩
        · rw [Bool.and_eq_true, Option.isNone_iff_eq_none, Option.isNone_iff_eq_none] at hparts
          exact hparts
        · intro hdigits
          rw [hdigits] at hfew
          simpa using hfew
        · simp only [List.append_assoc]

end ConceptQuery.Json
