import ConceptQuery.Proofs.Number.Numeral
import ConceptQuery.Proofs.Time.Reading
import Mathlib.Tactic.SplitIfs

/-!
# Texts that give no time

A written timestamp fails for one reason, that it is none; only the step to universal time can
leave the calendar.

* `Date.InRange.dayNumber_bounds` — the numbers of the days of the calendar;
* `Parts.Written`, `written_of_readParts?` — what digits can spell, and that all numbers read are
  such;
* `read_error` — the one failure of a written timestamp;
* `InCalendar` — a moment for which a clock of universal time has a reading;
* `readUtc_cases` — the three outcomes of a text.
-/

namespace ConceptQuery

open Time

namespace Time

/-! ### Days of the calendar -/

/-- The days before a month and those of the month are days of the year. -/
theorem days_take_monthLengths (leap : Bool) (i : Fin 12) :
    0 ≤ days ((monthLengths leap).take i)
      ∧ days ((monthLengths leap).take i) + ((monthLengths leap)[(i : Nat)]?).getD 0
        ≤ days (monthLengths leap) := by
  revert leap i
  decide

/-- The years of the calendar follow each other within its days. -/
theorem daysBeforeYear_bounds {year : Int} (h : 1 ≤ year) (hmax : year ≤ maxYear) :
    0 ≤ daysBeforeYear year ∧ daysBeforeYear year + yearLength year ≤ dayCount := by
  unfold maxYear at hmax
  unfold daysBeforeYear yearLength dayCount
  dsimp only
  split
  · next hleap =>
    rw [isLeap_iff] at hleap
    omega
  · omega

/-- **The days of the calendar** have the numbers below their count. -/
theorem Date.InRange.dayNumber_bounds {d : Date} (h : d.InRange) :
    0 ≤ d.dayNumber ∧ d.dayNumber < dayCount := by
  obtain ⟨hyear, hmax, hmonth, hmonths, hday, hle⟩ := h
  obtain ⟨hbefore, hyears⟩ := daysBeforeYear_bounds hyear hmax
  have hindex : (d.month - 1).toNat < 12 := by omega
  obtain ⟨hstart, hend⟩ := days_take_monthLengths (isLeap d.year) ⟨_, hindex⟩
  rw [days_monthLengths] at hend
  have hnumber : d.dayNumber = daysBeforeYear d.year
      + days ((monthLengths (isLeap d.year)).take (d.month - 1).toNat) + (d.day - 1) := rfl
  unfold monthLength at hle
  dsimp only at hstart hend
  omega

/-! ### Digits -/

/-- Numbers that digits can spell: none is negative, and a fraction of a second is below one. -/
structure Parts.Written (p : Parts) : Prop where
  hour : 0 ≤ p.hour
  minute : 0 ≤ p.minute
  second : 0 ≤ p.second
  micros_nonneg : 0 ≤ p.micros
  micros_lt : p.micros < 1000000

theorem takeNumber?_bounds {count : Nat} {s rest : List Char} {n : Int}
    (h : takeNumber? count s = some (n, rest)) : 0 ≤ n ∧ n < (10 ^ count : Nat) := by
  unfold takeNumber? at h
  dsimp only at h
  split at h
  · next hdigits =>
    obtain ⟨hlength, hall⟩ := Bool.and_eq_true_iff.1 hdigits
    obtain ⟨rfl, -⟩ := Prod.mk.inj (Option.some.inj h)
    have hlt := decimalValue_lt fun c hc => List.all_eq_true.1 hall c hc
    rw [of_decide_eq_true hlength] at hlt
    exact ⟨Int.natCast_nonneg _, Int.ofNat_lt.2 hlt⟩
  · cases h

/-- Each pair of digits is read by itself, whatever tells the pairs apart. -/
theorem nonneg_of_readPairs? {count : Nat} {colons : Option Bool} {s : List Char}
    {values : List Int} {tail : Tail} (h : readPairs? count colons s = some (values, tail)) :
    ∀ n ∈ values, 0 ≤ n := by
  induction count generalizing colons s values tail with
  | zero =>
    obtain ⟨rfl, -⟩ := Prod.mk.inj (Option.some.inj h)
    exact nofun
  | succ count ih =>
    rw [readPairs?] at h
    obtain ⟨⟨value, rest⟩, htake, h⟩ := Option.bind_eq_some_iff.1 h
    have hvalue := (takeNumber?_bounds htake).1
    have hlast : ∀ n ∈ [value], 0 ≤ n := List.forall_mem_singleton.2 hvalue
    have hmore {known : Bool} {more : List Char}
        (h : (readPairs? count (some known) more >>= fun pairs =>
          some (value :: pairs.1, pairs.2)) = some (values, tail)) : ∀ n ∈ values, 0 ≤ n := by
      obtain ⟨⟨others, _⟩, hothers, h⟩ := Option.bind_eq_some_iff.1 h
      obtain ⟨rfl, -⟩ := Prod.mk.inj (Option.some.inj h)
      exact List.forall_mem_cons.2 ⟨hvalue, ih hothers⟩
    dsimp only at h
    split at h
    · obtain ⟨rfl, -⟩ := Prod.mk.inj (Option.some.inj h)
      exact hlast
    · split at h
      · obtain ⟨rfl, -⟩ := Prod.mk.inj (Option.some.inj h)
        exact hlast
      · cases h
    · split at h
      · exact hmore h
      · split at h
        · obtain ⟨rfl, -⟩ := Prod.mk.inj (Option.some.inj h)
          exact hlast
        · split at h
          · cases h
          · exact hmore h

theorem readFraction?_bounds {s rest : List Char} {n : Int}
    (h : readFraction? s = some (n, rest)) : 0 ≤ n ∧ n < 1000000 := by
  obtain ⟨⟨value, _⟩, htake, h⟩ := Option.bind_eq_some_iff.1 h
  obtain ⟨rfl, -⟩ := Prod.mk.inj (Option.some.inj h)
  obtain ⟨hvalue, hlt⟩ := takeNumber?_bounds htake
  have hpow : 10 ^ min 6 s.length * 10 ^ (6 - min 6 s.length) = 1000000 := by
    rw [← Nat.pow_add, Nat.add_sub_cancel' (Nat.min_le_left _ _)]
  have hpos : 0 < 10 ^ (6 - min 6 s.length) := Nat.pow_pos (by decide)
  refine ⟨Int.mul_nonneg hvalue (Int.natCast_nonneg _), ?_⟩
  calc value * (10 ^ (6 - min 6 s.length) : Nat)
      < (10 ^ min 6 s.length : Nat) * (10 ^ (6 - min 6 s.length) : Nat) :=
        Int.mul_lt_mul_of_pos_right hlt (Int.ofNat_lt.2 hpos)
    _ = 1000000 := by
      rw [← Int.natCast_mul, hpow]
      rfl

theorem readClock?_bounds {s : List Char} {hour minute second micros : Int} {more : Bool}
    (h : readClock? s = some ((hour, minute, second, micros), more)) :
    0 ≤ hour ∧ 0 ≤ minute ∧ 0 ≤ second ∧ 0 ≤ micros ∧ micros < 1000000 := by
  obtain ⟨⟨values, tail⟩, hpairs, h⟩ := Option.bind_eq_some_iff.1 h
  have hvalue (i : Nat) : 0 ≤ (values[i]?).getD 0 := by
    cases hget : values[i]? with
    | none => exact Int.le_refl 0
    | some n => exact nonneg_of_readPairs? hpairs n (List.mem_of_getElem? hget)
  cases tail with
  | finished left =>
    cases h
    exact ⟨hvalue 0, hvalue 1, hvalue 2, Int.le_refl 0, by decide⟩
  | fraction f =>
    obtain ⟨⟨fraction, left⟩, hfraction, h⟩ := Option.bind_eq_some_iff.1 h
    cases h
    exact ⟨hvalue 0, hvalue 1, hvalue 2, readFraction?_bounds hfraction⟩

/-- **All numbers that are read** are such as digits can spell. -/
theorem written_of_readParts? {s : List Char} {p : Parts} (h : readParts? s = some p) :
    p.Written := by
  obtain ⟨length, -, h⟩ := Option.bind_eq_some_iff.1 h
  obtain ⟨date, -, h⟩ := Option.bind_eq_some_iff.1 h
  dsimp only at h
  split at h
  · cases h
    have hzero : (0 : Int) ≤ 0 := Int.le_refl 0
    have hsecond : (0 : Int) < 1000000 := by decide
    exact ⟨hzero, hzero, hzero, hzero, hsecond⟩
  · obtain ⟨⟨⟨hour, minute, second, micros⟩, offset⟩, htime, h⟩ := Option.bind_eq_some_iff.1 h
    obtain ⟨⟨⟨hour', minute', second', micros'⟩, more⟩, hclock, htime⟩ :=
      Option.bind_eq_some_iff.1 htime
    obtain ⟨hhour, hminute, hsecond, hmicros, hlt⟩ := readClock?_bounds hclock
    have hsame : (hour', minute', second', micros') = (hour, minute, second, micros) := by
      dsimp only at htime
      split at htime
      · split at htime
        · cases htime
        · exact congrArg Prod.fst (Option.some.inj htime)
      · obtain ⟨_, -, htime⟩ := Option.bind_eq_some_iff.1 htime
        exact congrArg Prod.fst (Option.some.inj htime)
    cases hsame
    cases h
    exact ⟨hhour, hminute, hsecond, hmicros, hlt⟩

/-! ### Written timestamps -/

/-- Numbers without a fault are a date of the calendar and a time of day. -/
theorem Parts.of_fault?_eq_none {p : Parts} (h : p.fault? = none) :
    p.date.InRange ∧ p.hour ≤ 23 ∧ p.minute ≤ 59 ∧ p.second ≤ 59 := by
  unfold Parts.fault? at h
  split_ifs at h with hyear hmonth hday hhour hminute hsecond
  simp only [Bool.or_eq_true, decide_eq_true_eq, not_or, Int.not_lt] at hyear hmonth hday
  exact ⟨⟨hyear.1, hyear.2, hmonth.1, hmonth.2, hday.1, hday.2⟩, Int.not_lt.1 hhour,
    Int.not_lt.1 hminute, Int.not_lt.1 hsecond⟩

/-- Such numbers are shown by a clock within the calendar. -/
theorem Parts.Written.clock_bounds {p : Parts} (h : p.Written) (hfault : p.fault? = none) :
    0 ≤ p.clock ∧ p.clock < clockRange := by
  obtain ⟨hdate, hhour, hminute, hsecond⟩ := Parts.of_fault?_eq_none hfault
  obtain ⟨hday, hdays⟩ := hdate.dayNumber_bounds
  obtain ⟨hhour', hminute', hsecond', hmicros, hmicros'⟩ := h
  unfold Parts.clock clockRange dayCount dayMicros
  unfold dayCount at hdays
  omega

end Time

namespace Timestamp

variable {s : String} {f : Failure}

theorem ofClock_eq_ok {clock offset : Int} (hclock : 0 ≤ clock ∧ clock < clockRange)
    (hoffset : -dayMicros < offset ∧ offset < dayMicros) :
    ∃ t, ofClock clock offset = .ok t ∧ t.clock = clock ∧ t.offset = offset := by
  refine ⟨⟨clock, offset, hclock.1, hclock.2, hoffset.1, hoffset.2⟩, ?_, rfl, rfl⟩
  rw [ofClock, ofClock?, dif_pos ⟨hclock, hoffset⟩]

theorem ofParts_error {p : Parts} (h : p.Written) (hf : ofParts p = .error f) :
    ∃ text, f = .invalidValue text := by
  unfold ofParts at hf
  dsimp only at hf
  split at hf
  · exact ⟨_, (Except.error.inj hf).symm⟩
  · next hoffset =>
    simp only [Bool.or_eq_true, decide_eq_true_eq, not_or, Int.not_le] at hoffset
    split at hf
    · exact ⟨_, (Except.error.inj hf).symm⟩
    · next hfault =>
      obtain ⟨t, ht, -⟩ := ofClock_eq_ok (h.clock_bounds hfault) hoffset.symm
      rw [ht] at hf
      cases hf

/-- **A text that is no timestamp** is refused in one way. -/
theorem read_error (h : read s = .error f) : ∃ text, f = .invalidValue text := by
  unfold read at h
  split at h
  · exact ⟨_, (Except.error.inj h).symm⟩
  · next hparts => exact ofParts_error (written_of_readParts? hparts) h

/-! ### Universal time -/

/-- Whether a clock of universal time can show the moment of a timestamp. -/
def InCalendar (t : Timestamp) : Prop :=
  0 ≤ t.instant ∧ t.instant < clockRange

theorem toUtc_of_inCalendar {t : Timestamp} (h : t.InCalendar) :
    ∃ u, t.toUtc = .ok u ∧ u.instant = t.instant ∧ u.offset = 0 := by
  have hzero : -dayMicros < 0 ∧ 0 < dayMicros := by decide
  obtain ⟨u, hu, hclock, hoffset⟩ := ofClock_eq_ok h hzero
  refine ⟨u, hu, ?_, hoffset⟩
  rw [instant, hclock, hoffset, Int.sub_zero]

theorem toUtc_of_not_inCalendar {t : Timestamp} (h : ¬ t.InCalendar) :
    t.toUtc = .error outOfRange := by
  have hno : ¬ ((0 ≤ t.instant ∧ t.instant < clockRange) ∧ -dayMicros < 0 ∧ 0 < dayMicros) :=
    fun hall => h hall.1
  rw [toUtc, ofClock, ofClock?, dif_neg hno]

/-- **The three outcomes of a text**: the moment that it spells, in universal time; a refusal of a
text that spells none; or the failure of a moment outside of the calendar. -/
theorem readUtc_cases (s : String) :
    (∃ t u, read (spellZone s) = .ok t ∧ t.InCalendar ∧ readUtc s = .ok u
        ∧ u.instant = t.instant ∧ u.offset = 0)
      ∨ (∃ text, read (spellZone s) = .error (.invalidValue text)
        ∧ readUtc s = .error (.invalidValue text))
      ∨ ∃ t, read (spellZone s) = .ok t ∧ ¬ t.InCalendar ∧ readUtc s = .error outOfRange := by
  unfold readUtc
  cases hread : read (spellZone s) with
  | error f =>
    obtain ⟨text, rfl⟩ := read_error hread
    exact .inr (.inl ⟨text, rfl, rfl⟩)
  | ok t =>
    by_cases h : t.InCalendar
    · obtain ⟨u, hu, hinstant, hoffset⟩ := toUtc_of_inCalendar h
      exact .inl ⟨t, u, rfl, h, hu, hinstant, hoffset⟩
    · exact .inr (.inr ⟨t, rfl, h, toUtc_of_not_inCalendar h⟩)

end Timestamp

end ConceptQuery
