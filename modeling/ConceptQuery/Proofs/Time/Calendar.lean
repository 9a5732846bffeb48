import ConceptQuery.Time.Calendar

/-!
# Dates and day numbers

* `yearOfDay_spec` — a day number is that of the first day of its year and a day within the year;
* `monthOfDay_spec` — a day within a year is that of the first day of its month and a day within the
  month;
* `Date.InRange` — the dates of the calendar;
* `dateOfDay_spec` — the date of a day is one of them and has its number.
-/

namespace ConceptQuery.Time

/-! ### Years -/

/-- The number of days of a year. -/
def yearLength (year : Int) : Int :=
  if isLeap year then 366 else 365

theorem isLeap_iff {year : Int} :
    isLeap year = true ↔ year % 4 = 0 ∧ (year % 100 ≠ 0 ∨ year % 400 = 0) := by
  simp [isLeap]

/-- The days before the year that begins after periods of four hundred, one hundred, four and one
years. -/
theorem daysBeforeYear_periods {a b c d : Int} (hb : 0 ≤ b ∧ b ≤ 3) (hc : 0 ≤ c ∧ c ≤ 24)
    (hd : 0 ≤ d ∧ d ≤ 3) :
    daysBeforeYear (400 * a + 100 * b + 4 * c + d + 1)
      = 146097 * a + 36524 * b + 1461 * c + 365 * d := by
  have hyears : 400 * a + 100 * b + 4 * c + d + 1 - 1 = 400 * a + 100 * b + 4 * c + d := by omega
  have hfours : (400 * a + 100 * b + 4 * c + d) / 4 = 100 * a + 25 * b + c := by omega
  have hhundreds : (400 * a + 100 * b + 4 * c + d) / 100 = 4 * a + b := by omega
  have hfourHundreds : (400 * a + 100 * b + 4 * c + d) / 400 = a := by omega
  rw [daysBeforeYear, hyears, hfours, hhundreds, hfourHundreds]
  omega

/-- **The year of a day**: the days before it, and a day within its length. The periods of four
hundred, one hundred and four years each begin with years without a leap day, and the last one of
them may be one day longer than the others. -/
theorem yearOfDay_spec {n : Int} (h : 0 ≤ n) :
    n = daysBeforeYear (yearOfDay n).1 + (yearOfDay n).2 ∧ 0 ≤ (yearOfDay n).2
      ∧ (yearOfDay n).2 < yearLength (yearOfDay n).1 ∧ 1 ≤ (yearOfDay n).1 := by
  unfold yearOfDay
  dsimp only
  generalize ha : n / 146097 = a
  generalize hm : n % 146097 = m
  generalize hb : min (m / 36524) 3 = b
  generalize hk : m - 36524 * b = k
  generalize hc : k / 1461 = c
  generalize hl : k % 1461 = l
  generalize hd : min (l / 365) 3 = d
  have hm0 : 0 ≤ m ∧ m < 146097 ∧ n = 146097 * a + m := by omega
  have hk0 : 0 ≤ b ∧ b ≤ 3 ∧ 0 ≤ k ∧ k ≤ 36524 ∧ (k = 36524 → b = 3) := by omega
  have hl0 : 0 ≤ c ∧ c ≤ 24 ∧ 0 ≤ l ∧ l < 1461 ∧ k = 1461 * c + l := by omega
  have hd0 : 0 ≤ d ∧ d ≤ 3 ∧ 0 ≤ l - 365 * d ∧ l - 365 * d ≤ 365
      ∧ (l - 365 * d = 365 → d = 3) := by omega
  clear ha hm hb hc hl hd
  refine ⟨?_, hd0.2.2.1, ?_, by omega⟩
  · rw [daysBeforeYear_periods ⟨hk0.1, hk0.2.1⟩ ⟨hl0.1, hl0.2.1⟩ ⟨hd0.1, hd0.2.1⟩]
    omega
  · unfold yearLength
    split
    · omega
    · next hleap =>
      rw [isLeap_iff] at hleap
      omega

/-- The days of the calendar are those of its years. -/
theorem year_le_maxYear {n : Int} (h : 0 ≤ n) (hn : n < dayCount) : (yearOfDay n).1 ≤ maxYear := by
  obtain ⟨hsum, hrest, -, -⟩ := yearOfDay_spec h
  unfold daysBeforeYear at hsum
  dsimp only at hsum
  unfold dayCount at hn
  unfold maxYear
  omega

/-! ### Months -/

/-- The number of days of some months. -/
def days (lengths : List Int) : Int :=
  lengths.foldl (· + ·) 0

theorem foldl_add (start : Int) (lengths : List Int) :
    lengths.foldl (· + ·) start = start + days lengths := by
  unfold days
  induction lengths generalizing start with
  | nil =>
    show start = start + 0
    rw [Int.add_zero]
  | cons length rest ih =>
    rw [List.foldl_cons, List.foldl_cons, ih, ih (0 + length), Int.zero_add, Int.add_assoc]

@[simp] theorem days_nil : days [] = 0 := rfl

theorem days_cons (length : Int) (rest : List Int) :
    days (length :: rest) = length + days rest := by
  show rest.foldl (· + ·) (0 + length) = _
  rw [foldl_add, Int.zero_add]

/-- **The month of a day**: the days of the months before it, and a day within its length. -/
theorem monthOfDay_spec {lengths : List Int} {n : Int} (m : Int) (h : 0 ≤ n)
    (hn : n < days lengths) :
    ∃ i : Nat, ∃ length, lengths[i]? = some length ∧ (monthOfDay m lengths n).1 = m + i
      ∧ days (lengths.take i) + ((monthOfDay m lengths n).2 - 1) = n
      ∧ 1 ≤ (monthOfDay m lengths n).2 ∧ (monthOfDay m lengths n).2 ≤ length := by
  induction lengths generalizing m n with
  | nil =>
    rw [days_nil] at hn
    omega
  | cons length rest ih =>
    rw [days_cons] at hn
    rw [monthOfDay]
    by_cases hfirst : n < length
    · rw [if_pos hfirst]
      refine ⟨0, length, rfl, ?_, ?_, ?_, ?_⟩
      · show m = m + 0
        omega
      · show 0 + (n + 1 - 1) = n
        omega
      · show 1 ≤ n + 1
        omega
      · show n + 1 ≤ length
        omega
    · rw [if_neg hfirst]
      obtain ⟨i, last, hlast, hmonth, hdays, hday, hle⟩ :=
        ih (m + 1) (n := n - length) (by omega) (by omega)
      refine ⟨i + 1, last, hlast, ?_, ?_, hday, hle⟩
      · rw [hmonth]
        omega
      · rw [List.take_succ_cons, days_cons]
        omega

theorem length_monthLengths (leap : Bool) : (monthLengths leap).length = 12 := rfl

theorem days_monthLengths (year : Int) : days (monthLengths (isLeap year)) = yearLength year := by
  unfold yearLength
  cases isLeap year
  · rfl
  · rfl

/-! ### Dates -/

/-- A date of the calendar. -/
structure Date.InRange (d : Date) : Prop where
  year_pos : 1 ≤ d.year
  year_le : d.year ≤ maxYear
  month_pos : 1 ≤ d.month
  month_le : d.month ≤ 12
  day_pos : 1 ≤ d.day
  day_le : d.day ≤ monthLength d.year d.month

/-- **Days and dates correspond**: the date of a day of the calendar is in its range and has the
number of the day. -/
theorem dateOfDay_spec {n : Int} (h : 0 ≤ n) (hn : n < dayCount) :
    (dateOfDay n).InRange ∧ (dateOfDay n).dayNumber = n := by
  obtain ⟨hdays, hrest, hlt, hyear⟩ := yearOfDay_spec h
  have hmax := year_le_maxYear h hn
  generalize hy : yearOfDay n = y at hdays hrest hlt hyear hmax
  obtain ⟨year, rest⟩ := y
  rw [← days_monthLengths] at hlt
  obtain ⟨i, length, hlength, hmonth, hsum, hday, hle⟩ := monthOfDay_spec 1 hrest hlt
  have hi : i < 12 := by
    have hbound := (List.getElem?_eq_some_iff.1 hlength).1
    rwa [length_monthLengths] at hbound
  have hdate : dateOfDay n = ⟨year, 1 + i, (monthOfDay 1 (monthLengths (isLeap year)) rest).2⟩ := by
    rw [← hmonth, dateOfDay, hy]
  have hindex : (1 + (i : Int) - 1).toNat = i := by omega
  rw [hdate]
  refine ⟨⟨hyear, hmax, ?_, ?_, hday, ?_⟩, ?_⟩
  · show (1 : Int) ≤ 1 + i
    omega
  · show 1 + (i : Int) ≤ 12
    omega
  · show _ ≤ ((monthLengths (isLeap year))[(1 + (i : Int) - 1).toNat]?).getD 0
    rw [hindex, hlength]
    exact hle
  · show daysBeforeYear year + days ((monthLengths (isLeap year)).take
      (1 + (i : Int) - 1).toNat) + (_ - 1) = n
    rw [hindex, Int.add_assoc, hsum]
    exact hdays.symm

end ConceptQuery.Time
