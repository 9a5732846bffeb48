import ConceptQuery.Proofs.Text.Utf8
import ConceptQuery.Proofs.Time.Calendar
import ConceptQuery.Time.Reader

/-!
# Reading back what was written

The text of a timestamp is read as its numbers, and that of a timestamp of universal time as this
timestamp.

* `Fits`, `Fits.takeNumber?` — a number with a fixed count of digits;
* `FitsDate.readDate?`, `FitsTime.readClock?` — the date, and the time of day;
* `keptOffset`, `readOffset?_offsetText`, `FitsTime.readTime?` — the offset, with or without
  seconds, and a time of day with an offset;
* `parts`, `readParts?_toText` — the numbers of a timestamp, which are in their ranges;
* `readUtc_toText` — the timestamp.
-/

namespace ConceptQuery

open Time

namespace Timestamp

/-! ### Digits -/

theorem toList_padded (width : Nat) (n : Nat) :
    (padded width n).toList
      = List.replicate (width - (Nat.toDigits 10 n).length) '0' ++ Nat.toDigits 10 n := by
  have hdigits : (toString (n : Int).natAbs).toList = Nat.toDigits 10 n := Nat.toList_repr
  rw [padded, String.toList_append, String.toList_ofList, hdigits, ← String.length_toList, hdigits]

theorem length_padded {width n : Nat} (hw : 0 < width) (h : n < Nat.pow 10 width) :
    (padded width n).toList.length = width := by
  have hle := (Nat.length_toDigits_le_iff (by decide) hw).2 h
  rw [toList_padded, List.length_append, List.length_replicate]
  omega

theorem isDigit_of_mem_padded {width n : Nat} {c : Char} (h : c ∈ (padded width n).toList) :
    c.isDigit = true := by
  rw [toList_padded, List.mem_append] at h
  rcases h with h | h
  · obtain ⟨-, rfl⟩ := List.mem_replicate.1 h
    rfl
  · exact Nat.isDigit_of_mem_toDigits (by decide) (by decide) h

theorem ofDigitChars_padded (width n : Nat) :
    Nat.ofDigitChars 10 (padded width n).toList 0 = n := by
  rw [toList_padded, Nat.ofDigitChars_append, Nat.ofDigitChars_replicate_zero, Nat.mul_zero,
    Nat.ofDigitChars_ten_toDigits]

/-- **A number with a fixed count of digits** is read as it was written, whatever follows it. -/
theorem takeNumber?_padded {width n : Nat} (hw : 0 < width) (h : n < Nat.pow 10 width)
    (rest : List Char) :
    takeNumber? width ((padded width n).toList ++ rest) = some ((n : Int), rest) := by
  have hlength := length_padded hw h
  have htake : ((padded width n).toList ++ rest).take width = (padded width n).toList := by
    rw [List.take_append_of_le_length (Nat.le_of_eq hlength.symm), List.take_of_length_le]
    exact Nat.le_of_eq hlength
  have hdrop : ((padded width n).toList ++ rest).drop width = rest := by
    rw [List.drop_append_of_le_length (Nat.le_of_eq hlength.symm), List.drop_of_length_le]
    · rfl
    · exact Nat.le_of_eq hlength
  have hdigits : (padded width n).toList.all Char.isDigit = true := by
    rw [List.all_eq_true]
    exact fun c => isDigit_of_mem_padded
  unfold takeNumber?
  dsimp only
  rw [htake, hdrop, hlength, hdigits, ofDigitChars_padded]
  rw [if_pos]
  simp

/-- A number that is written with a fixed count of digits. -/
structure Fits (width : Nat) (n : Int) : Prop where
  nonneg : 0 ≤ n
  lt : n < (Nat.pow 10 width : Nat)

variable {width : Nat} {n : Int}

theorem fits_of_lt (bound : Nat) (hbound : Nat.pow 10 width = bound) (h : 0 ≤ n) (hn : n < bound) :
    Fits width n := by
  subst hbound
  exact ⟨h, hn⟩

theorem Fits.takeNumber? (h : Fits width n) (hw : 0 < width) (rest : List Char) :
    takeNumber? width ((padded width n).toList ++ rest) = some (n, rest) := by
  obtain ⟨m, rfl⟩ := Int.eq_ofNat_of_zero_le h.nonneg
  exact takeNumber?_padded hw (Int.ofNat_lt.1 h.lt) rest

theorem Fits.length_padded (h : Fits width n) (hw : 0 < width) :
    (padded width n).toList.length = width := by
  obtain ⟨m, rfl⟩ := Int.eq_ofNat_of_zero_le h.nonneg
  exact Timestamp.length_padded hw (Int.ofNat_lt.1 h.lt)

theorem Fits.isDigit (h : Fits width n) {c : Char} (hc : c ∈ (padded width n).toList) :
    c.isDigit = true := by
  obtain ⟨m, rfl⟩ := Int.eq_ofNat_of_zero_le h.nonneg
  exact isDigit_of_mem_padded hc

/-- The first digit. -/
theorem Fits.eq_cons (h : Fits width n) (hw : 0 < width) :
    ∃ d ds, (padded width n).toList = d :: ds ∧ d.isDigit = true := by
  cases hds : (padded width n).toList with
  | nil =>
    have hlength := h.length_padded hw
    rw [hds, List.length_nil] at hlength
    omega
  | cons d ds => exact ⟨d, ds, rfl, h.isDigit (hds ▸ List.mem_cons_self)⟩

/-! ### Dates -/

/-- With hyphens and without a week, a date has ten characters. -/
theorem separator?_eq_ten {s : List Char} (hlength : 7 < s.length) (hhyphen : s[4]? = some '-')
    (hweek : s[5]? ≠ some 'W') : separator? s = some 10 := by
  have hsize := Text.Utf8.length_le_utf8ByteSize s
  unfold separator?
  dsimp only
  rw [if_neg (by omega), if_neg (by omega), if_pos hhyphen, if_neg hweek]

/-- The numbers of a date that is written with four, two and two digits. -/
structure FitsDate (d : Date) : Prop where
  year : Fits 4 d.year
  month : Fits 2 d.month
  day : Fits 2 d.day

/-- The characters of a date. -/
def dateChars (d : Date) : List Char :=
  (padded 4 d.year).toList ++ '-' :: ((padded 2 d.month).toList ++ '-' :: (padded 2 d.day).toList)

variable {d : Date}

theorem FitsDate.length (h : FitsDate d) : (dateChars d).length = 10 := by
  rw [dateChars, List.length_append, List.length_cons, List.length_append, List.length_cons,
    h.year.length_padded (by decide), h.month.length_padded (by decide),
    h.day.length_padded (by decide)]

theorem FitsDate.separator? (h : FitsDate d) (rest : List Char) :
    separator? (dateChars d ++ rest) = some 10 := by
  have hlength := h.length
  have hyear := h.year.length_padded (by decide)
  obtain ⟨c, cs, hmonth, hdigit⟩ := h.month.eq_cons (by decide)
  apply separator?_eq_ten
  · rw [List.length_append, hlength]
    omega
  · rw [dateChars, List.append_assoc, List.getElem?_append_right (Nat.le_of_eq hyear), hyear]
    rfl
  · have hfifth : (dateChars d ++ rest)[5]? = some c := by
      rw [dateChars, List.append_assoc, List.getElem?_append_right (by omega), hyear, hmonth]
      rfl
    rw [hfifth]
    intro hc
    rw [Option.some.inj hc] at hdigit
    cases hdigit

theorem FitsDate.readDate? (h : FitsDate d) (length : Nat) (rest : List Char) :
    readDate? length (dateChars d ++ rest) = some d := by
  obtain ⟨c, cs, hmonth, hdigit⟩ := h.month.eq_cons (by decide)
  have hweek : c ≠ 'W' := by
    rintro rfl
    cases hdigit
  have hhead (tail : List Char) : ((padded 2 d.month).toList ++ tail).head? ≠ some 'W' := by
    rw [hmonth]
    exact fun hc => hweek (Option.some.inj hc)
  rw [dateChars, List.append_assoc, List.cons_append, List.append_assoc, List.cons_append,
    Time.readDate?]
  simp only [h.year.takeNumber? (by decide), h.month.takeNumber? (by decide),
    h.day.takeNumber? (by decide), hhead, List.head?_cons, List.drop_succ_cons, List.drop_zero,
    Option.bind_eq_bind, Option.bind_some, if_true, if_false, decide_true]
  rfl

/-! ### Times of day -/

/-- A pair of digits before a colon. -/
theorem Fits.readPairs?_colon (h : Fits 2 n) (count : Nat) {colons : Option Bool}
    (hcolons : colons.getD true = true) {more : List Char} (hmore : more ≠ []) :
    readPairs? (count + 1) colons ((padded 2 n).toList ++ ':' :: more)
      = (readPairs? count (some true) more).map fun pairs => (n :: pairs.1, pairs.2) := by
  have hknown : colons.getD (decide (':' = ':')) = true := hcolons
  obtain ⟨c, cs, rfl⟩ := List.exists_cons_of_ne_nil hmore
  rw [readPairs?, h.takeNumber? (by decide)]
  show (if colons.getD (decide (':' = ':')) && decide (':' = ':') then _ else _) = _
  rw [hknown]
  cases readPairs? count (some true) (c :: cs) with
  | none => rfl
  | some pairs => rfl

/-- The last pair of digits. -/
theorem Fits.readPairs?_end (h : Fits 2 n) (count : Nat) (colons : Option Bool) :
    readPairs? (count + 1) colons (padded 2 n).toList = some ([n], .finished []) := by
  have htake := h.takeNumber? (by decide) []
  rw [List.append_nil] at htake
  rw [readPairs?, htake]
  rfl

/-- The last pair of digits before a fraction. -/
theorem Fits.readPairs?_point (h : Fits 2 n) (count : Nat) {more : List Char} (hmore : more ≠ []) :
    readPairs? (count + 1) (some true) ((padded 2 n).toList ++ '.' :: more)
      = some ([n], .fraction more) := by
  obtain ⟨c, cs, rfl⟩ := List.exists_cons_of_ne_nil hmore
  rw [readPairs?, h.takeNumber? (by decide)]
  rfl

theorem Fits.readFraction? (h : Fits 6 n) : readFraction? (padded 6 n).toList = some (n, []) := by
  have htake := h.takeNumber? (by decide) []
  rw [List.append_nil] at htake
  rw [Time.readFraction?, h.length_padded (by decide), Nat.min_self, htake]
  show some (n * 1, []) = _
  rw [Int.mul_one]

/-- The numbers of a time of day that is written with two digits each, and a fraction with six. -/
structure FitsTime (hour minute second micros : Int) : Prop where
  hour : Fits 2 hour
  minute : Fits 2 minute
  second : Fits 2 second
  micros : Fits 6 micros

/-- The characters of a time of day. -/
def timeChars (hour minute second micros : Int) : List Char :=
  (padded 2 hour).toList ++ ':' :: ((padded 2 minute).toList ++ ':' :: ((padded 2 second).toList
    ++ (fractionText micros).toList))

variable {hour minute second micros : Int}

theorem FitsTime.readClock? (h : FitsTime hour minute second micros) :
    readClock? (timeChars hour minute second micros)
      = some ((hour, minute, second, micros), false) := by
  obtain ⟨c, cs, hminute, -⟩ := h.minute.eq_cons (by decide)
  obtain ⟨c', cs', hsecond, -⟩ := h.second.eq_cons (by decide)
  obtain ⟨c'', cs'', hmicros, -⟩ := h.micros.eq_cons (by decide)
  rw [timeChars, Time.readClock?, h.hour.readPairs?_colon 2 rfl (by simp [hminute]),
    h.minute.readPairs?_colon 1 rfl (by simp [hsecond])]
  by_cases hzero : micros = 0
  · have htext : fractionText micros = "" := if_pos hzero
    rw [htext, hzero, String.toList_empty, List.append_nil, h.second.readPairs?_end]
    rfl
  · have htext : (fractionText micros).toList = '.' :: (padded 6 micros).toList := by
      rw [fractionText, if_neg hzero, String.toList_append]
      rfl
    rw [htext, h.second.readPairs?_point 0 (by simp [hmicros])]
    simp only [Option.map_some, Option.bind_eq_bind, Option.bind_some, h.micros.readFraction?]
    rfl

theorem FitsTime.not_offsetStart (h : FitsTime hour minute second micros) :
    ∀ c ∈ timeChars hour minute second micros, (!isOffsetStart c) = true := by
  have hdigit (c : Char) (hc : c.isDigit = true) : (!isOffsetStart c) = true := by
    unfold isOffsetStart
    rw [Bool.not_eq_true', Bool.or_eq_false_iff, Bool.or_eq_false_iff]
    refine ⟨⟨?_, ?_⟩, ?_⟩
    all_goals
      rw [decide_eq_false_iff_not]
      rintro rfl
      cases hc
  have hfraction : ∀ c ∈ (fractionText micros).toList, (!isOffsetStart c) = true := by
    intro c hc
    unfold fractionText at hc
    split at hc
    · cases hc
    · rw [String.toList_append] at hc
      rcases List.mem_append.1 hc with hc | hc
      · rw [List.mem_singleton.1 hc]
        rfl
      · exact hdigit c (h.micros.isDigit hc)
  intro c hc
  simp only [timeChars, List.mem_append, List.mem_cons] at hc
  rcases hc with hc | rfl | hc | rfl | hc | hc
  · exact hdigit c (h.hour.isDigit hc)
  · rfl
  · exact hdigit c (h.minute.isDigit hc)
  · rfl
  · exact hdigit c (h.second.isDigit hc)
  · exact hfraction c hc

/-! ### Offsets -/

/-- What is left of an offset when it is read: one without whole seconds is zero. -/
def keptOffset (offset : Int) : Int :=
  if offset.natAbs < 1000000 then 0 else offset

theorem keptOffset_bounds {offset : Int} (h : -dayMicros < offset ∧ offset < dayMicros) :
    -dayMicros < keptOffset offset ∧ keptOffset offset < dayMicros := by
  unfold keptOffset
  split
  · decide
  · exact h

/-- The whole seconds of an offset, without its sign. -/
def zoneSeconds (offset : Int) : Int :=
  (offset.natAbs : Int) / 1000000

/-- The rest of an offset, without its sign. -/
def zoneMicros (offset : Int) : Int :=
  (offset.natAbs : Int) % 1000000

/-- The characters of an offset behind its sign. -/
def zoneChars (offset : Int) : List Char :=
  let hour := zoneSeconds offset / 3600
  let minute := zoneSeconds offset / 60 % 60
  let second := zoneSeconds offset % 60
  if second = 0 ∧ zoneMicros offset = 0 then
    (padded 2 hour).toList ++ ':' :: (padded 2 minute).toList
  else timeChars hour minute second (zoneMicros offset)

/-- The sign of an offset. -/
def zoneSign (offset : Int) : Char :=
  if offset < 0 then '-' else '+'

theorem toList_offsetText (offset : Int) :
    (offsetText offset).toList = zoneSign offset :: zoneChars offset := by
  have hsign : (if offset < 0 then "-" else "+").toList = [zoneSign offset] := by
    unfold zoneSign
    split <;> rfl
  have htext : offsetText offset = (if offset < 0 then "-" else "+")
      ++ padded 2 (zoneSeconds offset / 3600) ++ ":" ++ padded 2 (zoneSeconds offset / 60 % 60)
      ++ if zoneSeconds offset % 60 = 0 && zoneMicros offset = 0 then ""
        else ":" ++ padded 2 (zoneSeconds offset % 60) ++ fractionText (zoneMicros offset) := rfl
  rw [htext]
  unfold zoneChars
  simp only [Bool.and_eq_true, decide_eq_true_eq, String.toList_append, hsign]
  by_cases hwhole : zoneSeconds offset % 60 = 0 ∧ zoneMicros offset = 0
  · rw [if_pos hwhole, if_pos hwhole]
    simp
  · rw [if_neg hwhole, if_neg hwhole]
    simp [timeChars]

theorem fitsTime_zone {offset : Int} (h : -dayMicros < offset ∧ offset < dayMicros) :
    FitsTime (zoneSeconds offset / 3600) (zoneSeconds offset / 60 % 60) (zoneSeconds offset % 60)
      (zoneMicros offset) := by
  unfold dayMicros at h
  unfold zoneSeconds zoneMicros
  exact ⟨fits_of_lt 100 rfl (by omega) (by omega), fits_of_lt 100 rfl (by omega) (by omega),
    fits_of_lt 100 rfl (by omega) (by omega), fits_of_lt 1000000 rfl (by omega) (by omega)⟩

/-- Hours and minutes alone. -/
theorem readClock?_minutes {hour minute : Int} (hhour : Fits 2 hour) (hminute : Fits 2 minute) :
    readClock? ((padded 2 hour).toList ++ ':' :: (padded 2 minute).toList)
      = some ((hour, minute, 0, 0), false) := by
  obtain ⟨c, cs, hcs, -⟩ := hminute.eq_cons (by decide)
  rw [Time.readClock?, hhour.readPairs?_colon 2 rfl (by simp [hcs]), hminute.readPairs?_end]
  rfl

/-- **The numbers of an offset** are read as they were written, whether its seconds are left out or
not. -/
theorem readClock?_zoneChars {offset : Int} (h : -dayMicros < offset ∧ offset < dayMicros) :
    readClock? (zoneChars offset) = some ((zoneSeconds offset / 3600, zoneSeconds offset / 60 % 60,
      zoneSeconds offset % 60, zoneMicros offset), false) := by
  have hfits := fitsTime_zone h
  unfold zoneChars
  dsimp only
  split
  · next hwhole =>
    rw [readClock?_minutes hfits.hour hfits.minute, hwhole.1, hwhole.2]
  · exact hfits.readClock?

theorem zoneSign_cases (offset : Int) : zoneSign offset = '-' ∨ zoneSign offset = '+' := by
  unfold zoneSign
  split
  · exact .inl rfl
  · exact .inr rfl

/-- **An offset is read as it was written**, unless it has no whole seconds. -/
theorem readOffset?_offsetText {offset : Int} (h : -dayMicros < offset ∧ offset < dayMicros) :
    readOffset? (offsetText offset).toList = some (keptOffset offset) := by
  have hletter : zoneSign offset ≠ 'Z' := by
    rcases zoneSign_cases offset with hsign | hsign <;> rw [hsign] <;> decide
  have hseconds : zoneSeconds offset / 3600 * 3600 + zoneSeconds offset / 60 % 60 * 60
      + zoneSeconds offset % 60 = zoneSeconds offset := by
    omega
  rw [toList_offsetText, readOffset?, if_neg hletter, readClock?_zoneChars h]
  dsimp only
  rw [hseconds]
  refine congrArg some ?_
  unfold zoneSign keptOffset zoneSeconds zoneMicros
  by_cases hnegative : offset < 0
  · rw [if_pos hnegative, if_pos rfl]
    split <;> split <;> omega
  · rw [if_neg hnegative, if_neg (by decide)]
    split <;> split <;> omega

theorem isOffsetStart_zoneSign (offset : Int) : isOffsetStart (zoneSign offset) = true := by
  rcases zoneSign_cases offset with hsign | hsign <;> rw [hsign] <;> decide

/-- A time of day with an offset: the sign ends the time of day. -/
theorem FitsTime.readTime? (h : FitsTime hour minute second micros) {offset : Int}
    (hoffset : -dayMicros < offset ∧ offset < dayMicros) :
    Time.readTime? (timeChars hour minute second micros ++ (offsetText offset).toList)
      = some ((hour, minute, second, micros), some (keptOffset offset)) := by
  have hstart := h.not_offsetStart
  have hnone : (offsetText offset).toList.takeWhile (!isOffsetStart ·) = [] := by
    rw [toList_offsetText, List.takeWhile_cons, isOffsetStart_zoneSign]
    rfl
  have hall : (offsetText offset).toList.dropWhile (!isOffsetStart ·)
      = (offsetText offset).toList := by
    rw [toList_offsetText, List.dropWhile_cons, isOffsetStart_zoneSign]
    rfl
  have hsome : (offsetText offset).toList.isEmpty = false := by
    rw [toList_offsetText]
    rfl
  unfold Time.readTime?
  dsimp only
  rw [List.takeWhile_append_of_pos hstart, List.dropWhile_append_of_pos hstart, hnone, hall,
    List.append_nil, h.readClock?, hsome, readOffset?_offsetText hoffset]
  rfl

/-! ### Timestamps -/

theorem ofClock_self (t : Timestamp) : ofClock t.clock t.offset = .ok t := by
  have hrange : (0 ≤ t.clock ∧ t.clock < clockRange)
      ∧ -dayMicros < t.offset ∧ t.offset < dayMicros :=
    ⟨⟨t.clock_nonneg, t.clock_lt⟩, t.offset_gt, t.offset_lt⟩
  rw [ofClock, ofClock?, dif_pos hrange]

/-- The numbers of a timestamp of universal time. -/
def parts (t : Timestamp) : Parts where
  date := dateOfDay (t.clock / dayMicros)
  hour := t.clock % dayMicros / 1000000 / 3600
  minute := t.clock % dayMicros / 1000000 / 60 % 60
  second := t.clock % dayMicros / 1000000 % 60
  micros := t.clock % 1000000
  offset := some 0

theorem date_parts (t : Timestamp) :
    t.parts.date.InRange ∧ t.parts.date.dayNumber = t.clock / dayMicros := by
  have hnonneg := t.clock_nonneg
  have hlt := t.clock_lt
  apply dateOfDay_spec
  · unfold dayMicros
    omega
  · unfold clockRange at hlt
    unfold dayMicros at hlt ⊢
    unfold dayCount at hlt ⊢
    omega

theorem monthLength_le (year month : Int) : monthLength year month ≤ 31 := by
  have hall : ∀ leap, ∀ length ∈ monthLengths leap, length ≤ 31 := by decide
  unfold monthLength
  cases h : (monthLengths (isLeap year))[(month - 1).toNat]? with
  | none =>
    show (0 : Int) ≤ 31
    omega
  | some length => exact hall _ _ (List.mem_of_getElem? h)

theorem fitsDate_parts (t : Timestamp) : FitsDate t.parts.date := by
  obtain ⟨hrange, -⟩ := t.date_parts
  have hyear := hrange.year_pos
  have hmaxYear := hrange.year_le
  have hmonth := hrange.month_pos
  have hmaxMonth := hrange.month_le
  have hday := hrange.day_pos
  have hmaxDay := Int.le_trans hrange.day_le (monthLength_le _ _)
  unfold maxYear at hmaxYear
  exact ⟨fits_of_lt 10000 rfl (by omega) (by omega), fits_of_lt 100 rfl (by omega) (by omega),
    fits_of_lt 100 rfl (by omega) (by omega)⟩

theorem bounds_parts (t : Timestamp) :
    (0 ≤ t.parts.hour ∧ t.parts.hour ≤ 23) ∧ (0 ≤ t.parts.minute ∧ t.parts.minute ≤ 59)
      ∧ (0 ≤ t.parts.second ∧ t.parts.second ≤ 59) ∧ 0 ≤ t.parts.micros
      ∧ t.parts.micros < 1000000 := by
  unfold parts dayMicros
  dsimp only
  omega

theorem fitsTime_parts (t : Timestamp) :
    FitsTime t.parts.hour t.parts.minute t.parts.second t.parts.micros := by
  obtain ⟨hhour, hminute, hsecond, hmicros⟩ := t.bounds_parts
  exact ⟨fits_of_lt 100 rfl hhour.1 (by omega), fits_of_lt 100 rfl hminute.1 (by omega),
    fits_of_lt 100 rfl hsecond.1 (by omega), fits_of_lt 1000000 rfl hmicros.1 hmicros.2⟩

theorem fault?_parts (t : Timestamp) : t.parts.fault? = none := by
  obtain ⟨hrange, -⟩ := t.date_parts
  obtain ⟨hyear, hmaxYear, hmonth, hmaxMonth, hday, hmaxDay⟩ := hrange
  obtain ⟨hhour, hminute, hsecond, -⟩ := t.bounds_parts
  unfold Parts.fault?
  simp only [Bool.or_eq_true, decide_eq_true_eq, if_false, or_self, Int.not_lt.2 hyear,
    Int.not_lt.2 hmaxYear, Int.not_lt.2 hmonth, Int.not_lt.2 hmaxMonth, Int.not_lt.2 hday,
    Int.not_lt.2 hmaxDay, Int.not_lt.2 hhour.2, Int.not_lt.2 hminute.2, Int.not_lt.2 hsecond.2]

theorem clock_parts (t : Timestamp) : t.parts.clock = t.clock := by
  obtain ⟨-, hday⟩ := t.date_parts
  unfold Parts.clock
  rw [hday]
  unfold parts dayMicros
  dsimp only
  omega

theorem toList_toText (t : Timestamp) :
    t.toText.toList = dateChars t.parts.date
      ++ 'T' :: (timeChars t.parts.hour t.parts.minute t.parts.second t.parts.micros
        ++ (offsetText t.offset).toList) := by
  rw [toText, dateText, timeText]
  simp [dateChars, timeChars, parts]

/-- A date, a separator and a time of day. -/
theorem FitsDate.readParts? (h : FitsDate d) (c : Char) {time : List Char} {offset : Option Int}
    (htime : readTime? time = some ((hour, minute, second, micros), offset)) :
    readParts? (dateChars d ++ c :: time) = some ⟨d, hour, minute, second, micros, offset⟩ := by
  have hdrop : (dateChars d ++ c :: time).drop 10 = c :: time := by
    rw [← h.length, List.drop_left]
  rw [Time.readParts?, h.separator?]
  simp only [Option.bind_eq_bind, Option.bind_some, h.readDate?, hdrop, htime]
  rfl

theorem readParts?_toText (t : Timestamp) :
    readParts? t.toText.toList = some { t.parts with offset := some (keptOffset t.offset) } := by
  rw [toList_toText, t.fitsDate_parts.readParts? 'T'
    (t.fitsTime_parts.readTime? ⟨t.offset_gt, t.offset_lt⟩)]

/-- No offset ends as a letter does. -/
theorem letter_notMem_offsetText (t : Timestamp) : 'Z' ∉ (offsetText t.offset).toList := by
  have hfits := fitsTime_zone ⟨t.offset_gt, t.offset_lt⟩
  rw [toList_offsetText, List.mem_cons, not_or]
  constructor
  · rcases zoneSign_cases t.offset with hsign | hsign <;> rw [hsign] <;> decide
  · unfold zoneChars
    dsimp only
    split
    · intro hmem
      rcases List.mem_append.1 hmem with hmem | hmem
      · exact absurd (hfits.hour.isDigit hmem) (by decide)
      · rcases List.mem_cons.1 hmem with hcolon | hmem
        · exact absurd hcolon (by decide)
        · exact absurd (hfits.minute.isDigit hmem) (by decide)
    · intro hmem
      exact absurd (hfits.not_offsetStart _ hmem) (by decide)

theorem spellZone_toText (t : Timestamp) : spellZone t.toText = t.toText := by
  have hne : (offsetText t.offset).toList ≠ [] := by
    rw [toList_offsetText]
    exact List.cons_ne_nil _ _
  have hlast : t.toText.toList.getLast? ≠ some 'Z' := by
    rw [toList_toText, ← List.singleton_append, ← List.append_assoc, ← List.append_assoc,
      List.getLast?_append, List.getLast?_eq_some_getLast hne]
    exact fun h => t.letter_notMem_offsetText (Option.some.inj h ▸ List.getLast_mem hne)
  unfold spellZone
  dsimp only
  rw [if_neg hlast]

/-- **A timestamp of universal time is read back from its text.** -/
theorem readUtc_toText {t : Timestamp} (h : t.offset = 0) : readUtc t.toText = .ok t := by
  have hclock := ofClock_self t
  rw [h] at hclock
  have hread : read t.toText = .ok t := by
    rw [read, readParts?_toText, h]
    show ofParts t.parts = _
    unfold ofParts
    rw [t.fault?_parts, t.clock_parts]
    exact hclock
  delta readUtc
  rw [spellZone_toText, hread]
  show ofClock (t.clock - t.offset) 0 = _
  rw [h, Int.sub_zero]
  exact hclock

end Timestamp

end ConceptQuery
