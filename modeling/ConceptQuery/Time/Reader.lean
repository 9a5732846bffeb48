import ConceptQuery.Time.Timestamp

/-!
# Reading timestamps

A timestamp is a date, a separator of one character, a time of day and an offset.  Dates are
written with or without hyphens and also by weeks; times with or without colons, cut short, and
with a fraction after a point or a comma.

* `Time.Parts` — the numbers of a written timestamp;
* `Time.separator?` — where the date ends;
* `Time.readDate?` — the date;
* `Time.readPairs?`, `Time.readFraction?`, `Time.readClock?` — hours, minutes and seconds with
  their fraction;
* `Time.readParts?` — all numbers;
* `Timestamp.read` — a timestamp, with the failures of numbers out of range;
* `Timestamp.readUtc` — a timestamp of universal time, a final `Z` included.
-/

namespace ConceptQuery

namespace Time

/-- The numbers of a written timestamp; the offset is in microseconds, or absent. -/
structure Parts where
  date : Date
  hour : Int
  minute : Int
  second : Int
  micros : Int
  offset : Option Int
deriving Repr, DecidableEq

/-- The number that a count of digits at the front of a text spells, and the rest. -/
def takeNumber? (count : Nat) (s : List Char) : Option (Int × List Char) :=
  let ds := s.take count
  if ds.length = count && ds.all Char.isDigit then
    some ((Nat.ofDigitChars 10 ds 0 : Nat), s.drop count)
  else none

/-- Whether there is a digit at a position. -/
def digitAt (s : List Char) (i : Nat) : Bool :=
  (s[i]?).any Char.isDigit

/-- The length of the date, told from its fifth and sixth characters; where a hyphen after a week
may begin a day or the time, a digit two places further decides for the time. -/
def separator? (s : List Char) : Option Nat :=
  let length := (String.ofList s).utf8ByteSize
  if length < 7 then none
  else if length = 7 then some 7
  else if s[4]? = some '-' then
    if s[5]? = some 'W' then
      if s[8]? = some '-' then
        if length = 9 then none else if digitAt s 10 then some 8 else some 10
      else some 8
    else some 10
  else if s[4]? = some 'W' then
    let digitsEnd := 7 + ((s.drop 7).takeWhile Char.isDigit).length
    if digitsEnd < 9 then some digitsEnd else if digitsEnd % 2 = 0 then some 7 else some 8
  else some 8

/-- The date of a day number; a day before the calendar has no month. -/
def dateInCalendar (n : Int) : Date :=
  if n < 0 then ⟨1, 0, 0⟩ else dateOfDay n

/-- A date by weeks, after the letter; `length` is the number of characters of the date that are
left, and `hyphens` tells whether it has hyphens. The day may be left out. -/
def readWeekDate? (year : Int) (hyphens : Bool) (length : Nat) (s : List Char) : Option Date := do
  let (week, rest) ← takeNumber? 2 s
  if length ≤ 2 then return dateInCalendar (← dayOfWeek? year week 1)
  let rest ← if hyphens then (if rest.head? = some '-' then some (rest.drop 1) else none)
    else some rest
  let (day, _) ← takeNumber? 1 rest
  return dateInCalendar (← dayOfWeek? year week day)

/-- The date at the front of a text, with the number of its characters. -/
def readDate? (length : Nat) (s : List Char) : Option Date := do
  let (year, rest) ← takeNumber? 4 s
  let hyphens := rest.head? = some '-'
  let rest := if hyphens then rest.drop 1 else rest
  if rest.head? = some 'W' then
    readWeekDate? year hyphens (length - (if hyphens then 6 else 5)) (rest.drop 1)
  else
    let (month, rest) ← takeNumber? 2 rest
    let rest ← if hyphens then (if rest.head? = some '-' then some (rest.drop 1) else none)
      else some rest
    let (day, _) ← takeNumber? 2 rest
    return ⟨year, month, day⟩

/-- What follows the pairs of digits of a time of day. -/
inductive Tail where
  /-- The end, or a last character of ASCII. -/
  | finished (left : List Char)
  /-- A fraction of a second. -/
  | fraction (s : List Char)

/-- Pairs of digits, at most `count` of them, with colons between them or without; `colons` is
known from the second pair on. -/
def readPairs? : (count : Nat) → (colons : Option Bool) → List Char → Option (List Int × Tail)
  | 0, _, s => some ([], .fraction s)
  | count + 1, colons, s => do
    let (value, rest) ← takeNumber? 2 s
    match rest with
    | [] => return ([value], .finished [])
    | [c] => if c.toNat < 0x80 then return ([value], .finished [c]) else none
    | c :: more =>
      let colons := colons.getD (c = ':')
      if colons && c = ':' then
        let (values, tail) ← readPairs? count (some colons) more
        return (value :: values, tail)
      else if c = '.' || c = ',' then return ([value], .fraction more)
      else if colons then none
      else
        let (values, tail) ← readPairs? count (some colons) rest
        return (value :: values, tail)

/-- The microseconds of a fraction of up to six digits, and what follows it; further digits are
cut off. -/
def readFraction? (s : List Char) : Option (Int × List Char) := do
  let count := min 6 s.length
  let (value, rest) ← takeNumber? count s
  return (value * Nat.pow 10 (6 - count), rest.dropWhile Char.isDigit)

/-- Whether a text goes on; a null character counts as its end. -/
def goesOn : List Char → Bool
  | [] => false
  | c :: _ => c ≠ '\x00'

/-- A time of day: hours, minutes, seconds and microseconds, and whether more text follows. -/
def readClock? (s : List Char) : Option ((Int × Int × Int × Int) × Bool) := do
  let (values, tail) ← readPairs? 3 none s
  let (micros, left) ← match tail with
    | .finished left => some (0, left)
    | .fraction f => readFraction? f
  let at' (i : Nat) : Int := (values[i]?).getD 0
  return ((at' 0, at' 1, at' 2, micros), goesOn left)

/-- Whether a character begins an offset. -/
def isOffsetStart (c : Char) : Bool :=
  c = '+' || c = '-' || c = 'Z'

/-- An offset in microseconds; one without whole seconds is zero. -/
def readOffset? (s : List Char) : Option Int :=
  match s with
  | [] => none
  | sign :: rest =>
    if sign = 'Z' then (if goesOn rest then none else some 0)
    else match readClock? rest with
      | some ((hour, minute, second, micros), false) =>
        let seconds := hour * 3600 + minute * 60 + second
        let size := if seconds = 0 then 0 else seconds * 1000000 + micros
        some (if sign = '-' then -size else size)
      | _ => none

/-- A time of day with its offset, if it has one. Text between the two is passed over if the time
was complete before it. -/
def readTime? (s : List Char) : Option ((Int × Int × Int × Int) × Option Int) := do
  let clock := s.takeWhile (!isOffsetStart ·)
  let zone := s.dropWhile (!isOffsetStart ·)
  let (time, more) ← readClock? clock
  if zone.isEmpty then
    if more then none else return (time, none)
  else return (time, some (← readOffset? zone))

/-- The numbers of a written timestamp. -/
def readParts? (s : List Char) : Option Parts := do
  let length ← separator? s
  let date ← readDate? length s
  match s.drop length with
  | [] => return ⟨date, 0, 0, 0, 0, none⟩
  | _ :: rest =>
    let ((hour, minute, second, micros), offset) ← readTime? rest
    return ⟨date, hour, minute, second, micros, offset⟩

/-- A span of time as messages show it: days, seconds and microseconds, of which only the days may
be negative and those that are zero are left out. -/
def durationText (micros : Int) : String :=
  let days := micros / dayMicros
  let seconds := micros % dayMicros / 1000000
  let rest := micros % 1000000
  let named (name : String) (n : Int) : List String :=
    if n = 0 then [] else [name ++ "=" ++ toString n]
  let parts := named "days" days ++ named "seconds" seconds ++ named "microseconds" rest
  "datetime.timedelta(" ++ (if parts.isEmpty then "0" else ", ".intercalate parts) ++ ")"

/-- The first number of a timestamp that is out of its range, in words. -/
def Parts.fault? (p : Parts) : Option String :=
  if p.date.year < 1 || maxYear < p.date.year then
    some ("year " ++ toString p.date.year ++ " is out of range")
  else if p.date.month < 1 || 12 < p.date.month then some "month must be in 1..12"
  else if p.date.day < 1 || monthLength p.date.year p.date.month < p.date.day then
    some "day is out of range for month"
  else if 23 < p.hour then some "hour must be in 0..23"
  else if 59 < p.minute then some "minute must be in 0..59"
  else if 59 < p.second then some "second must be in 0..59"
  else none

/-- The local time of a written timestamp in microseconds. -/
def Parts.clock (p : Parts) : Int :=
  p.date.dayNumber * dayMicros + ((p.hour * 60 + p.minute) * 60 + p.second) * 1000000 + p.micros

end Time

namespace Timestamp

open Time

/-- A timestamp of numbers that must be within their ranges, the offset first. -/
def ofParts (p : Parts) : Except Failure Timestamp :=
  let offset := p.offset.getD 0
  if dayMicros ≤ offset || offset ≤ -dayMicros then
    .error (.invalidValue ("offset must be a timedelta strictly between -timedelta(hours=24) and "
      ++ "timedelta(hours=24), not " ++ durationText offset ++ "."))
  else match p.fault? with
    | some fault => .error (.invalidValue fault)
    | none => ofClock p.clock offset

/-- A timestamp; one without an offset is of universal time. -/
def read (s : String) : Except Failure Timestamp :=
  match readParts? s.toList with
  | none => .error (.invalidValue ("Invalid isoformat string: " ++ Text.quoted s))
  | some p => ofParts p

/-- A text in which a final `Z` is spelled as an offset. -/
def spellZone (s : String) : String :=
  let cs := s.toList
  if cs.getLast? = some 'Z' then .ofList (cs.dropLast ++ "+00:00".toList) else s

/-- A timestamp of universal time. -/
def readUtc (s : String) : Except Failure Timestamp :=
  match read (spellZone s) with
  | .error f => .error f
  | .ok t => t.toUtc

end Timestamp

end ConceptQuery
