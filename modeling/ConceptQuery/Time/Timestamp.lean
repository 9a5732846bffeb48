import ConceptQuery.Time.Calendar
import ConceptQuery.Failure

/-!
# Timestamps

A timestamp is what a clock shows, in microseconds since the first day of the year one, with the
clock's offset from universal time.

* `Timestamp` — clock and offset, both within their ranges;
* `Timestamp.instant` — the moment itself, in microseconds of universal time;
* `Timestamp.ofClock?` — a timestamp, if the clock is within its range;
* `Timestamp.toUtc` — the same moment on a clock without offset;
* `Timestamp.toText` — the usual text;
* `Timestamp.toReportText` — the text of HTTP answers.
-/

namespace ConceptQuery

open Time

/-- The number of microseconds of the calendar. -/
def Time.clockRange : Int := dayCount * dayMicros

/-- What a clock shows, with its offset from universal time. -/
structure Timestamp where
  /-- Microseconds of local time. -/
  clock : Int
  /-- Microseconds by which local time is ahead of universal time. -/
  offset : Int
  clock_nonneg : 0 ≤ clock
  clock_lt : clock < clockRange
  offset_gt : -dayMicros < offset
  offset_lt : offset < dayMicros

namespace Timestamp

/-- The moment, in microseconds of universal time. -/
def instant (t : Timestamp) : Int :=
  t.clock - t.offset

/-- A timestamp, if clock and offset are within their ranges. -/
def ofClock? (clock offset : Int) : Option Timestamp :=
  if h : (0 ≤ clock ∧ clock < clockRange) ∧ -dayMicros < offset ∧ offset < dayMicros then
    some ⟨clock, offset, h.1.1, h.1.2, h.2.1, h.2.2⟩
  else none

/-- The failure of a computed clock that left its range. -/
def outOfRange : Failure := .outOfRange "date value out of range"

/-- A timestamp with a computed clock. -/
def ofClock (clock offset : Int) : Except Failure Timestamp :=
  match ofClock? clock offset with
  | some t => .ok t
  | none => .error outOfRange

/-- The same moment on a clock without offset. -/
def toUtc (t : Timestamp) : Except Failure Timestamp :=
  ofClock t.instant 0

/-- A number with at least so many digits. -/
def padded (width : Nat) (n : Int) : String :=
  let ds := toString n.natAbs
  .ofList (List.replicate (width - ds.length) '0') ++ ds

/-- A fraction of a second: none if it is zero, else a point and six digits. -/
def fractionText (micros : Int) : String :=
  if micros = 0 then "" else "." ++ padded 6 micros

/-- Year, month and day. -/
def dateText (t : Timestamp) : String :=
  let d := dateOfDay (t.clock / dayMicros)
  padded 4 d.year ++ "-" ++ padded 2 d.month ++ "-" ++ padded 2 d.day

/-- Hours, minutes and seconds with their fraction. -/
def timeText (t : Timestamp) : String :=
  let seconds := t.clock % dayMicros / 1000000
  padded 2 (seconds / 3600) ++ ":" ++ padded 2 (seconds / 60 % 60) ++ ":" ++ padded 2 (seconds % 60)
    ++ fractionText (t.clock % 1000000)

/-- An offset: sign, hours and minutes, and seconds if it has any. -/
def offsetText (offset : Int) : String :=
  let size := offset.natAbs
  let seconds : Int := size / 1000000
  let micros : Int := size % 1000000
  (if offset < 0 then "-" else "+") ++ padded 2 (seconds / 3600) ++ ":"
    ++ padded 2 (seconds / 60 % 60)
    ++ if seconds % 60 = 0 && micros = 0 then ""
      else ":" ++ padded 2 (seconds % 60) ++ fractionText micros

/-- The usual text. -/
def toText (t : Timestamp) : String :=
  t.dateText ++ "T" ++ t.timeText ++ offsetText t.offset

/-- The text of HTTP answers, in which universal time has a letter of its own. -/
def toReportText (t : Timestamp) : String :=
  t.dateText ++ "T" ++ t.timeText
    ++ if t.offset = 0 then "Z" else offsetText (t.offset.tdiv 60000000 * 60000000)

end Timestamp

end ConceptQuery
