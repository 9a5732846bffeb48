import ConceptQuery.Json.Whole
import ConceptQuery.Time.Calendar

/-!
# Durations

A duration is a whole number of microseconds that spans less than a billion days.

* `Duration` — a duration;
* `Duration.ofSeconds` — the duration that a number of seconds stands for;
* `Duration.wholeSeconds` — its number of seconds, through a floating number.
-/

namespace ConceptQuery

/-- The largest number of whole days in a duration. -/
def Time.maxDays : Int := 999999999

/-- A length of time in microseconds. -/
structure Duration where
  micros : Int
  days_ge : -Time.maxDays ≤ micros / Time.dayMicros
  days_le : micros / Time.dayMicros ≤ Time.maxDays

namespace Duration

open Time

/-- Ten minutes. -/
def tenMinutes : Duration := ⟨600000000, by decide, by decide⟩

instance : Inhabited Duration := ⟨tenMinutes⟩

/-- The duration of a number of microseconds. -/
def ofMicros (micros : Int) : Except Failure Duration :=
  let days := micros / dayMicros
  if days < -2147483648 || 2147483648 ≤ days then
    .error (.outOfRange "Python int too large to convert to C int")
  else if h : -maxDays ≤ days ∧ days ≤ maxDays then .ok ⟨micros, h.1, h.2⟩
  else
    .error (.outOfRange ("days=" ++ toString days ++ "; must have magnitude <= " ++ toString maxDays))

/-- The microseconds of a floating number of seconds. The part below a second is multiplied as a
floating number and then rounded, a half to the even neighbour. -/
def microsOfFloat (negative : Bool) (mantissa : Nat) (exponent : Int) : Int :=
  let num := Binary64.numerator mantissa exponent
  let den := Binary64.denominator exponent
  let below := match Binary64.ofRatio false (num % den * 1000000) den with
    | .finite _ m e => Binary64.roundQuotient (Binary64.numerator m e) (Binary64.denominator e)
    | _ => 0
  Binary64.signed negative (num / den * 1000000 + below)

/-- The duration that a number of seconds stands for. -/
def ofSeconds : Json → Except Failure Duration
  | .integer n => ofMicros (n * 1000000)
  | .bool b => ofMicros (if b then 1000000 else 0)
  | .float (.finite negative m e) => ofMicros (microsOfFloat negative m e)
  | .float .nan => .error (.invalidValue "cannot convert float NaN to integer")
  | .float (.infinity _) => .error (.outOfRange "cannot convert float infinity to integer")
  | v => .error (.wrongType ("A number of seconds must be a number, not " ++ v.plain))

/-- The number of seconds as a floating number, without its fraction. -/
def wholeSeconds (d : Duration) : Int :=
  match Binary64.ofRatio (d.micros < 0) d.micros.natAbs 1000000 with
  | .finite negative m e => Binary64.truncate negative m e
  | _ => 0

end Duration

end ConceptQuery
