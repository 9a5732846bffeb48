/-!
# Binary floating point numbers

Numbers of the IEEE 754 format with 53 bits of precision, held exactly as a sign, a whole
mantissa and a power of two, so that every operation on them is integer arithmetic.

* `Binary64` — a number, an infinity or the value that is no number;
* `Binary64.roundQuotient` — a quotient rounded to a whole number, a half to the even neighbour;
* `Binary64.ofRatio` — the number nearest to a quotient, a half to the even mantissa;
* `Binary64.ofDecimal` — the number nearest to a decimal;
* `Binary64.numerator`, `Binary64.denominator` — the exact value;
* `Binary64.truncate`, `Binary64.whole?` — the whole part, and the value if it is whole.
-/

namespace ConceptQuery

/-- A number `± mantissa · 2 ^ exponent`, an infinity, or no number. -/
inductive Binary64 where
  | nan
  | infinity (negative : Bool)
  | finite (negative : Bool) (mantissa : Nat) (exponent : Int)
deriving Repr, DecidableEq

namespace Binary64

/-- Zero of either sign. -/
def zero (negative : Bool) : Binary64 :=
  .finite negative 0 (-1074)

/-- A quotient rounded to a whole number, a half to the even neighbour. -/
def roundQuotient (num den : Nat) : Nat :=
  let q := num / den
  let r := 2 * (num % den)
  if r < den then q else if r = den then q + q % 2 else q + 1

/-- The quotient `num / den` in units of `2 ^ e`, rounded. -/
def inUnits (num den : Nat) (e : Int) : Nat :=
  if 0 ≤ e then roundQuotient num (den * Nat.pow 2 e.toNat)
  else roundQuotient (num * Nat.pow 2 (-e).toNat) den

/-- The exponent at which the quotient `num / den` has 53 bits before the point, but not below
that of the least number. -/
def unitExponent (num den : Nat) : Int :=
  let e : Int := (num.log2 : Int) - den.log2 - 53
  let full := if 0 ≤ e then num / (den * Nat.pow 2 e.toNat) else num * Nat.pow 2 (-e).toNat / den
  max (-1074) (if full < Nat.pow 2 53 then e else e + 1)

/-- The number nearest to `± num / den`, a half to the even mantissa. -/
def ofRatio (negative : Bool) (num den : Nat) : Binary64 :=
  if num = 0 then zero negative
  else
    let e := unitExponent num den
    let m := inUnits num den e
    let (m, e) := if m = Nat.pow 2 53 then (Nat.pow 2 52, e + 1) else (m, e)
    if 971 < e then .infinity negative else .finite negative m e

/-- The number nearest to `± digits · 10 ^ exponent`. Decimals beyond every number are told by
their size alone. -/
def ofDecimal (negative : Bool) (digits : Nat) (exponent : Int) : Binary64 :=
  if digits = 0 then zero negative
  else if 309 < exponent then .infinity negative
  else if (digits.log2 : Int) + 1080 < 3 * -exponent then zero negative
  else if 0 ≤ exponent then ofRatio negative (digits * Nat.pow 10 exponent.toNat) 1
  else ofRatio negative digits (Nat.pow 10 (-exponent).toNat)

/-- The number nearest to a whole number. -/
def ofInt (n : Int) : Binary64 :=
  ofRatio (n < 0) n.natAbs 1

/-- Numerator of the absolute value. -/
def numerator (mantissa : Nat) (exponent : Int) : Nat :=
  mantissa * Nat.pow 2 exponent.toNat

/-- Denominator of the absolute value. -/
def denominator (exponent : Int) : Nat :=
  Nat.pow 2 (-exponent).toNat

/-- A natural number with a sign. -/
def signed (negative : Bool) (n : Nat) : Int :=
  if negative then -(n : Int) else n

/-- The whole part of a finite number; the fraction is dropped. -/
def truncate (negative : Bool) (mantissa : Nat) (exponent : Int) : Int :=
  signed negative (numerator mantissa exponent / denominator exponent)

/-- The value of a finite number without a fraction. -/
def whole? (negative : Bool) (mantissa : Nat) (exponent : Int) : Option Int :=
  if numerator mantissa exponent % denominator exponent = 0 then
    some (truncate negative mantissa exponent)
  else none

/-- Whether a number is positive or negative zero. -/
def isZero : Binary64 → Bool
  | .finite _ 0 _ => true
  | _ => false

end Binary64

end ConceptQuery
