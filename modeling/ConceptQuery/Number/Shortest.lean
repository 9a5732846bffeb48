import ConceptQuery.Number.Binary64

/-!
# The shortest decimal of a number

A binary number is written with the fewest decimal digits that read back as it; of two such
decimals the nearer one is taken.

* `Binary64.decimalExponent` — the power of ten of the leading digit;
* `Binary64.candidate?` — the decimal with a given number of digits, if one reads back;
* `Binary64.shortest` — the digits and the power of ten of the last of them;
* `Binary64.toText` — positional from 10⁻⁴ up to 10¹⁶, with an exponent elsewhere.
-/

namespace ConceptQuery.Binary64

/-- Whether `10 ^ k ≤ num / den`. -/
def reaches (num den : Nat) (k : Int) : Bool :=
  if 0 ≤ k then Nat.pow 10 k.toNat * den ≤ num else den ≤ num * Nat.pow 10 (-k).toNat

/-- The largest `k` with `10 ^ k ≤ num / den`, found beside an estimate from the binary
lengths. -/
def decimalExponent (num den : Nat) : Int :=
  let estimate := ((num.log2 : Int) - den.log2) * 30103 / 100000
  match [estimate + 2, estimate + 1, estimate, estimate - 1].find? (reaches num den) with
  | some k => k
  | none => estimate - 2

/-- The value in units of `10 ^ k`, rounded down, and whether the upper neighbour is nearer; a
half goes to the even neighbour. -/
def onGrid (num den : Nat) (k : Int) : Nat × Bool :=
  let (num, den) :=
    if 0 ≤ k then (num, den * Nat.pow 10 k.toNat) else (num * Nat.pow 10 (-k).toNat, den)
  let q := num / den
  let r := 2 * (num % den)
  (q, den < r || (r == den && q % 2 == 1))

/-- The decimal in units of `10 ^ k` that reads back as the number, the nearer neighbour
first. -/
def candidate? (mantissa : Nat) (exponent k : Int) : Option Nat :=
  let (low, upper) := onGrid (numerator mantissa exponent) (denominator exponent) k
  let order := if upper then [low + 1, low] else [low, low + 1]
  order.find? fun d => ofDecimal false d k == .finite false mantissa exponent

/-- The fewest digits that read back, and the power of ten of the last one. -/
def shortest (mantissa : Nat) (exponent : Int) : Nat × Int :=
  let top := decimalExponent (numerator mantissa exponent) (denominator exponent)
  let units := (List.range 17).map fun n : Nat => top - n
  match units.findSome? fun k => (candidate? mantissa exponent k).map fun d => (d, k) with
  | some found => found
  | none => (mantissa, exponent)

/-- Digits without their trailing zeros, each of which raises the power of ten. -/
def stripZeros : List Char → Int → List Char × Int
  | ds, k =>
    let kept := (ds.reverse.dropWhile (· == '0')).reverse
    (kept, k + (ds.length - kept.length : Nat))

/-- An exponent with a sign and at least two digits. -/
def exponentText (e : Int) : String :=
  let ds := toString e.natAbs
  (if e < 0 then "e-" else "e+") ++ (if ds.length < 2 then "0" ++ ds else ds)

/-- Digits with a point; `point` is the number of digits before it. -/
def positional (ds : List Char) (point : Int) : String :=
  if point ≤ 0 then "0." ++ .ofList (List.replicate (-point).toNat '0' ++ ds)
  else if ds.length ≤ point then
    .ofList (ds ++ List.replicate (point.toNat - ds.length) '0') ++ ".0"
  else .ofList (ds.take point.toNat) ++ "." ++ .ofList (ds.drop point.toNat)

/-- Digits in scientific notation; `point` is the number of digits before the point in positional
notation. -/
def scientific (ds : List Char) (point : Int) : String :=
  let fraction := ds.drop 1
  .ofList (ds.take 1) ++ (if fraction.isEmpty then "" else "." ++ .ofList fraction)
    ++ exponentText (point - 1)

/-- The text of a number: its shortest decimal, positional from 10⁻⁴ up to 10¹⁶. -/
def toText : Binary64 → String
  | .nan => "nan"
  | .infinity negative => if negative then "-inf" else "inf"
  | .finite negative 0 _ => if negative then "-0.0" else "0.0"
  | .finite negative m e =>
    let (d, k) := shortest m e
    let (ds, k) := stripZeros (Nat.toDigits 10 d) k
    let point : Int := ds.length + k
    (if negative then "-" else "")
      ++ (if -4 < point && point ≤ 16 then positional ds point else scientific ds point)

end ConceptQuery.Binary64
