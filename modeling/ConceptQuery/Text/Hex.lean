/-!
# Hexadecimal digits

* `hex4` — four lower-case digits, the form of `\uXXXX` escapes;
* `hexPad` — lower-case digits, padded with zeros to a width;
* `hexByte` — two upper-case digits, the form of percent escapes;
* `hexValue?` — the value of one digit in either case.
-/

namespace ConceptQuery.Text

/-- Four lower-case hexadecimal digits of a number below 2¹⁶. -/
def hex4 (n : Nat) : List Char :=
  [(n / 4096 % 16).digitChar, (n / 256 % 16).digitChar, (n / 16 % 16).digitChar,
    (n % 16).digitChar]

/-- The lower-case hexadecimal digits of a number, padded with zeros to a width. -/
def hexPad (width n : Nat) : List Char :=
  let ds := Nat.toDigits 16 n
  List.replicate (width - ds.length) '0' ++ ds

/-- An upper-case hexadecimal digit. -/
def upperHexDigit (n : Nat) : Char :=
  if n < 10 then Char.ofNat (0x30 + n) else Char.ofNat (0x37 + n)

/-- Two upper-case hexadecimal digits of a byte. -/
def hexByte (b : UInt8) : List Char :=
  [upperHexDigit (b.toNat / 16), upperHexDigit (b.toNat % 16)]

/-- The value of a hexadecimal digit, in either case. -/
def hexValue? (c : Char) : Option Nat :=
  let n := c.toNat
  if 0x30 ≤ n && n ≤ 0x39 then some (n - 0x30)
  else if 0x41 ≤ n && n ≤ 0x46 then some (n - 0x37)
  else if 0x61 ≤ n && n ≤ 0x66 then some (n - 0x57)
  else none

/-- The number written by hexadecimal digits, if all of them are. -/
def hexNumber? (ds : List Char) : Option Nat :=
  ds.foldl (fun acc c => do return (← acc) * 16 + (← hexValue? c)) (some 0)

end ConceptQuery.Text
