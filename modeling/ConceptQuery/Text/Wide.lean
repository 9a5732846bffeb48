import ConceptQuery.Text.Chunk

/-!
# Reading UTF-16 and UTF-32

* `ByteOrder`, `ByteOrder.number` — which byte of a unit comes first, and the number of a unit;
* `Wide.chunks16`, `Wide.chunks32` — the chunks of a text in two-byte and four-byte units.
-/

namespace ConceptQuery.Text

/-- Which byte of a unit comes first. -/
inductive ByteOrder where
  | little
  | big
deriving Repr, DecidableEq

/-- The number that the bytes of a unit spell. -/
def ByteOrder.number (order : ByteOrder) (bytes : List UInt8) : Nat :=
  let ordered := match order with
    | .little => bytes.reverse
    | .big => bytes
  ordered.foldl (fun n b => n * 256 + b.toNat) 0

namespace Wide

/-- Whether a unit is the first half of a pair. -/
def isFirstHalf (n : Nat) : Bool :=
  0xD800 ≤ n && n < 0xDC00

/-- Whether a unit is the second half of a pair. -/
def isSecondHalf (n : Nat) : Bool :=
  0xDC00 ≤ n && n < 0xE000

/-- The character of a pair of halves. -/
def joined (first second : Nat) : Char :=
  Char.ofNat (0x10000 + (first - 0xD800) * 0x400 + (second - 0xDC00))

/-- The chunks of a text in two-byte units. -/
def chunks16 (order : ByteOrder) : List UInt8 → List Chunk
  | [] => []
  | [_] => [(.error .truncated, 1)]
  | a :: b :: rest =>
    let n := order.number [a, b]
    if isFirstHalf n then
      match rest with
      | [] => [(.error .endOfData, 2)]
      | [_] => [(.error .endOfData, 3)]
      | c :: d :: rest =>
        let m := order.number [c, d]
        if isSecondHalf m then (.ok (joined n m), 4) :: chunks16 order rest
        else (.error .badPair, 2) :: chunks16 order (c :: d :: rest)
    else if isSecondHalf n then (.error .strayHalf, 2) :: chunks16 order rest
    else (.ok (Char.ofNat n), 2) :: chunks16 order rest
termination_by bs => bs.length
decreasing_by all_goals simp only [List.length_cons]; omega

/-- The chunks of a text in four-byte units. -/
def chunks32 (order : ByteOrder) : List UInt8 → List Chunk
  | a :: b :: c :: d :: rest =>
    let n := order.number [a, b, c, d]
    let chunk : Chunk :=
      if isFirstHalf n || isSecondHalf n then (.error .surrogate, 4)
      else if 0x110000 ≤ n then (.error .beyondLast, 4)
      else (.ok (Char.ofNat n), 4)
    chunk :: chunks32 order rest
  | [] => []
  | left => [(.error .truncated, left.length)]

end Wide

end ConceptQuery.Text
