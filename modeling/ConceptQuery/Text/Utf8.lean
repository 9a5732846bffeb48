import ConceptQuery.Text.Chunk

/-!
# Reading UTF-8

Bytes are read chunk by chunk.  A chunk is a character, or the longest run of bytes that begins a
character and cannot be completed.

* `Utf8.Lead`, `Utf8.lead?` — what a first byte announces;
* `Utf8.step` — the chunk at the front, with the number of further bytes it takes;
* `Utf8.chunks` — all chunks;
* `Utf8.decodeLossy` — every broken chunk becomes U+FFFD;
* `Utf8.decode` — the first broken chunk is reported with its place.
-/

namespace ConceptQuery.Text.Utf8

/-- What a first byte announces: the number of bytes to follow, the bounds of the first of them,
and the bits it contributes. -/
structure Lead where
  following : Nat
  low : Nat
  high : Nat
  bits : Nat
deriving Repr, DecidableEq

/-- The announcement of a first byte that is not ASCII. The bounds leave out long spellings,
surrogates and numbers beyond the last code point. -/
def lead? (b : Nat) : Option Lead :=
  if 0xC2 ≤ b && b ≤ 0xDF then some ⟨1, 0x80, 0xBF, b - 0xC0⟩
  else if b == 0xE0 then some ⟨2, 0xA0, 0xBF, 0⟩
  else if b == 0xED then some ⟨2, 0x80, 0x9F, 0xD⟩
  else if 0xE1 ≤ b && b ≤ 0xEF then some ⟨2, 0x80, 0xBF, b - 0xE0⟩
  else if b == 0xF0 then some ⟨3, 0x90, 0xBF, 0⟩
  else if 0xF1 ≤ b && b ≤ 0xF3 then some ⟨3, 0x80, 0xBF, b - 0xF0⟩
  else if b == 0xF4 then some ⟨3, 0x80, 0x8F, 4⟩
  else none

/-- Reads `n` continuation bytes, the first between `low` and `high`; the result comes with the
number of bytes taken. -/
def continuation : (n low high bits : Nat) → List UInt8 → Except Fault Char × Nat
  | 0, _, _, bits, _ => (.ok (Char.ofNat bits), 0)
  | _ + 1, _, _, _, [] => (.error .endOfData, 0)
  | n + 1, low, high, bits, b :: rest =>
    if low ≤ b.toNat && b.toNat ≤ high then
      let (r, k) := continuation n 0x80 0xBF (bits * 64 + (b.toNat - 0x80)) rest
      (r, k + 1)
    else (.error .badContinuation, 0)

/-- The chunk that begins with `b`, and how many bytes of the rest belong to it. -/
def step (b : UInt8) (rest : List UInt8) :
    Except Fault Char × Nat :=
  if b.toNat < 0x80 then (.ok (Char.ofNat b.toNat), 0)
  else match lead? b.toNat with
    | none => (.error .badStart, 0)
    | some l => continuation l.following l.low l.high l.bits rest

/-- All chunks of a text, each with its length in bytes. -/
def chunks : List UInt8 → List Chunk
  | [] => []
  | b :: rest =>
    let (r, k) := step b rest
    (r, k + 1) :: chunks (rest.drop k)
termination_by bs => bs.length
decreasing_by simp only [List.length_drop, List.length_cons]; omega

/-- A text in which every broken chunk has become U+FFFD. -/
def decodeLossy (bs : List UInt8) : List Char :=
  lossy (chunks bs)

/-- The text that bytes spell, or the first place where they spell none. -/
def decode (bs : List UInt8) : Except Broken (List Char) :=
  intact bs (chunks bs)

end ConceptQuery.Text.Utf8
