import ConceptQuery.Proofs.Except
import ConceptQuery.Text.Utf8

/-!
# UTF-8 is read back

* `lead?_two`, `lead?_three`, `lead?_four` — what the first byte of a spelled character announces;
* `step_encodeChar` — the chunk at the front of a spelled character is the character;
* `decode_encode` — a text is read back from its bytes;
* `toList_toUTF8` — the bytes of a string, character by character;
* `length_le_utf8ByteSize` — a text has no more characters than bytes.
-/

namespace ConceptQuery.Text.Utf8

/-! ### First bytes -/

theorem lead?_two {b : Nat} (hlow : 0xC2 ≤ b) (hhigh : b ≤ 0xDF) :
    lead? b = some ⟨1, 0x80, 0xBF, b - 0xC0⟩ := by
  simp [lead?, hlow, hhigh]

/-- A first byte of three bounds the second one so that long spellings and surrogates are left
out. -/
theorem lead?_three {b next : Nat} (hlow : 0xE0 ≤ b) (hhigh : b ≤ 0xEF)
    (hnext : 0x80 ≤ next ∧ next ≤ 0xBF) (hlong : b = 0xE0 → 0xA0 ≤ next)
    (hsurrogate : b = 0xED → next ≤ 0x9F) :
    ∃ low high, lead? b = some ⟨2, low, high, b - 0xE0⟩ ∧ low ≤ next ∧ next ≤ high := by
  have htwo : ¬ (0xC2 ≤ b ∧ b ≤ 0xDF) := by omega
  by_cases hE0 : b = 0xE0
  · exact ⟨0xA0, 0xBF, by simp [lead?, hE0], hlong hE0, hnext.2⟩
  by_cases hED : b = 0xED
  · exact ⟨0x80, 0x9F, by simp [lead?, hED], hnext.1, hsurrogate hED⟩
  have hrange : 0xE1 ≤ b ∧ b ≤ 0xEF := by omega
  exact ⟨0x80, 0xBF, by simp [lead?, htwo, hE0, hED, hrange], hnext⟩

/-- A first byte of four bounds the second one so that long spellings and numbers beyond the last
code point are left out. -/
theorem lead?_four {b next : Nat} (hlow : 0xF0 ≤ b) (hhigh : b ≤ 0xF4)
    (hnext : 0x80 ≤ next ∧ next ≤ 0xBF) (hlong : b = 0xF0 → 0x90 ≤ next)
    (hbeyond : b = 0xF4 → next ≤ 0x8F) :
    ∃ low high, lead? b = some ⟨3, low, high, b - 0xF0⟩ ∧ low ≤ next ∧ next ≤ high := by
  have htwo : ¬ (0xC2 ≤ b ∧ b ≤ 0xDF) := by omega
  have hthree : ¬ (0xE1 ≤ b ∧ b ≤ 0xEF) := by omega
  have hE0 : b ≠ 0xE0 := by omega
  have hED : b ≠ 0xED := by omega
  by_cases hF0 : b = 0xF0
  · exact ⟨0x90, 0xBF, by simp [lead?, hF0], hlong hF0, hnext.2⟩
  by_cases hF4 : b = 0xF4
  · exact ⟨0x80, 0x8F, by simp [lead?, hF4], hnext.1, hbeyond hF4⟩
  have hrange : 0xF1 ≤ b ∧ b ≤ 0xF3 := by omega
  exact ⟨0x80, 0xBF, by simp [lead?, htwo, hthree, hE0, hED, hF0, hrange], hnext⟩

/-! ### Characters -/

theorem continuation_cons {n low high bits : Nat} {b : UInt8} {rest : List UInt8}
    {outcome : Except Fault Char} {k : Nat} (hlow : low ≤ b.toNat) (hhigh : b.toNat ≤ high)
    (h : continuation n 0x80 0xBF (bits * 64 + (b.toNat - 0x80)) rest = (outcome, k)) :
    continuation (n + 1) low high bits (b :: rest) = (outcome, k + 1) := by
  simp [continuation, hlow, hhigh, h]

theorem toNat_ofNat_of_lt {n : Nat} (h : n < 256) : (UInt8.ofNat n).toNat = n := by
  rw [UInt8.toNat_ofNat']
  exact Nat.mod_eq_of_lt h

/-- The last byte of a spelled character completes it. -/
theorem continuation_last {bits low n : Nat} {rest : List UInt8} (hlow : low < 0x40)
    (hn : bits * 64 + low = n) :
    continuation 1 0x80 0xBF bits (UInt8.ofNat (low + 0x80) :: rest) = (.ok (Char.ofNat n), 1) := by
  have hbyte : (UInt8.ofNat (low + 0x80)).toNat = low + 0x80 := toNat_ofNat_of_lt (by omega)
  apply continuation_cons
  · omega
  · omega
  · rw [hbyte, continuation, Nat.add_sub_cancel, hn]

/-- **A spelled character is read back**, whatever follows it. The cases are the lengths of its
spelling. -/
theorem step_encodeChar (c : Char) : ∃ b more, String.utf8EncodeChar c = b :: more ∧
    ∀ rest, step b (more ++ rest) = (.ok c, more.length) := by
  have hvalid : c.toNat < 0xD800 ∨ 0xDFFF < c.toNat ∧ c.toNat < 0x110000 := c.valid
  have hchar : Char.ofNat c.toNat = c := Char.ofNat_toNat c
  have hval : c.val.toNat = c.toNat := rfl
  rw [String.utf8EncodeChar, hval]
  generalize c.toNat = n at hvalid hchar
  subst hchar
  by_cases h1 : n ≤ 0x7F
  · rw [if_pos h1]
    refine ⟨_, _, rfl, fun rest => ?_⟩
    rw [step, toNat_ofNat_of_lt (by omega), if_pos (by omega)]
    rfl
  rw [if_neg h1]
  by_cases h2 : n ≤ 0x7FF
  · rw [if_pos h2]
    refine ⟨_, _, rfl, fun rest => ?_⟩
    rw [step, toNat_ofNat_of_lt (by omega), if_neg (by omega), lead?_two (by omega) (by omega)]
    show continuation 1 0x80 0xBF (n / 64 % 32 + 0xC0 - 0xC0) _ = _
    exact continuation_last (by omega) (by omega)
  rw [if_neg h2]
  by_cases h3 : n ≤ 0xFFFF
  · rw [if_pos h3]
    refine ⟨_, _, rfl, fun rest => ?_⟩
    have hnext : (UInt8.ofNat (n / 64 % 64 + 0x80)).toNat = n / 64 % 64 + 0x80 :=
      toNat_ofNat_of_lt (by omega)
    obtain ⟨low, high, hlead, hlow, hhigh⟩ : ∃ low high,
        lead? (n / 4096 % 16 + 0xE0) = some ⟨2, low, high, n / 4096 % 16 + 0xE0 - 0xE0⟩
          ∧ low ≤ n / 64 % 64 + 0x80 ∧ n / 64 % 64 + 0x80 ≤ high :=
      lead?_three (by omega) (by omega) (by omega) (by omega) (by omega)
    rw [step, toNat_ofNat_of_lt (by omega), if_neg (by omega), hlead]
    show continuation 2 low high (n / 4096 % 16 + 0xE0 - 0xE0) _ = _
    apply continuation_cons (by omega) (by omega)
    rw [hnext]
    exact continuation_last (by omega) (by omega)
  · rw [if_neg h3]
    refine ⟨_, _, rfl, fun rest => ?_⟩
    have hnext : (UInt8.ofNat (n / 4096 % 64 + 0x80)).toNat = n / 4096 % 64 + 0x80 :=
      toNat_ofNat_of_lt (by omega)
    have hthird : (UInt8.ofNat (n / 64 % 64 + 0x80)).toNat = n / 64 % 64 + 0x80 :=
      toNat_ofNat_of_lt (by omega)
    obtain ⟨low, high, hlead, hlow, hhigh⟩ : ∃ low high,
        lead? (n / 262144 % 8 + 0xF0) = some ⟨3, low, high, n / 262144 % 8 + 0xF0 - 0xF0⟩
          ∧ low ≤ n / 4096 % 64 + 0x80 ∧ n / 4096 % 64 + 0x80 ≤ high :=
      lead?_four (by omega) (by omega) (by omega) (by omega) (by omega)
    rw [step, toNat_ofNat_of_lt (by omega), if_neg (by omega), hlead]
    show continuation 3 low high (n / 262144 % 8 + 0xF0 - 0xF0) _ = _
    apply continuation_cons (by omega) (by omega)
    apply continuation_cons (by omega) (by omega)
    rw [hnext, hthird]
    exact continuation_last (by omega) (by omega)

/-! ### Texts -/

theorem chunks_encode (s : List Char) :
    chunks (s.flatMap String.utf8EncodeChar)
      = s.map fun c => (.ok c, (String.utf8EncodeChar c).length) := by
  induction s with
  | nil => rw [List.flatMap_nil, chunks, List.map_nil]
  | cons c s ih =>
    obtain ⟨b, more, hbytes, hstep⟩ := step_encodeChar c
    have hdrop : (more ++ s.flatMap String.utf8EncodeChar).drop more.length
        = s.flatMap String.utf8EncodeChar := List.drop_left
    rw [List.flatMap_cons, hbytes, List.cons_append, chunks, hstep, List.map_cons, hbytes, ← ih]
    show (Except.ok c, more.length + 1) :: chunks (List.drop _ _) = _
    rw [hdrop]
    rfl

theorem intactFrom_ok (bs : List UInt8) (s : List Char) (width : Char → Nat) (position : Nat) :
    intactFrom bs position (s.map fun c => (.ok c, width c)) = .ok s := by
  induction s generalizing position with
  | nil => rfl
  | cons c s ih =>
    rw [List.map_cons, intactFrom, ih]
    rfl

/-- **A text is read back from its UTF-8 bytes.** -/
theorem decode_encode (s : List Char) : decode (s.flatMap String.utf8EncodeChar) = .ok s := by
  rw [decode, chunks_encode, intact]
  exact intactFrom_ok _ s (fun c => (String.utf8EncodeChar c).length) 0

/-! ### Strings -/

theorem toList_loop (bs : ByteArray) (i : Nat) (r : List UInt8) :
    ByteArray.toList.loop bs i r = r.reverse ++ bs.data.toList.drop i := by
  fun_induction ByteArray.toList.loop bs i r with
  | case1 i r h ih =>
    have hi : i < bs.data.toList.length := h
    have hget : bs.get! i = bs.data.toList[i] := getElem!_pos bs.data i h
    rw [ih, List.drop_eq_getElem_cons hi, List.reverse_cons, List.append_assoc,
      List.singleton_append, hget]
  | case2 i r h =>
    have hi : bs.data.toList.length ≤ i := Nat.le_of_not_lt h
    rw [List.drop_eq_nil_of_le hi, List.append_nil]

/-- The bytes of a string are those of its characters. -/
theorem toList_toUTF8 (s : String) :
    s.toUTF8.toList = s.toList.flatMap String.utf8EncodeChar := by
  have hbytes : s.toUTF8 = (s.toList.flatMap String.utf8EncodeChar).toByteArray :=
    String.utf8Encode_toList.symm
  rw [hbytes, ByteArray.toList, toList_loop, List.toList_data_toByteArray]
  rfl

/-! ### Sizes -/

theorem length_le_utf8ByteSize (s : List Char) : s.length ≤ (String.ofList s).utf8ByteSize := by
  induction s with
  | nil => exact Nat.zero_le _
  | cons c s ih =>
    rw [String.ofList_cons, String.utf8ByteSize_append, String.utf8ByteSize_singleton,
      List.length_cons]
    have hpos := c.utf8Size_pos
    omega

end ConceptQuery.Text.Utf8
