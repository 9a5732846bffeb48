import ConceptQuery.Proofs.Text.Utf8
import ConceptQuery.Text.FormEncoding

/-!
# Form encoding is read back

* `formDecodeBytes?`, `formDecode?` — the bytes and the text that an encoding stands for;
* `formDecodeBytes?_encodeByte` — the encoding of a byte is read back, whatever follows it;
* `mem_formEncode` — the characters of an encoding;
* `formDecode?_encode`, `formEncode_injective` — a text is read back from its encoding, and no two
  texts share one.
-/

namespace ConceptQuery.Text

/-! ### Decoding -/

/-- The bytes that an encoding stands for: `+` is a space, `%` begins two digits, and any other
character of ASCII is its own byte. -/
def formDecodeBytes? : List Char → Option (List UInt8)
  | [] => some []
  | '+' :: rest => (formDecodeBytes? rest).map (0x20 :: ·)
  | '%' :: high :: low :: rest => do
    let byte := UInt8.ofNat ((← hexValue? high) * 16 + (← hexValue? low))
    return byte :: (← formDecodeBytes? rest)
  | c :: rest =>
    if c = '%' ∨ 0x80 ≤ c.toNat then none
    else (formDecodeBytes? rest).map (UInt8.ofNat c.toNat :: ·)

/-- The text that an encoding stands for. -/
def formDecode? (s : String) : Option String := do
  let chars ← (Utf8.decode (← formDecodeBytes? s.toList)).toOption
  return .ofList chars

/-! ### Bytes -/

theorem hexValue?_upperHexDigit : ∀ n < 16, hexValue? (upperHexDigit n) = some n := by
  decide

theorem formDecodeBytes?_plain {c : Char} (hplus : c ≠ '+') (hpercent : c ≠ '%')
    (hascii : c.toNat < 0x80) (rest : List Char) :
    formDecodeBytes? (c :: rest) = (formDecodeBytes? rest).map (UInt8.ofNat c.toNat :: ·) := by
  rw [formDecodeBytes?.eq_4]
  · rw [if_neg]
    rintro (h | h)
    · exact hpercent h
    · omega
  · exact hplus
  · intro _ _ _ h
    exact absurd h hpercent

theorem toNat_ofNat_byte (b : UInt8) : (Char.ofNat b.toNat).toNat = b.toNat := by
  have hb : b.toNat < 256 := b.toNat_lt
  have hvalid : b.toNat.isValidChar := .inl (by omega)
  rw [Char.ofNat, dif_pos hvalid]
  rfl

/-- An unreserved character is none of those that an encoding puts to use. -/
theorem bounds_of_isUnreserved {c : Char} (h : isUnreserved c = true) :
    c ≠ '+' ∧ c ≠ '%' ∧ c.toNat < 0x80 := by
  refine ⟨?_, ?_, ?_⟩
  · rintro rfl
    exact absurd h (by decide)
  · rintro rfl
    exact absurd h (by decide)
  · simp only [isUnreserved, Bool.or_eq_true, beq_iff_eq] at h
    obtain (((halnum | rfl) | rfl) | rfl) | rfl := h
    · have hranges : (decide (c.val ≥ 'A'.val ∧ c.val ≤ 'Z'.val)
          || decide (c.val ≥ 'a'.val) && decide (c.val ≤ 'z'.val)
          || decide (c.val ≥ '0'.val) && decide (c.val ≤ '9'.val)) = true := halnum
      simp only [Bool.or_eq_true, Bool.and_eq_true, decide_eq_true_eq, UInt32.le_iff_toNat_le]
        at hranges
      have hupper : 'Z'.val.toNat = 90 := rfl
      have hlower : 'z'.val.toNat = 122 := rfl
      have hdigit : '9'.val.toNat = 57 := rfl
      show c.val.toNat < 0x80
      omega
    all_goals decide

/-- **An encoded byte is read back**, whatever follows it. -/
theorem formDecodeBytes?_encodeByte (b : UInt8) (rest : List Char) :
    formDecodeBytes? (formEncodeByte b ++ rest) = (formDecodeBytes? rest).map (b :: ·) := by
  have hback : UInt8.ofNat (Char.ofNat b.toNat).toNat = b := by
    rw [toNat_ofNat_byte, UInt8.ofNat_toNat]
  rw [formEncodeByte]
  by_cases hplain : isUnreserved (Char.ofNat b.toNat) = true
  · obtain ⟨hplus, hpercent, hascii⟩ := bounds_of_isUnreserved hplain
    rw [if_pos hplain, List.singleton_append, formDecodeBytes?_plain hplus hpercent hascii, hback]
  rw [if_neg hplain]
  by_cases hspace : Char.ofNat b.toNat = ' '
  · have hb : b = 0x20 := by
      rw [← hback, hspace]
      rfl
    rw [if_pos hspace, hb]
    rfl
  · have hb : b.toNat < 256 := b.toNat_lt
    have hhigh := hexValue?_upperHexDigit (b.toNat / 16) (by omega)
    have hlow := hexValue?_upperHexDigit (b.toNat % 16) (by omega)
    have hbyte : UInt8.ofNat (b.toNat / 16 * 16 + b.toNat % 16) = b := by
      rw [Nat.div_add_mod', UInt8.ofNat_toNat]
    rw [if_neg hspace, hexByte, List.cons_append, List.cons_append, List.cons_append,
      List.nil_append, formDecodeBytes?, hhigh, hlow]
    show (formDecodeBytes? rest).bind (fun bs => some (UInt8.ofNat _ :: bs)) = _
    rw [hbyte, Option.map_eq_bind]
    rfl

/-! ### The characters of an encoding -/

theorem isUnreserved_upperHexDigit : ∀ n < 16, isUnreserved (upperHexDigit n) = true := by
  decide

theorem mem_formEncodeByte {b : UInt8} {c : Char} (h : c ∈ formEncodeByte b) :
    isUnreserved c = true ∨ c = '+' ∨ c = '%' := by
  have hb : b.toNat < 256 := b.toNat_lt
  unfold formEncodeByte at h
  dsimp only at h
  split at h
  · next hplain =>
    obtain rfl := List.mem_singleton.1 h
    exact .inl hplain
  · split at h
    · exact .inr (.inl (List.mem_singleton.1 h))
    · simp only [hexByte, List.mem_cons, List.not_mem_nil, or_false] at h
      rcases h with rfl | rfl | rfl
      · exact .inr (.inr rfl)
      · exact .inl (isUnreserved_upperHexDigit _ (by omega))
      · exact .inl (isUnreserved_upperHexDigit _ (by omega))

theorem mem_formEncode {s : String} {c : Char} (h : c ∈ (formEncode s).toList) :
    isUnreserved c = true ∨ c = '+' ∨ c = '%' := by
  rw [formEncode, String.toList_ofList, formEncodeChars, List.mem_flatMap] at h
  obtain ⟨b, -, hc⟩ := h
  exact mem_formEncodeByte hc

/-! ### Texts -/

theorem formDecodeBytes?_encode (bs : List UInt8) :
    formDecodeBytes? (bs.flatMap formEncodeByte) = some bs := by
  induction bs with
  | nil => rfl
  | cons b bs ih =>
    rw [List.flatMap_cons, formDecodeBytes?_encodeByte, ih]
    rfl

/-- **A text is read back from its form encoding.** -/
theorem formDecode?_encode (s : String) : formDecode? (formEncode s) = some s := by
  have hbytes : formDecodeBytes? (formEncode s).toList
      = some (s.toList.flatMap String.utf8EncodeChar) := by
    rw [formEncode, String.toList_ofList, formEncodeChars]
    exact formDecodeBytes?_encode _
  simp [formDecode?, hbytes, Utf8.decode_encode, Except.toOption]

/-- No two texts have the same encoding. -/
theorem formEncode_injective : Function.Injective formEncode := by
  intro s t h
  have hdecode := congrArg formDecode? h
  rw [formDecode?_encode, formDecode?_encode] at hdecode
  exact Option.some.inj hdecode

end ConceptQuery.Text
