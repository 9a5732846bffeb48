import ConceptQuery.Json.Document
import ConceptQuery.Proofs.Json.Reading
import ConceptQuery.Proofs.Text.Utf8

/-!
# Documents in UTF-8 are read

An object begins with two characters of ASCII, by which its document is told to be in UTF-8.

* `detect_of_ascii` — the encoding of a document that begins with two bytes of ASCII;
* `TextOf.ascii_of_object` — the first two characters of the text of an object;
* `ofDocument_of_object` — the document of an object is read as this object;
* `item_of_member?` — a member is found as an item.
-/

namespace ConceptQuery.Json

open Text

variable {limits : Limits} {members : List (String × Json)} {text : List Char}

/-! ### Encodings -/

/-- The number of a byte that is ASCII and not zero. -/
def IsAscii (n : Nat) : Prop :=
  0 < n ∧ n < 0x80

instance (n : Nat) : Decidable (IsAscii n) :=
  inferInstanceAs (Decidable (_ ∧ _))

theorem orderMark?_two {a b : UInt8} (ha : IsAscii a.toNat) (hb : IsAscii b.toNat)
    (rest : List UInt8) : Charset.orderMark? 2 (a :: b :: rest) = none := by
  have hlittle : ByteOrder.little.number [a, b] ≠ 0xFEFF := by
    show (0 * 256 + b.toNat) * 256 + a.toNat ≠ 0xFEFF
    have := ha.2
    omega
  have hbig : ByteOrder.big.number [a, b] ≠ 0xFEFF := by
    show (0 * 256 + a.toNat) * 256 + b.toNat ≠ 0xFEFF
    have := ha.2
    have := hb.2
    omega
  simp [Charset.orderMark?, hlittle, hbig]

theorem orderMark?_four {a b : UInt8} (ha : IsAscii a.toNat) (rest : List UInt8) :
    Charset.orderMark? 4 (a :: b :: rest) = none := by
  unfold Charset.orderMark?
  rcases rest with _ | ⟨c, _ | ⟨d, rest⟩⟩
  · rfl
  · rfl
  · have hlittle : ByteOrder.little.number [a, b, c, d] ≠ 0xFEFF := by
      show (((0 * 256 + d.toNat) * 256 + c.toNat) * 256 + b.toNat) * 256 + a.toNat ≠ 0xFEFF
      have := ha.2
      omega
    have hbig : ByteOrder.big.number [a, b, c, d] ≠ 0xFEFF := by
      show (((0 * 256 + a.toNat) * 256 + b.toNat) * 256 + c.toNat) * 256 + d.toNat ≠ 0xFEFF
      have := ha.1
      omega
    simp [hlittle, hbig]

theorem detect_of_ascii {a b : UInt8} (ha : IsAscii a.toNat) (hb : IsAscii b.toNat)
    (rest : List UInt8) : Charset.detect (a :: b :: rest) = .utf8 := by
  have hzero {c : UInt8} (hc : IsAscii c.toNat) : c ≠ 0 := by
    rintro rfl
    exact absurd hc.1 (by decide)
  have hmark : Charset.utf8Mark.isPrefixOf (a :: b :: rest) = false := by
    have hne : (0xEF : UInt8) ≠ a := by
      rintro rfl
      exact absurd ha.2 (by decide)
    simp [Charset.utf8Mark, List.isPrefixOf, hne]
  unfold Charset.detect
  rw [orderMark?_two ha hb, orderMark?_four ha, hmark]
  rcases rest with _ | ⟨c, _ | ⟨d, rest⟩⟩ <;> simp [hzero ha, hzero hb]

/-! ### The text of an object -/

theorem Blank.isAscii {b : List Char} (hb : Blank b) : ∀ c ∈ b, IsAscii c.toNat := by
  intro c hc
  rcases hb c hc with rfl | rfl | rfl | rfl <;> decide

/-- The first character of a text with blanks at its front. -/
theorem Blank.head_isAscii {b : List Char} (hb : Blank b) {c : Char} (hc : IsAscii c.toNat)
    (rest : List Char) : ∃ d more, b ++ c :: rest = d :: more ∧ IsAscii d.toNat := by
  cases b with
  | nil => exact ⟨c, rest, rfl, hc⟩
  | cons d b => exact ⟨d, b ++ c :: rest, rfl, hb.isAscii d List.mem_cons_self⟩

/-- What stands behind the opening brace of an object. -/
theorem ValueText.object_eq_cons {depth : Option Nat} {t : List Char}
    (h : ValueText limits depth t (.object members)) :
    ∃ b c rest, Blank b ∧ IsAscii c.toNat ∧ t = '\x7b' :: (b ++ c :: rest) := by
  cases h with
  | literal h =>
    rw [literals_eq] at h
    simp at h
  | number h => cases h
  | emptyObject hdepth hb => exact ⟨_, '\x7d', [], hb, by decide, rfl⟩
  | object hdepth h =>
    cases h with
    | last hb => exact ⟨_, '"', _, hb, by decide, by rw [List.append_assoc]; rfl⟩
    | more hb => exact ⟨_, '"', _, hb, by decide, by rw [List.append_assoc]; rfl⟩

theorem TextOf.ascii_of_object (h : TextOf limits text (.object members)) :
    ∃ c d rest, text = c :: d :: rest ∧ IsAscii c.toNat ∧ IsAscii d.toNat := by
  obtain ⟨b, t, b', hb, -, rfl, ht⟩ := h
  obtain ⟨b₁, c, rest, hb₁, hc, rfl⟩ := ht.object_eq_cons
  have hbrace : IsAscii '\x7b'.toNat := by decide
  cases b with
  | nil =>
    obtain ⟨d, more, heq, hd⟩ := hb₁.head_isAscii hc (rest ++ b')
    exact ⟨'\x7b', d, more, by simp [← heq], hbrace, hd⟩
  | cons e b =>
    have hblank : Blank b := fun x hx => hb x (List.mem_cons_of_mem e hx)
    obtain ⟨d, more, heq, hd⟩ := hblank.head_isAscii hbrace (b₁ ++ c :: rest ++ b')
    exact ⟨e, d, more, by simpa using heq, hb.isAscii e List.mem_cons_self, hd⟩

/-! ### Documents -/

/-- The bytes of a text in UTF-8. -/
def utf8Bytes (text : List Char) : List UInt8 :=
  text.flatMap String.utf8EncodeChar

theorem utf8EncodeChar_of_isAscii {c : Char} (h : IsAscii c.toNat) :
    ∃ b : UInt8, String.utf8EncodeChar c = [b] ∧ IsAscii b.toNat := by
  have hle : c.val.toNat ≤ 127 := Nat.le_of_lt_succ h.2
  refine ⟨UInt8.ofNat c.toNat, ?_, ?_⟩
  · rw [String.utf8EncodeChar, if_pos hle]
    rfl
  · rw [Utf8.toNat_ofNat_of_lt (Nat.lt_trans h.2 (by decide))]
    exact h

theorem decode_utf8Bytes (text : List Char) :
    Charset.utf8.decode (utf8Bytes text) = .ok text :=
  Utf8.decode_encode text

/-- **The document of an object is read as this object**, however it is spelled. -/
theorem ofDocument_of_object (h : TextOf limits text (.object members)) :
    ofDocument limits (utf8Bytes text) = .ok (.object members) := by
  have hdetect : Charset.detect (utf8Bytes text) = .utf8 := by
    obtain ⟨c, d, rest, rfl, hc, hd⟩ := h.ascii_of_object
    obtain ⟨a, ha, hascii⟩ := utf8EncodeChar_of_isAscii hc
    obtain ⟨b, hb, hascii'⟩ := utf8EncodeChar_of_isAscii hd
    have hbytes : utf8Bytes (c :: d :: rest) = a :: b :: utf8Bytes rest := by
      simp [utf8Bytes, ha, hb]
    rw [hbytes]
    exact detect_of_ascii hascii hascii' _
  unfold ofDocument
  rw [hdetect]
  dsimp only
  rw [decode_utf8Bytes]
  show (readUnmarked limits text).mapError _ = _
  rw [readUnmarked_eq_ok.2 h]
  rfl

/-- A member is found as an item. -/
theorem item_of_member? {v w : Json} {name : String} (h : v.member? name = some w) :
    v.item name = .ok w := by
  unfold member? at h
  split at h
  · unfold item
    dsimp only
    rw [h]
  · cases h

end ConceptQuery.Json
