import ConceptQuery.Proofs.Text.Utf8
import ConceptQuery.Text.Glob
import Mathlib.Data.List.Infix

/-!
# Patterns that end in a star

A pattern of a text and a star matches what begins with this text, as long as nothing in the text
has a meaning of its own. A text without opening brackets and backslashes always matches itself.

* `toNat_of_mem_encodeChar`, `encode_prefix_iff` — bytes of ASCII spell characters of ASCII, and a text
  begins with another one as its bytes do;
* `Plain`, `accepts_plain_iff` — texts without a meaning of their own;
* `Unbracketed`, `accepts_append` — texts that match themselves.
-/

namespace ConceptQuery.Text.Glob

open Utf8

/-! ### Bytes -/

theorem bytes_append (s t : String) : bytes (s ++ t) = bytes s ++ bytes t := by
  rw [bytes, String.toList_append, List.flatMap_append]
  rfl

/-- The bytes of a character that is not ASCII are none of ASCII. -/
theorem toNat_of_mem_encodeChar {c : Char} {b : UInt8} (h : b ∈ String.utf8EncodeChar c) :
    b.toNat = c.toNat ∨ 0x80 ≤ b.toNat := by
  have hvalid : c.toNat < 0xD800 ∨ 0xDFFF < c.toNat ∧ c.toNat < 0x110000 := c.valid
  have hval : c.val.toNat = c.toNat := rfl
  have hbyte {n : Nat} (hlow : 0x80 ≤ n) (hhigh : n < 0x100) : 0x80 ≤ (UInt8.ofNat n).toNat := by
    rwa [toNat_ofNat_of_lt hhigh]
  rw [String.utf8EncodeChar, hval] at h
  generalize c.toNat = n at h hvalid ⊢
  by_cases h1 : n ≤ 0x7F
  · rw [if_pos h1, List.mem_singleton] at h
    rw [h, toNat_ofNat_of_lt (by omega)]
    exact .inl rfl
  right
  rw [if_neg h1] at h
  by_cases h2 : n ≤ 0x7FF
  · rw [if_pos h2] at h
    simp only [List.mem_cons, List.not_mem_nil, or_false] at h
    rcases h with rfl | rfl <;> exact hbyte (by omega) (by omega)
  rw [if_neg h2] at h
  by_cases h3 : n ≤ 0xFFFF
  · rw [if_pos h3] at h
    simp only [List.mem_cons, List.not_mem_nil, or_false] at h
    rcases h with rfl | rfl | rfl <;> exact hbyte (by omega) (by omega)
  · rw [if_neg h3] at h
    simp only [List.mem_cons, List.not_mem_nil, or_false] at h
    rcases h with rfl | rfl | rfl | rfl <;> exact hbyte (by omega) (by omega)

theorem eq_of_toUInt8_mem_encodeChar {a c : Char} (ha : a.toNat < 0x80)
    (h : a.toUInt8 ∈ String.utf8EncodeChar c) : c = a := by
  have hbyte : a.toUInt8.toNat = a.toNat := toNat_ofNat_of_lt (Nat.lt_trans ha (by decide))
  rcases toNat_of_mem_encodeChar h with heq | hle
  · exact Char.toNat_inj.1 (heq.symm.trans hbyte)
  · exact absurd (hbyte ▸ hle) (Nat.not_le_of_lt ha)

/-- A text begins with another one as its bytes begin with those of the other one. -/
theorem encode_prefix_iff {s t : List Char} :
    s.flatMap String.utf8EncodeChar <+: t.flatMap String.utf8EncodeChar ↔ s <+: t := by
  constructor
  · intro h
    induction s generalizing t with
    | nil => exact List.nil_prefix
    | cons c s ih =>
      obtain ⟨b, more, hc, hstep⟩ := step_encodeChar c
      rw [List.flatMap_cons] at h
      cases t with
      | nil =>
        rw [hc] at h
        exact absurd (List.prefix_nil.1 h) nofun
      | cons d t =>
        obtain ⟨b', more', hd, hstep'⟩ := step_encodeChar d
        obtain ⟨rest, hrest⟩ := h
        have hsame := hrest
        rw [List.flatMap_cons, hc, hd, List.cons_append, List.cons_append, List.cons_append] at hsame
        obtain ⟨rfl, htail⟩ := List.cons.inj hsame
        have hread := hstep (s.flatMap String.utf8EncodeChar ++ rest)
        rw [← List.append_assoc, htail, hstep'] at hread
        obtain rfl := Except.ok.inj (Prod.mk.inj hread).1
        rw [List.flatMap_cons, List.append_assoc] at hrest
        exact List.cons_prefix_cons.2 ⟨rfl, ih ⟨rest, List.append_cancel_left hrest⟩⟩
  · rintro ⟨rest, rfl⟩
    rw [List.flatMap_append]
    exact List.prefix_append _ _

/-! ### Patterns -/

/-- No character of a text opens a bracket or takes the meaning from another one. -/
def Unbracketed (text : String) : Prop :=
  ∀ c ∈ text.toList, c ≠ '[' ∧ c ≠ '\\'

/-- No character of a text has a meaning of its own in patterns. -/
def Plain (text : String) : Prop :=
  Unbracketed text ∧ ∀ c ∈ text.toList, c ≠ '*' ∧ c ≠ '?'

instance (text : String) : Decidable (Unbracketed text) :=
  List.decidableBAll (fun c => c ≠ '[' ∧ c ≠ '\\') text.toList

instance (text : String) : Decidable (Plain text) :=
  @instDecidableAnd _ _ _ (List.decidableBAll (fun c => c ≠ '*' ∧ c ≠ '?') text.toList)

theorem Unbracketed.append {s t : String} (hs : Unbracketed s) (ht : Unbracketed t) :
    Unbracketed (s ++ t) := by
  intro c hc
  rw [String.toList_append, List.mem_append] at hc
  exact hc.elim (hs c) (ht c)

theorem Plain.append {s t : String} (hs : Plain s) (ht : Plain t) : Plain (s ++ t) := by
  refine ⟨hs.1.append ht.1, fun c hc => ?_⟩
  rw [String.toList_append, List.mem_append] at hc
  exact hc.elim (hs.2 c) (ht.2 c)

variable {bs ks : List UInt8} {text : String}

theorem anyEnding_iff {p : List UInt8 → Bool} :
    anyEnding p ks = true ↔ ∃ front back, ks = front ++ back ∧ p back = true := by
  induction ks with
  | nil =>
    rw [anyEnding]
    constructor
    · exact fun h => ⟨[], [], rfl, h⟩
    · rintro ⟨front, back, heq, h⟩
      rwa [(List.append_eq_nil_iff.1 heq.symm).2] at h
  | cons k ks ih =>
    rw [anyEnding, Bool.or_eq_true, ih]
    constructor
    · rintro (h | ⟨front, back, rfl, h⟩)
      · exact ⟨[], _, rfl, h⟩
      · exact ⟨k :: front, back, rfl, h⟩
    · rintro ⟨front, back, heq, h⟩
      cases front with
      | nil =>
        obtain rfl : k :: ks = back := heq
        exact .inl h
      | cons _ front =>
        obtain ⟨rfl, rfl⟩ := List.cons.inj heq
        exact .inr ⟨front, back, rfl, h⟩

/-- A star at the end stands for whatever is left. -/
theorem fits_anyBytes (ks : List UInt8) : fits [.anyBytes] ks = true :=
  anyEnding_iff.2 ⟨ks, [], (List.append_nil ks).symm, rfl⟩

theorem fits_bytes_iff : fits (bs.map .byte ++ [.anyBytes]) ks = true ↔ bs <+: ks := by
  induction bs generalizing ks with
  | nil => exact iff_of_true (fits_anyBytes ks) List.nil_prefix
  | cons b bs ih =>
    cases ks with
    | nil => simp [fits]
    | cons k ks =>
      rw [List.map_cons, List.cons_append, fits, Bool.and_eq_true, ih, Part.admits, beq_iff_eq,
        List.cons_prefix_cons]
      nofun

/-- A byte outside of brackets that opens none and takes no meaning is a part of its own. -/
theorem partsFrom_cons {b : UInt8} (hopen : b ≠ '['.toUInt8) (hescape : b ≠ '\\'.toUInt8)
    (rest : List UInt8) : partsFrom .outside (b :: rest)
      = (if b = '*'.toUInt8 then .anyBytes else if b = '?'.toUInt8 then .anyByte else .byte b)
        :: partsFrom .outside rest := by
  rw [partsFrom.eq_def]
  dsimp only
  rw [if_neg hopen, if_neg hescape]
  split
  · rfl
  · split <;> rfl

/-- Bytes without a meaning stand for themselves. -/
theorem partsFrom_plain (rest : List UInt8)
    (h : ∀ c ∈ ['*', '?', '[', '\\'], c.toUInt8 ∉ bs) :
    partsFrom .outside (bs ++ rest) = bs.map .byte ++ partsFrom .outside rest := by
  induction bs with
  | nil => rfl
  | cons b bs ih =>
    have hb (c : Char) (hc : c ∈ ['*', '?', '[', '\\']) : b ≠ c.toUInt8 :=
      fun heq => h c hc (heq ▸ List.mem_cons_self)
    rw [List.cons_append, partsFrom_cons (hb '[' (by decide)) (hb '\\' (by decide)),
      if_neg (hb '*' (by decide)), if_neg (hb '?' (by decide)),
      ih fun c hc hmem => h c hc (List.mem_cons_of_mem b hmem)]
    rfl

/-- Bytes without brackets and backslashes fit the parts that they are read as: a star can stand
for a star, and a question mark for a question mark. -/
theorem fits_append (hopen : '['.toUInt8 ∉ bs) (hescape : '\\'.toUInt8 ∉ bs) {rest : List UInt8}
    (h : fits (partsFrom .outside rest) ks = true) :
    fits (partsFrom .outside (bs ++ rest)) (bs ++ ks) = true := by
  induction bs with
  | nil => exact h
  | cons b bs ih =>
    have hfits := ih (fun hmem => hopen (List.mem_cons_of_mem b hmem))
      fun hmem => hescape (List.mem_cons_of_mem b hmem)
    have hopen' : b ≠ '['.toUInt8 := fun heq => hopen (heq ▸ List.mem_cons_self)
    have hescape' : b ≠ '\\'.toUInt8 := fun heq => hescape (heq ▸ List.mem_cons_self)
    rw [List.cons_append, List.cons_append, partsFrom_cons hopen' hescape']
    split
    · exact anyEnding_iff.2 ⟨[b], bs ++ ks, rfl, hfits⟩
    · split
      · exact hfits
      · show (b == b && fits _ _) = true
        rw [beq_self_eq_true, hfits]
        rfl

theorem toUInt8_notMem_bytes {a : Char} (ha : a.toNat < 0x80) (h : ∀ c ∈ text.toList, c ≠ a) :
    a.toUInt8 ∉ bytes text := by
  intro hmem
  obtain ⟨c, hc, hbyte⟩ := List.mem_flatMap.1 hmem
  exact h c hc (eq_of_toUInt8_mem_encodeChar ha hbyte)

/-- **A plain text with a star** matches the texts that begin with it. -/
theorem accepts_plain_iff {beginning : String} (h : Plain beginning) :
    accepts (beginning ++ "*") text = true ↔ beginning.toList <+: text.toList := by
  obtain ⟨hunbracketed, hplain⟩ := h
  have hbytes : ∀ c ∈ ['*', '?', '[', '\\'], c.toUInt8 ∉ bytes beginning := by
    simp only [List.forall_mem_cons, List.not_mem_nil, false_implies, implies_true, and_true]
    exact ⟨toUInt8_notMem_bytes (by decide) fun c hc => (hplain c hc).1,
      toUInt8_notMem_bytes (by decide) fun c hc => (hplain c hc).2,
      toUInt8_notMem_bytes (by decide) fun c hc => (hunbracketed c hc).1,
      toUInt8_notMem_bytes (by decide) fun c hc => (hunbracketed c hc).2⟩
  have hstar : partsFrom .outside (bytes "*") = [.anyBytes] := by decide
  rw [accepts, bytes_append, partsFrom_plain _ hbytes, hstar, fits_bytes_iff]
  exact encode_prefix_iff

/-- **A text without brackets and backslashes** matches itself, whatever follows. -/
theorem accepts_append {beginning : String} (h : Unbracketed beginning) (rest : String) :
    accepts (beginning ++ "*") (beginning ++ rest) = true := by
  rw [accepts, bytes_append, bytes_append]
  apply fits_append
  · exact toUInt8_notMem_bytes (by decide) fun c hc => (h c hc).1
  · exact toUInt8_notMem_bytes (by decide) fun c hc => (h c hc).2
  · exact fits_anyBytes _

/-- Brackets do not stand for themselves. -/
example : accepts "app[1]:*" "app[1]:urn:prompt:tea" = false := by
  decide +kernel

end ConceptQuery.Text.Glob
