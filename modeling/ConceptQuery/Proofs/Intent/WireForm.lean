import ConceptQuery.Proofs.Intent.Acceptance
import ConceptQuery.Proofs.Json.Ascii
import ConceptQuery.Proofs.Json.Nesting
import ConceptQuery.Proofs.Text.Utf8
import Mathlib.Algebra.Group.Int.Defs

/-!
# The wire form of an intent

* `Sound` — an intent that some text can give;
* `Counts.natAbs_lt`, `sound_of_ofText` — what was read from a text is sound, its page size included;
* `textOf_toText`, `accepts_toJson`, `ofText_toText` — the wire form of a sound intent gives this
  intent;
* `wire_round_trip` — whatever was read is read back from its wire form, which is printable ASCII.
-/

namespace ConceptQuery.Intent

open Text

/-- An intent that a text can give: labels are not empty, the page size is positive and has no more
digits than a reader takes, and there are fields, all of which have names. -/
structure Sound (i : Intent) : Prop where
  target : i.target ≠ ""
  subEntity : i.subEntity ≠ ""
  api : i.api ≠ ""
  limit : 1 ≤ i.limit ∧ i.limit < 10 ^ digitLimit
  fields : i.fields ≠ [] ∧ ∀ name ∈ i.fields, IsName name

variable {i : Intent} {v : Json} {n : Int}

/-! ### The size of a count -/

theorem natAbs_signed (negative : Bool) (n : Nat) : (Binary64.signed negative n).natAbs = n := by
  cases negative
  · rfl
  · exact Int.natAbs_neg n

theorem lt_pow_iff_natAbs_lt (h : 0 ≤ n) {k : Nat} : n < 10 ^ k ↔ n.natAbs < 10 ^ k := by
  obtain ⟨m, rfl⟩ := Int.eq_ofNat_of_zero_le h
  rw [Int.natAbs_natCast]
  exact_mod_cast Iff.rfl

theorem GroupedDigits.digits {s ds : List Char} (h : GroupedDigits s ds) :
    (∀ d ∈ ds, d.isDigit = true) ∧ ds.length ≤ s.length := by
  induction h with
  | last hc => exact ⟨by simpa using hc, Nat.le_refl _⟩
  | next hc hs ih => exact ⟨List.forall_mem_cons.2 ⟨hc, ih.1⟩, Nat.succ_le_succ ih.2⟩
  | underscore hc hs ih =>
    exact ⟨List.forall_mem_cons.2 ⟨hc, ih.1⟩, Nat.succ_le_succ (Nat.le_succ_of_le ih.2)⟩

/-- A number spelled by so many characters is below this power of ten. -/
theorem Numeral.natAbs_lt {t : List Char} (h : Numeral t n) : n.natAbs < 10 ^ t.length := by
  cases h with
  | @spelled sign s ds f negative hsign hs hf =>
    obtain ⟨hdigits, hlength⟩ := hs.digits
    rw [natAbs_signed]
    refine Nat.lt_of_lt_of_le (decimalValue_lt hdigits) (Nat.pow_le_pow_right (by decide) ?_)
    rw [List.length_append, List.length_append]
    omega

theorem isDigit_wholePart {ds : List Char} (h : Json.WholePart ds) :
    ∀ d ∈ ds, d.isDigit = true := by
  cases h with
  | zero =>
    intro d hd
    obtain rfl := List.mem_singleton.1 hd
    rfl
  | digits hc hzero hds => exact List.forall_mem_cons.2 ⟨hc, hds⟩

/-- A whole number that a text spells has at most as many digits as a reader takes. -/
theorem natAbs_lt_of_valueText {depth : Option Nat} {t : List Char}
    (h : Json.ValueText .strict depth t (.integer n)) : n.natAbs < 10 ^ digitLimit := by
  cases h with
  | literal h =>
    rw [Json.literals_eq] at h
    simp at h
  | number h =>
    cases h with
    | integer hwhole hlimit =>
      rw [natAbs_signed]
      exact Nat.lt_of_lt_of_le (decimalValue_lt (isDigit_wholePart hwhole))
        (Nat.pow_le_pow_right (by decide) hlimit)

/-- **A count has at most as many digits as a reader takes**, however it is given. -/
theorem Counts.natAbs_lt (h : Counts v n) {depth : Option Nat} {t : List Char}
    (ht : Json.ValueText .strict depth t v) : n.natAbs < 10 ^ digitLimit := by
  have hpow {k : Nat} (hk : k ≤ digitLimit) : 10 ^ k ≤ 10 ^ digitLimit :=
    Nat.pow_le_pow_right (by decide) hk
  cases h with
  | integer => exact natAbs_lt_of_valueText ht
  | bool b =>
    have hone : (if b then 1 else 0 : Int).natAbs < 10 ^ 1 := by cases b <;> decide
    exact Nat.lt_of_lt_of_le hone (hpow (by decide))
  | float hwhole hsize =>
    have hsmall : 2 ^ 63 ≤ 10 ^ 63 := Nat.pow_le_pow_left (by decide) 63
    exact Nat.lt_of_lt_of_le hsize (Nat.le_trans hsmall (hpow (by decide)))
  | text hb hb' hnumeral hsize =>
    have hlength := Nat.le_trans (Utf8.length_le_utf8ByteSize _) hsize
    exact Nat.lt_of_lt_of_le hnumeral.natAbs_lt (hpow hlength)

/-- **What was read from a text is sound.** -/
theorem sound_of_ofText {raw : String} (h : ofText raw = .ok i) : i.Sound := by
  obtain ⟨members, ⟨b, t, b', -, -, -, ht⟩, haccepts⟩ := ofText_eq_ok.1 h
  obtain ⟨v, hv, hcounts, hpos⟩ := haccepts.limit
  -- the page size is the value of a member, so a text spells it
  obtain ⟨before, after, hmembers, -⟩ := lookup_eq_some.1 hv
  have hmember : ("limit", v) ∈ members := by rw [hmembers]; simp
  have hspelled : ∃ depth u, Json.ValueText .strict depth u v := by
    cases ht with
    | literal h =>
      rw [Json.literals_eq] at h
      simp at h
    | number h => cases h
    | emptyObject => cases hmember
    | object _ h => exact ⟨_, h.value hmember⟩
  obtain ⟨depth, u, hu⟩ := hspelled
  have hlt := (lt_pow_iff_natAbs_lt (Int.le_of_lt hpos)).2 (hcounts.natAbs_lt hu)
  exact ⟨haccepts.target.2, haccepts.subEntity.2, haccepts.api.2, ⟨hpos, hlt⟩, haccepts.fields.2⟩

/-! ### The wire form -/

theorem writable_strings (texts : List String) : (Json.array (texts.map .string)).Writable := by
  refine .array fun v hv => ?_
  obtain ⟨t, -, rfl⟩ := List.mem_map.1 hv
  exact .string t

theorem Sound.length_limit (h : i.Sound) :
    (Nat.toDigits 10 i.limit.natAbs).length ≤ digitLimit := by
  rw [Nat.length_toDigits_le_iff (by decide) (by decide),
    ← lt_pow_iff_natAbs_lt (Int.le_trans (by decide) h.limit.1)]
  exact h.limit.2

theorem Sound.writable (h : i.Sound) : i.toJson.Writable := by
  refine .object ?_
  simp only [List.forall_mem_cons, List.not_mem_nil, false_implies, implies_true, and_true]
  exact ⟨.string _, .string _, .string _, .string _, .integer h.length_limit,
    writable_strings _, writable_strings _, .string _⟩

/-- The wire form nests a list in an object, and nothing deeper. -/
theorem nesting_toJson (i : Intent) : i.toJson.nesting = 2 := by
  simp [toJson, Json.nesting, Json.nestingMembers, Json.nestingAll_strings]

theorem Sound.textOf_toText (h : i.Sound) : Json.TextOf .strict i.toText.toList i.toJson := by
  have henough : i.toJson.nesting ≤ 200 := by
    rw [nesting_toJson]
    decide
  exact Json.textOf_print_within Json.lawful_ascii h.writable (Json.enough_some henough)

/-- The members of the wire form give the intent that it is of. -/
theorem Sound.accepts_toJson (h : i.Sound) : Accepts i.toJson.member? i where
  action := .inr rfl
  target := ⟨rfl, h.target⟩
  identifier := rfl
  subEntity := ⟨rfl, h.subEntity⟩
  limit := ⟨_, rfl, .integer _, h.limit.1⟩
  constraints := .inr rfl
  fields := ⟨rfl, h.fields⟩
  api := ⟨rfl, h.api⟩

/-- **An intent is read back from its wire form** exactly if it is sound. -/
theorem ofText_toText : ofText i.toText = .ok i ↔ i.Sound := by
  constructor
  · exact sound_of_ofText
  · intro h
    exact ofText_eq_ok.2 ⟨_, h.textOf_toText, h.accepts_toJson⟩

/-- **The wire form is a normal form.** Whatever intent was read from a text is read back from its
wire form, which is then also the wire form of what was read back. And every intent with labels that
are not empty, a positive page size of at most 4300 digits, and names of fields, is read back from
its wire form, which consists of printable characters of ASCII. -/
theorem wire_round_trip :
    (∀ raw i, ofText raw = .ok i →
      ofText i.toText = .ok i ∧ ∀ j, ofText i.toText = .ok j → j.toText = i.toText)
    ∧ ∀ i : Intent, i.target ≠ "" → i.subEntity ≠ "" → i.api ≠ "" →
      1 ≤ i.limit → i.limit < 10 ^ 4300 → i.fields ≠ [] → (∀ name ∈ i.fields, IsName name) →
        ofText i.toText = .ok i ∧ ∀ c ∈ i.toText.toList, ' ' ≤ c ∧ c ≤ '~' := by
  constructor
  · intro raw i hi
    have hback := ofText_toText.2 (sound_of_ofText hi)
    refine ⟨hback, fun j hj => ?_⟩
    rw [hback] at hj
    rw [Except.ok.inj hj]
  · intro i htarget hsub hapi hpos hlimit hne hnames
    have hdigits : digitLimit = 4300 := rfl
    have hsound : i.Sound := ⟨htarget, hsub, hapi, ⟨hpos, by rwa [hdigits]⟩, hne, hnames⟩
    exact ⟨ofText_toText.2 hsound, Json.printable_print hsound.writable⟩

/-- A text with a page size in grouped digits and a constraint of null, and an intent with quotes,
a line end, delete and a character beyond U+FFFF. -/
theorem wire_round_trip_awkward :
    (let raw := "\x7b\"target\": \"T\", \"identifier\": \"\\u00e9\", \"sub_entity\": \"S\", "
        ++ "\"limit\": \" 1_0.0 \", \"constraints\": null, \"fields\": [\"f\"], \"api\": \"a\"\x7d"
      let i : Intent := ⟨"QUERY", "T", "é", "S", 10, [], ["f"], "a"⟩
      ofText raw = .ok i ∧ ofText i.toText = .ok i
        ∧ ∀ j, ofText i.toText = .ok j → j.toText = i.toText)
    ∧ let i : Intent := ⟨"", "\"\\", "\n\x7f", "😀", 1, ["", "é"], ["_1"], "a"⟩
      ofText i.toText = .ok i ∧ ∀ c ∈ i.toText.toList, ' ' ≤ c ∧ c ≤ '~' := by
  constructor
  · intro raw i
    have hi : ofText raw = .ok i := Except.eq_ok_of_toOption (by decide +kernel)
    exact ⟨hi, wire_round_trip.1 raw i hi⟩
  · intro i
    have hlimit {k : Nat} (hk : k ≠ 0) : (1 : Int) < 10 ^ k :=
      (lt_pow_iff_natAbs_lt (by decide)).2 (Nat.one_lt_pow hk (by decide))
    have hname : IsName "_1" := isFieldName_iff_isName.1 (by decide)
    exact wire_round_trip.2 i (by decide) (by decide) (by decide) (by decide)
      (hlimit (by decide)) (by decide) (by simpa [i] using hname)

end ConceptQuery.Intent
