import ConceptQuery.Json.Printer
import ConceptQuery.Proofs.Json.Nesting
import ConceptQuery.Proofs.Json.Reading

/-!
# What is written is in the grammar

The text of a value spells this value, in any style and whatever its strings are. Floating numbers
are left out, and whole numbers that have more digits than a reader takes.

* `stringChar_escapeChar`, `stringText_escaped` — strings;
* `wholePart_toDigits`, `numberText_print` — whole numbers;
* `Json.Writable` — the values that are written to be read;
* `Json.Style.Lawful` — separators that are a comma and a colon with blanks behind them;
* `textOf_print_within`, `textOf_print` — whole texts, with and without a bound on the nesting.
-/

namespace ConceptQuery.Json

open Text

variable {limits : Limits} {style : Style}

/-! ### Strings -/

theorem hexValue?_digitChar : ∀ n < 16, hexValue? n.digitChar = some n := by
  decide

/-- Four digits are read back. -/
theorem hexNumber?_hex4 {n : Nat} (h : n < 0x10000) : hexNumber? (hex4 n) = some n := by
  have hdigit (k : Nat) : hexValue? (k % 16).digitChar = some (k % 16) :=
    hexValue?_digitChar _ (Nat.mod_lt _ (by decide))
  have hsum : (((0 * 16 + n / 4096 % 16) * 16 + n / 256 % 16) * 16 + n / 16 % 16) * 16 + n % 16
      = n := by
    omega
  simp only [hexNumber?, hex4, List.foldl_cons, List.foldl_nil, hdigit, Option.bind_eq_bind,
    Option.bind_some]
  exact congrArg some hsum

theorem stringChar_unitEscape {c : Char} (h : c.toNat < 0x10000) :
    StringChar (unitEscape c.toNat) c := by
  have hchar : c.toNat < 0xD800 ∨ 0xE000 ≤ c.toNat := by
    rcases c.valid with hvalid | hvalid
    · exact .inl hvalid
    · exact .inr hvalid.1
  have hread := StringChar.unicode (hexNumber?_hex4 h) hchar
  rw [Char.ofNat_toNat] at hread
  exact hread

theorem stringChar_unicodeEscape (c : Char) : StringChar (unicodeEscape c) c := by
  unfold unicodeEscape
  dsimp only
  split
  · next h => exact stringChar_unitEscape h
  · next h =>
    have hlast : c.toNat < 0x110000 := by
      rcases c.valid with hvalid | hvalid
      · exact Nat.lt_trans hvalid (by decide)
      · exact hvalid.2
    have hhigh : 0xD800 + (c.toNat - 0x10000) / 0x400 < 0xDC00 := by omega
    have hlow : 0xDC00 + (c.toNat - 0x10000) % 0x400 < 0xE000 := by omega
    have hread := StringChar.pair (hexNumber?_hex4 (Nat.lt_trans hhigh (by decide)))
      (hexNumber?_hex4 (Nat.lt_trans hlow (by decide))) ⟨Nat.le_add_right _ _, hhigh⟩
      ⟨Nat.le_add_right _ _, hlow⟩
    have hjoin : joinSurrogates (0xD800 + (c.toNat - 0x10000) / 0x400)
        (0xDC00 + (c.toNat - 0x10000) % 0x400) = c := by
      have hsum : 0x10000 + (0xD800 + (c.toNat - 0x10000) / 0x400 - 0xD800) * 0x400
          + (0xDC00 + (c.toNat - 0x10000) % 0x400 - 0xDC00) = c.toNat := by
        omega
      rw [joinSurrogates, hsum, Char.ofNat_toNat]
    rw [hjoin] at hread
    exact hread

/-- A character is written so that it is read as itself. -/
theorem stringChar_escapeChar (asciiOnly : Bool) (c : Char) :
    StringChar (escapeChar asciiOnly c) c := by
  unfold escapeChar
  split
  · next h =>
    subst h
    exact .short (by decide)
  split
  · next h =>
    subst h
    exact .short (by decide)
  split
  · next h =>
    subst h
    exact .short (by decide)
  split
  · next h =>
    subst h
    exact .short (by decide)
  split
  · next h =>
    subst h
    exact .short (by decide)
  split
  · next h =>
    subst h
    exact .short (by decide)
  split
  · next h =>
    subst h
    exact .short (by decide)
  split
  · next h => exact stringChar_unitEscape (by omega)
  · next hquote hbackslash _ _ _ _ _ hcontrol =>
    split
    · exact stringChar_unicodeEscape c
    · exact .plain hquote hbackslash (Nat.le_of_not_lt hcontrol)

theorem stringText_escaped (asciiOnly : Bool) (s : List Char) :
    StringText (s.flatMap (escapeChar asciiOnly)) s := by
  induction s with
  | nil => exact .nil
  | cons c s ih => exact .cons (stringChar_escapeChar asciiOnly c) ih

theorem toList_printString (style : Style) (s : String) : (printString style s).toList
    = '"' :: (s.toList.flatMap (escapeChar style.asciiOnly) ++ ['"']) :=
  String.toList_ofList

theorem valueText_printString (s : String) :
    ValueText limits none (printString style s).toList (.string s) := by
  have h : ValueText limits none _ _ :=
    .string (stringText_escaped style.asciiOnly s.toList)
  rw [String.ofList_toList] at h
  rw [toList_printString]
  exact h

/-! ### Whole numbers -/

/-- The digits of a number that is not zero do not begin with a zero. -/
theorem toDigits_eq_cons {n : Nat} (h : n ≠ 0) :
    ∃ c ds, Nat.toDigits 10 n = c :: ds ∧ c ≠ '0' := by
  induction n using Nat.strongRecOn with
  | ind n ih =>
    rcases Nat.lt_or_ge n 10 with hsmall | hlarge
    · have hdigit : ∀ n < 10, n ≠ 0 → n.digitChar ≠ '0' := by decide
      exact ⟨n.digitChar, [], Nat.toDigits_of_lt_base hsmall, hdigit n hsmall h⟩
    · obtain ⟨c, ds, hds, hc⟩ := ih (n / 10) (by omega) (by omega)
      refine ⟨c, ds ++ [(n % 10).digitChar], ?_, hc⟩
      rw [Nat.toDigits_of_base_le (by decide) hlarge, hds, List.cons_append]

theorem wholePart_toDigits (n : Nat) : WholePart (Nat.toDigits 10 n) := by
  by_cases h : n = 0
  · subst h
    exact .zero
  · obtain ⟨c, ds, hds, hc⟩ := toDigits_eq_cons h
    have hall : ∀ d ∈ c :: ds, d.isDigit = true := by
      rw [← hds]
      exact fun d hd => Nat.isDigit_of_mem_toDigits (by decide) (by decide) hd
    rw [hds]
    exact .digits (hall c List.mem_cons_self) hc fun d hd => hall d (List.mem_cons_of_mem c hd)

/-- The text of a whole number spells it, up to the limit on digits. -/
theorem numberText_print {n : Int} (h : (Nat.toDigits 10 n.natAbs).length ≤ digitLimit) :
    NumberText limits (toString n).toList (.integer n) := by
  have hvalue (k : Nat) : decimalValue (Nat.toDigits 10 k) = k := Nat.ofDigitChars_ten_toDigits
  cases n with
  | ofNat k =>
    have hread : NumberText limits (minusText false ++ _) (.integer (Binary64.signed false _)) :=
      .integer (wholePart_toDigits k) h
    rw [hvalue] at hread
    show NumberText limits k.repr.toList _
    rw [Nat.toList_repr]
    exact hread
  | negSucc k =>
    have hread : NumberText limits (minusText true ++ _) (.integer (Binary64.signed true _)) :=
      .integer (wholePart_toDigits (k + 1)) h
    rw [hvalue] at hread
    show NumberText limits ("-" ++ (k + 1).repr).toList _
    rw [String.toList_append, Nat.toList_repr]
    exact hread

/-! ### Values -/

/-- The values that are written to be read: no floating number, and no whole number with too many
digits. -/
inductive Writable : Json → Prop where
  | null : Writable .null
  | bool (b : Bool) : Writable (.bool b)
  | integer {n : Int} (h : (Nat.toDigits 10 n.natAbs).length ≤ digitLimit) : Writable (.integer n)
  | string (s : String) : Writable (.string s)
  | array {items : List Json} (h : ∀ v ∈ items, Writable v) : Writable (.array items)
  | object {members : List (String × Json)} (h : ∀ m ∈ members, Writable m.2) :
    Writable (.object members)

/-- The separators of a style are a comma and a colon with blanks behind them. -/
structure Style.Lawful (style : Style) : Prop where
  item : ∃ b, Blank b ∧ style.itemSeparator.toList = ',' :: b
  name : ∃ b, Blank b ∧ style.nameSeparator.toList = ':' :: b

theorem lawful_compact : Style.compact.Lawful :=
  ⟨⟨[], blank_nil, rfl⟩, ⟨[], blank_nil, rfl⟩⟩

theorem lawful_ascii : Style.ascii.Lawful := by
  have hblank : Blank [' '] := by
    intro c hc
    exact .inl (List.mem_singleton.1 hc)
  exact ⟨⟨[' '], hblank, rfl⟩, ⟨[' '], hblank, rfl⟩⟩

theorem elementsText_print (hstyle : style.Lawful) {items : List Json} (hne : items ≠ [])
    (h : ∀ v ∈ items, ValueText limits none (print style v).toList v) :
    ElementsText limits none (style.itemSeparator.intercalate (printItems style items)).toList
      items := by
  obtain ⟨b, hb, hcomma⟩ := hstyle.item
  induction items with
  | nil => exact absurd rfl hne
  | cons v rest ih =>
    obtain ⟨hv, hrest⟩ := List.forall_mem_cons.1 h
    cases rest with
    | nil =>
      have hlast := ElementsText.last blank_nil hv blank_nil
      rw [List.append_nil] at hlast
      simpa [printItems] using hlast
    | cons w more =>
      have hmore := ElementsText.more blank_nil hv blank_nil ((ih (by simp) hrest).blank hb)
      rw [printItems, printItems, String.intercalate_cons_cons, ← printItems]
      simpa [hcomma] using hmore

theorem membersText_print (hstyle : style.Lawful) {members : List (String × Json)}
    (hne : members ≠ []) (h : ∀ m ∈ members, ValueText limits none (print style m.2).toList m.2) :
    MembersText limits none (style.itemSeparator.intercalate (printMembers style members)).toList
      members := by
  obtain ⟨b, hb, hcomma⟩ := hstyle.item
  obtain ⟨b', hb', hcolon⟩ := hstyle.name
  induction members with
  | nil => exact absurd rfl hne
  | cons m rest ih =>
    obtain ⟨hv, hrest⟩ := List.forall_mem_cons.1 h
    have hname := stringText_escaped style.asciiOnly m.1.toList
    cases rest with
    | nil =>
      have hlast := MembersText.last blank_nil hname blank_nil hb' hv blank_nil
      rw [String.ofList_toList] at hlast
      simpa [printMembers, toList_printString, hcolon] using hlast
    | cons m' more =>
      have hmore := MembersText.more blank_nil hname blank_nil hb' hv blank_nil
        ((ih (by simp) hrest).blank hb)
      rw [String.ofList_toList] at hmore
      rw [printMembers, printMembers, String.intercalate_cons_cons, ← printMembers]
      simpa [toList_printString, hcomma, hcolon] using hmore

theorem valueText_print (hstyle : style.Lawful) {v : Json} (h : Writable v) :
    ValueText limits none (print style v).toList v := by
  have hdepth : (none : Option Nat) ≠ some 0 := nofun
  induction h with
  | null =>
    rw [print]
    exact .literal (literals_eq ▸ .head _)
  | bool b =>
    rw [print]
    cases b with
    | false => exact .literal (literals_eq ▸ .tail _ (.tail _ (.head _)))
    | true => exact .literal (literals_eq ▸ .tail _ (.head _))
  | integer h => exact .number (numberText_print h)
  | string s => exact valueText_printString s
  | array h ih =>
    rename_i items
    cases items with
    | nil =>
      have hempty : ValueText limits none "[]".toList (.array []) := .emptyArray hdepth blank_nil
      simpa [print, printItems] using hempty
    | cons v rest =>
      have harray := ValueText.array hdepth (elementsText_print hstyle (by simp) ih)
      simpa [print] using harray
  | object h ih =>
    rename_i members
    cases members with
    | nil =>
      have hempty : ValueText limits none "\x7b\x7d".toList (.object []) :=
        .emptyObject hdepth blank_nil
      simpa [print, printMembers] using hempty
    | cons m rest =>
      have hobject := ValueText.object hdepth (membersText_print hstyle (by simp) ih)
      simpa [print] using hobject

/-- **What is written spells what it was written for**, in any style, wherever the nesting is not
too deep. -/
theorem textOf_print_within (hstyle : style.Lawful) {v : Json} (h : Writable v)
    (hdepth : Enough limits.depth v.nesting) : TextOf limits (print style v).toList v :=
  ⟨[], _, [], blank_nil, blank_nil, by simp, (valueText_print hstyle h).within hdepth⟩

/-- Without a bound on the nesting nothing is too deep. -/
theorem textOf_print (hstyle : style.Lawful) {v : Json} (h : Writable v) :
    TextOf .lenient (print style v).toList v :=
  textOf_print_within hstyle h fun _ hnone => nomatch hnone

end ConceptQuery.Json
