import ConceptQuery.Proofs.Json.Printing

/-!
# What is written in ASCII

The style that escapes delete and everything beyond ASCII writes printable characters of ASCII and
nothing else, whatever characters the strings hold. Floating numbers are left out.

* `Printable` — a text of printable characters of ASCII;
* `printable_escapeChar` — a character inside a string;
* `printable_print` — a value.
-/

namespace ConceptQuery.Json

open Text

variable {s t : List Char}

/-- A text of printable characters of ASCII: those from the blank to the tilde. -/
def Printable (s : List Char) : Prop :=
  ∀ c ∈ s, ' ' ≤ c ∧ c ≤ '~'

instance (s : List Char) : Decidable (Printable s) :=
  List.decidableBAll (fun c => ' ' ≤ c ∧ c ≤ '~') s

theorem Printable.append (hs : Printable s) (ht : Printable t) : Printable (s ++ t) := by
  intro c hc
  exact (List.mem_append.1 hc).elim (hs c) (ht c)

theorem Printable.cons {c : Char} (hc : ' ' ≤ c ∧ c ≤ '~') (hs : Printable s) :
    Printable (c :: s) := by
  intro d hd
  rcases List.mem_cons.1 hd with rfl | hd
  · exact hc
  · exact hs d hd

theorem printable_digits (hs : ∀ c ∈ s, c.isDigit = true) : Printable s := by
  intro c hc
  have hdigit := Char.isDigit_iff_toNat.1 (hs c hc)
  rw [Char.le_def, Char.le_def, UInt32.le_iff_toNat_le, UInt32.le_iff_toNat_le]
  exact ⟨Nat.le_trans (by decide) hdigit.1, Nat.le_trans hdigit.2 (by decide)⟩

/-! ### Strings -/

theorem printable_hex4 (n : Nat) : Printable (hex4 n) := by
  have hdigit : ∀ k < 16, ' ' ≤ k.digitChar ∧ k.digitChar ≤ '~' := by decide
  have hmod (k : Nat) := hdigit (k % 16) (Nat.mod_lt k (by decide))
  intro c hc
  simp only [hex4, List.mem_cons, List.not_mem_nil, or_false] at hc
  rcases hc with rfl | rfl | rfl | rfl <;> exact hmod _

theorem printable_unitEscape (n : Nat) : Printable (unitEscape n) :=
  .cons (by decide) (.cons (by decide) (printable_hex4 n))

theorem printable_unicodeEscape (c : Char) : Printable (unicodeEscape c) := by
  unfold unicodeEscape
  dsimp only
  split
  · exact printable_unitEscape _
  · exact (printable_unitEscape _).append (printable_unitEscape _)

/-- A character inside a string is written as printable characters of ASCII. -/
theorem printable_escapeChar (c : Char) : Printable (escapeChar true c) := by
  unfold escapeChar
  repeat
    split
    · decide
  split
  · exact printable_unitEscape _
  · next hcontrol =>
    split
    · exact printable_unicodeEscape c
    · next hbeyond =>
      have hlow : 0x20 ≤ c.toNat := Nat.le_of_not_lt hcontrol
      have hhigh : c.toNat < 0x7F := by simpa using hbeyond
      intro d hd
      obtain rfl := List.mem_singleton.1 hd
      rw [Char.le_def, Char.le_def, UInt32.le_iff_toNat_le, UInt32.le_iff_toNat_le]
      exact ⟨hlow, Nat.le_of_lt_succ hhigh⟩

theorem printable_printString (s : String) : Printable (printString .ascii s).toList := by
  rw [toList_printString]
  refine .cons (by decide) (Printable.append ?_ (by decide))
  intro c hc
  obtain ⟨d, -, hd⟩ := List.mem_flatMap.1 hc
  exact printable_escapeChar d c hd

/-! ### Values -/

theorem printable_integer (n : Int) : Printable (toString n).toList := by
  have hdigits (k : Nat) : Printable k.repr.toList := by
    rw [Nat.toList_repr]
    exact printable_digits fun c hc => Nat.isDigit_of_mem_toDigits (by decide) (by decide) hc
  cases n with
  | ofNat k => exact hdigits k
  | negSucc k =>
    show Printable ("-" ++ (k + 1).repr).toList
    rw [String.toList_append]
    exact Printable.append (by decide) (hdigits (k + 1))

/-- What all characters of the pieces and of the separator are, all characters of the pieces with
separators between them are. -/
theorem forall_mem_intercalate {P : Char → Prop} {separator : String}
    (hseparator : ∀ c ∈ separator.toList, P c) {pieces : List String}
    (h : ∀ p ∈ pieces, ∀ c ∈ p.toList, P c) :
    ∀ c ∈ (separator.intercalate pieces).toList, P c := by
  induction pieces with
  | nil => simp
  | cons p rest ih =>
    obtain ⟨hp, hrest⟩ := List.forall_mem_cons.1 h
    cases rest with
    | nil => simpa using hp
    | cons q more =>
      rw [String.intercalate_cons_cons, String.toList_append, String.toList_append]
      simp only [List.forall_mem_append]
      exact ⟨⟨hp, hseparator⟩, ih hrest⟩

theorem printable_intercalate {separator : String} (hseparator : Printable separator.toList)
    {pieces : List String} (h : ∀ p ∈ pieces, Printable p.toList) :
    Printable (separator.intercalate pieces).toList :=
  forall_mem_intercalate hseparator h

theorem printItems_eq_map (style : Style) (items : List Json) :
    printItems style items = items.map (print style) := by
  induction items with
  | nil => rfl
  | cons item rest ih => rw [printItems, ih, List.map_cons]

theorem printMembers_eq_map (style : Style) (members : List (String × Json)) :
    printMembers style members
      = members.map fun m => printString style m.1 ++ style.nameSeparator ++ print style m.2 := by
  induction members with
  | nil => rfl
  | cons m rest ih => rw [printMembers, ih, List.map_cons]

/-- **What is written in ASCII is printable**, whatever its strings are. -/
theorem printable_print {v : Json} (h : Writable v) : Printable (print .ascii v).toList := by
  induction h with
  | null => decide
  | bool b => cases b <;> decide
  | integer h => exact printable_integer _
  | string s => exact printable_printString s
  | array h ih =>
    rw [print, printItems_eq_map, String.toList_append, String.toList_append]
    refine Printable.append (.append (by decide) (printable_intercalate (by decide) ?_)) (by decide)
    intro p hp
    obtain ⟨v, hv, rfl⟩ := List.mem_map.1 hp
    exact ih v hv
  | object h ih =>
    rw [print, printMembers_eq_map, String.toList_append, String.toList_append]
    refine Printable.append (.append (by decide) (printable_intercalate (by decide) ?_)) (by decide)
    intro p hp
    obtain ⟨m, hm, rfl⟩ := List.mem_map.1 hp
    rw [String.toList_append, String.toList_append]
    exact ((printable_printString m.1).append (by decide)).append (ih m hm)

end ConceptQuery.Json
