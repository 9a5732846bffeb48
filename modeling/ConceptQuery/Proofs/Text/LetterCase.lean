import ConceptQuery.Text.LetterCase

/-!
# Lower case is settled

The images of lower case have no other lower case: no run of the table meets the images of a run.

* `Run.low`, `Run.high`, `Run.misses` — where the images of a run lie, and runs that do not meet
  them;
* `Run.settles`, `Run.settled_shift` — no run meets the images of another;
* `Settled`, `settled_lowerAfter` — characters that stay as they are, those of a lower case;
* `toLower_toLower` — the lower case of a text in lower case.
-/

namespace ConceptQuery.Text

/-! ### The table -/

/-- The image of the first code point of a run. -/
def Run.low (r : Run) : Nat :=
  (r.first + r.shift).toNat

/-- The image of the last code point of a run. -/
def Run.high (r : Run) : Nat :=
  (r.last + r.shift).toNat

/-- A run does not meet the images of another: it lies below or above them, or both go in steps of
two from code points of different parity. -/
def Run.misses (low high : Nat) (even : Bool) (q : Run) : Bool :=
  high.blt q.first || q.last.blt low || even && q.step == 2 && (low + q.first) % 2 == 1

/-- The images of a run are code points that no run maps, nor are they the capital dotted I, which
has a rule of its own. -/
def Run.settles (r : Run) : Bool :=
  0 ≤ r.first + r.shift && (r.high < 0xD800 || 0xDFFF < r.low && r.high < 0x110000)
    && (⟨0x130, 0x130, 1, 0⟩ :: lowerRuns).all
      (misses r.low r.high (r.step == 2 || r.first == r.last))

theorem settles_lowerRuns : lowerRuns.all Run.settles = true := by
  decide +kernel

variable {r q : Run} {n : Nat}

theorem not_maps_of_misses (hn : r.maps n = true) (hshift : 0 ≤ r.first + r.shift)
    (h : Run.misses r.low r.high (r.step == 2 || r.first == r.last) q = true) :
    q.maps (n + r.shift).toNat = false := by
  rw [Bool.eq_false_iff]
  intro hm
  simp only [Run.maps, Bool.and_eq_true, decide_eq_true_eq, beq_iff_eq] at hn hm
  simp only [Run.misses, Run.low, Run.high, Bool.or_eq_true, Bool.and_eq_true, Nat.blt_eq,
    beq_iff_eq] at h
  obtain ⟨⟨hfirst, hlast⟩, hstep⟩ := hn
  obtain ⟨⟨hfirst', hlast'⟩, hstep'⟩ := hm
  obtain (hbelow | habove) | ⟨⟨heven, htwo⟩, hparity⟩ := h
  · omega
  · omega
  · rw [htwo] at hstep'
    obtain heven | hone := heven
    · rw [heven] at hstep
      omega
    · omega

/-- A code point about which there is no rule. -/
structure IsSettled (n : Nat) : Prop where
  ne_dotted : n ≠ 0x130
  ne_sigma : n ≠ 0x3A3
  unmapped : lowerRuns.find? (·.maps n) = none

theorem isSettled_of_unmapped (hdotted : n ≠ 0x130) (h : lowerRuns.find? (·.maps n) = none) :
    IsSettled n where
  ne_dotted := hdotted
  ne_sigma := by
    rintro rfl
    exact absurd h (by decide)
  unmapped := h

/-- The image of a code point of a run is settled. -/
theorem Run.settled_shift (hr : r ∈ lowerRuns) (hn : r.maps n = true) :
    (n + r.shift).toNat.isValidChar ∧ IsSettled (n + r.shift).toNat := by
  have hsettles := List.all_eq_true.1 settles_lowerRuns r hr
  simp only [settles, Bool.and_eq_true, Bool.or_eq_true, decide_eq_true_eq] at hsettles
  obtain ⟨⟨hshift, hvalid⟩, hall⟩ := hsettles
  have hmisses (q : Run) (hq : q ∈ (⟨0x130, 0x130, 1, 0⟩ :: lowerRuns : List Run)) :
      q.maps (n + r.shift).toNat = false :=
    not_maps_of_misses hn hshift (List.all_eq_true.1 hall q hq)
  refine ⟨?_, isSettled_of_unmapped ?_ ?_⟩
  · simp only [maps, Bool.and_eq_true, decide_eq_true_eq] at hn
    simp only [low, high] at hvalid
    unfold Nat.isValidChar
    omega
  · intro hdotted
    have hno := hmisses ⟨0x130, 0x130, 1, 0⟩ List.mem_cons_self
    rw [hdotted] at hno
    exact absurd hno (by decide)
  · rw [List.find?_eq_none]
    intro q hq
    rw [hmisses q (List.mem_cons_of_mem _ hq)]
    exact Bool.false_ne_true

/-! ### Texts -/

/-- A character that is its own lower case wherever it stands. -/
def Settled (c : Char) : Prop :=
  IsSettled c.toNat

theorem toNat_ofNat {n : Nat} (h : n.isValidChar) : (Char.ofNat n).toNat = n := by
  rw [Char.ofNat, dif_pos h]
  rfl

theorem Settled.lowerChar_eq {c : Char} (h : Settled c) : lowerChar c = [c] := by
  rw [lowerChar, if_neg h.ne_dotted, Run.image, h.unmapped]
  exact congrArg (fun c => [c]) (Char.ofNat_toNat c)

theorem settled_lowerChar (c : Char) : ∀ d ∈ lowerChar c, Settled d := by
  rw [lowerChar]
  split
  · refine List.forall_mem_cons.2 ⟨?_, List.forall_mem_singleton.2 ?_⟩
    · exact isSettled_of_unmapped (by decide) (by decide)
    · exact isSettled_of_unmapped (by decide) (by decide)
  · next hdotted =>
    refine List.forall_mem_singleton.2 ?_
    unfold Run.image
    cases hfind : lowerRuns.find? (·.maps c.toNat) with
    | none =>
      show IsSettled (Char.ofNat c.toNat).toNat
      rw [Char.ofNat_toNat]
      exact isSettled_of_unmapped hdotted hfind
    | some r =>
      have hmaps : r.maps c.toNat = true := by
        have h := List.find?_some hfind
        exact h
      obtain ⟨hvalid, hsettled⟩ := Run.settled_shift (List.mem_of_find?_eq_some hfind) hmaps
      show IsSettled (Char.ofNat (c.toNat + r.shift).toNat).toNat
      rw [toNat_ofNat hvalid]
      exact hsettled

theorem settled_lowerAfter (before cs : List Char) : ∀ d ∈ lowerAfter before cs, Settled d := by
  induction cs generalizing before with
  | nil => exact nofun
  | cons c rest ih =>
    rw [lowerAfter]
    intro d hd
    rcases List.mem_append.1 hd with hd | hd
    · split at hd
      · have hsigma : Settled (Char.ofNat 0x3C2) ∧ Settled (Char.ofNat 0x3C3) :=
          ⟨isSettled_of_unmapped (by decide) (by decide),
            isSettled_of_unmapped (by decide) (by decide)⟩
        rw [List.mem_singleton.1 hd]
        split
        · exact hsigma.1
        · exact hsigma.2
      · exact settled_lowerChar c d hd
    · exact ih _ d hd

theorem lowerAfter_eq_self {cs : List Char} (h : ∀ c ∈ cs, Settled c) (before : List Char) :
    lowerAfter before cs = cs := by
  induction cs generalizing before with
  | nil => rfl
  | cons c rest ih =>
    obtain ⟨hc, hrest⟩ := List.forall_mem_cons.1 h
    rw [lowerAfter, if_neg hc.ne_sigma, hc.lowerChar_eq, ih hrest]
    rfl

/-- **The lower case of a text in lower case** is this text. -/
theorem toLower_toLower (s : String) : toLower (toLower s) = toLower s := by
  unfold toLower
  rw [String.toList_ofList, lowerAfter_eq_self (settled_lowerAfter [] s.toList)]

end ConceptQuery.Text
