import ConceptQuery.Proofs.Time.Range

/-!
# Moments that are read back

The text of a timestamp spells its moment, whatever the offset, unless the offset is shorter than a
second; the text in universal time always does.

* `Kept` — the offsets that are left as they are;
* `read_toText` — what the text of any timestamp spells;
* `Kept.readUtc_toText`, `readUtc_toUtc_toText`, `readUtc_readUtc_toText` — the moment is read back
  from the text, from the text in universal time, and from the text of what was read.
-/

namespace ConceptQuery.Timestamp

open Time

variable {t : Timestamp}

/-- An offset that is read as it is: none, or one of a second or more. -/
def Kept (offset : Int) : Prop :=
  offset = 0 ∨ 1000000 ≤ offset.natAbs

instance (offset : Int) : Decidable (Kept offset) :=
  inferInstanceAs (Decidable (offset = 0 ∨ 1000000 ≤ offset.natAbs))

theorem Kept.eq {offset : Int} (h : Kept offset) : keptOffset offset = offset := by
  unfold keptOffset
  split
  · next hshort =>
    rcases h with rfl | hlong
    · rfl
    · omega
  · rfl

/-- **The text of a timestamp spells its clock**, and its offset unless that is too short. -/
theorem read_toText (t : Timestamp) :
    ∃ t', read (spellZone t.toText) = .ok t' ∧ t'.clock = t.clock
      ∧ t'.offset = keptOffset t.offset := by
  have hoffset := keptOffset_bounds ⟨t.offset_gt, t.offset_lt⟩
  obtain ⟨t', ht', hclock, hoffset'⟩ := ofClock_eq_ok ⟨t.clock_nonneg, t.clock_lt⟩ hoffset
  refine ⟨t', ?_, hclock, hoffset'⟩
  rw [spellZone_toText, read, readParts?_toText]
  have hin : ¬ ((decide (dayMicros ≤ keptOffset t.offset)
      || decide (keptOffset t.offset ≤ -dayMicros)) = true) := by
    simpa using And.intro hoffset.2 hoffset.1
  have hfault : ({ t.parts with offset := some (keptOffset t.offset) } : Parts).fault? = none :=
    t.fault?_parts
  have hshown : ({ t.parts with offset := some (keptOffset t.offset) } : Parts).clock = t.clock :=
    t.clock_parts
  show ofParts _ = _
  unfold ofParts
  dsimp only [Option.getD_some]
  rw [if_neg hin, hfault, hshown]
  exact ht'

/-! ### Moments -/

/-- A text that spells a moment of the calendar is read as this moment. -/
theorem readUtc_of_read {s : String} (h : read (spellZone s) = .ok t) (hin : t.InCalendar) :
    ∃ u, readUtc s = .ok u ∧ u.instant = t.instant ∧ u.offset = 0 := by
  obtain ⟨u, hu, hinstant, hoffset⟩ := toUtc_of_inCalendar hin
  refine ⟨u, ?_, hinstant, hoffset⟩
  delta readUtc
  rw [h]
  exact hu

/-- **The moment of a timestamp is read back from its text**, if the offset is kept. -/
theorem Kept.readUtc_toText (h : Kept t.offset) (hin : t.InCalendar) :
    ∃ u, readUtc t.toText = .ok u ∧ u.instant = t.instant ∧ u.offset = 0 := by
  obtain ⟨t', hread, hclock, hoffset⟩ := t.read_toText
  have hinstant : t'.instant = t.instant := by
    unfold instant
    rw [hclock, hoffset, h.eq]
  have hin' : t'.InCalendar := by
    unfold InCalendar
    rw [hinstant]
    exact hin
  obtain ⟨u, hu, hinstant', hzero⟩ := readUtc_of_read hread hin'
  exact ⟨u, hu, hinstant'.trans hinstant, hzero⟩

/-- An offset that is too short is passed over: what the clock shows is read as universal time. -/
theorem readUtc_toText_of_not_kept (h : ¬ Kept t.offset) :
    ∃ u, readUtc t.toText = .ok u ∧ u.instant = t.clock ∧ u.offset = 0 := by
  obtain ⟨t', hread, hclock, hoffset⟩ := t.read_toText
  have hzero : keptOffset t.offset = 0 := by
    unfold Kept at h
    unfold keptOffset
    rw [if_pos (by omega)]
  have hinstant : t'.instant = t.clock := by
    unfold instant
    rw [hclock, hoffset, hzero, Int.sub_zero]
  have hin : t'.InCalendar := by
    unfold InCalendar
    rw [hinstant]
    exact ⟨t.clock_nonneg, t.clock_lt⟩
  obtain ⟨u, hu, hinstant', hzero'⟩ := readUtc_of_read hread hin
  exact ⟨u, hu, hinstant'.trans hinstant, hzero'⟩

/-- The moment is read back from the text in universal time, whatever the offset was. -/
theorem readUtc_toUtc_toText (h : t.InCalendar) :
    ∃ u, t.toUtc = .ok u ∧ u.instant = t.instant ∧ u.offset = 0 ∧ readUtc u.toText = .ok u := by
  obtain ⟨u, hu, hinstant, hoffset⟩ := toUtc_of_inCalendar h
  exact ⟨u, hu, hinstant, hoffset, readUtc_toText hoffset⟩

/-- What is read is of universal time. -/
theorem offset_of_readUtc {s : String} {u : Timestamp} (h : readUtc s = .ok u) : u.offset = 0 := by
  obtain ⟨t, u', -, -, hread, -, hoffset⟩ | ⟨text, -, hread⟩ | ⟨t, -, -, hread⟩ := readUtc_cases s
  · obtain rfl := Except.ok.inj (h.symm.trans hread)
    exact hoffset
  · exact absurd (h.symm.trans hread) nofun
  · exact absurd (h.symm.trans hread) nofun

/-- What was read from any text is read back from its own text. -/
theorem readUtc_readUtc_toText {s : String} {u : Timestamp} (h : readUtc s = .ok u) :
    readUtc u.toText = .ok u :=
  readUtc_toText (offset_of_readUtc h)

end ConceptQuery.Timestamp
