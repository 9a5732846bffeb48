import ConceptQuery.Intent.Validation
import ConceptQuery.Proofs.Except

/-!
# What is known of an intent that was read

* `Intent.Valid` — the conditions that validation checks;
* `Checked.both_eq_ok` — two parts are good together if each of them is;
* `valid_of_ofText` — an intent that was read from a text meets the conditions;
* `malformed_of_ofText` — a text that gives none is reported as malformed, with its issues.
-/

namespace ConceptQuery.Intent

/-- The conditions that validation checks. -/
structure Valid (i : Intent) : Prop where
  target_ne : i.target ≠ ""
  subEntity_ne : i.subEntity ≠ ""
  api_ne : i.api ≠ ""
  limit_pos : 0 < i.limit
  fields_ne : i.fields ≠ []
  fields_names : ∀ name ∈ i.fields, isFieldName name = true

theorem Checked.both_eq_ok {α β : Type} {a : Checked α} {b : Checked β} {x : α} {y : β} :
    a.both b = .ok (x, y) ↔ a = .ok x ∧ b = .ok y := by
  cases a <;> cases b <;> simp [Checked.both]

theorem required_eq_ok {α : Type} {check : List Place → Json → Checked α} {name : String}
    {value : Option Json} {x : α} (h : required check name value = .ok x) :
    ∃ v, check [.member name] v = .ok x := by
  cases value with
  | none => cases h
  | some v => exact ⟨v, h⟩

theorem checkLabel_eq_ok {place : List Place} {v : Json} {s : String}
    (h : checkLabel place v = .ok s) : s ≠ "" := by
  unfold checkLabel at h
  split at h
  · cases h
  · next t ht =>
    split at h
    · cases h
    · next hne =>
      obtain rfl := Except.ok.inj h
      simpa using hne

theorem checkLimit_eq_ok {place : List Place} {v : Json} {n : Int}
    (h : checkLimit place v = .ok n) : 0 < n := by
  unfold checkLimit at h
  split at h
  · cases h
  · split at h
    · next hn =>
      obtain rfl := Except.ok.inj h
      exact hn
    · cases h

theorem checkFields_eq_ok {place : List Place} {v : Json} {names : List String}
    (h : checkFields place v = .ok names) :
    names ≠ [] ∧ ∀ name ∈ names, isFieldName name = true := by
  unfold checkFields at h
  split at h
  · cases h
  · split at h
    · cases h
    · next hne =>
      split at h
      · cases h
      · next hfind =>
        obtain rfl := Except.ok.inj h
        exact ⟨by simpa using hne, by simpa using hfind⟩

theorem valid_of_ofMembers {get : String → Option Json} {i : Intent}
    (h : ofMembers get = .ok i) : i.Valid := by
  unfold ofMembers at h
  obtain ⟨⟨action, target, identifier, subEntity, limit, constraints, fields, api⟩, hall, rfl⟩ :=
    Except.map_eq_ok.1 h
  simp only [Checked.both_eq_ok] at hall
  obtain ⟨-, htarget, -, hsub, hlimit, -, hfields, hapi⟩ := hall
  obtain ⟨_, htarget⟩ := required_eq_ok htarget
  obtain ⟨_, hsub⟩ := required_eq_ok hsub
  obtain ⟨_, hlimit⟩ := required_eq_ok hlimit
  obtain ⟨_, hfields⟩ := required_eq_ok hfields
  obtain ⟨_, hapi⟩ := required_eq_ok hapi
  exact {
    target_ne := checkLabel_eq_ok htarget
    subEntity_ne := checkLabel_eq_ok hsub
    api_ne := checkLabel_eq_ok hapi
    limit_pos := checkLimit_eq_ok hlimit
    fields_ne := (checkFields_eq_ok hfields).1
    fields_names := (checkFields_eq_ok hfields).2 }

/-- **An intent that was read from a text is valid.** -/
theorem valid_of_ofText {raw : String} {i : Intent} (h : ofText raw = .ok i) : i.Valid := by
  have hcheck : check raw = .ok i := Except.mapError_eq_ok.1 h
  unfold check at hcheck
  split at hcheck
  · cases hcheck
  · next v _ =>
    unfold ofJson at hcheck
    split at hcheck
    · exact valid_of_ofMembers hcheck
    · cases hcheck

/-- A text that gives no intent is reported with the issues that were found. -/
theorem malformed_of_ofText {raw : String} {f : Failure} (h : ofText raw = .error f) :
    ∃ issues, check raw = .error issues ∧ f = .malformedIntent (summary issues.length) issues := by
  unfold ofText at h
  cases hcheck : check raw with
  | ok i =>
    rw [hcheck] at h
    cases h
  | error issues =>
    rw [hcheck] at h
    exact ⟨issues, rfl, (Except.error.inj h).symm⟩

end ConceptQuery.Intent
