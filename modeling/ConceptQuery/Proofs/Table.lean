import ConceptQuery.Table

/-!
# Tables as partial maps

* `get?_insert`, `get?_erase` — inserting and erasing change the value of one name;
* `keys_insert`, `keys_erase` — and keep the order of the other names;
* `mem_keys_iff` — the names are those that have a value;
* `get?_eq_some_iff` — the entries are the names with their values;
* `ofList_entries` — a table is the table of its entries.
-/

namespace ConceptQuery.Table

variable {α : Type} {t : Table α} {name other : String} {value : α}

/-! ### Entries and names -/

@[simp] theorem get?_empty (name : String) : (empty : Table α).get? name = none := rfl

@[simp] theorem keys_empty : (empty : Table α).keys = [] := rfl

theorem nodup_keys (t : Table α) : t.keys.Nodup := t.nodup

theorem size_eq_length_keys (t : Table α) : t.size = t.keys.length := by
  rw [size, keys, List.length_map]

theorem any_fst_iff (entries : List (String × α)) (name : String) :
    entries.any (·.1 == name) = true ↔ name ∈ entries.map (·.1) := by
  simp [List.any_eq_true, List.mem_map]

theorem mem_keys_iff : name ∈ t.keys ↔ ∃ value, t.get? name = some value := by
  unfold keys get?
  rw [← any_fst_iff, List.any_eq_true]
  constructor
  · rintro ⟨entry, he, hn⟩
    cases hfind : t.entries.find? (·.1 == name) with
    | none => exact absurd hn (List.find?_eq_none.1 hfind entry he)
    | some found => exact ⟨found.2, rfl⟩
  · rintro ⟨value, h⟩
    obtain ⟨entry, hfind, -⟩ := Option.map_eq_some_iff.1 h
    have hname := List.find?_some hfind
    exact ⟨entry, List.mem_of_find?_eq_some hfind, hname⟩

theorem contains_iff : t.contains name = true ↔ ∃ value, t.get? name = some value :=
  (any_fst_iff _ _).trans mem_keys_iff

theorem find?_of_mem {entries : List (String × α)} (hnodup : (entries.map (·.1)).Nodup)
    (h : (name, value) ∈ entries) : entries.find? (·.1 == name) = some (name, value) := by
  induction entries with
  | nil => cases h
  | cons entry rest ih =>
    rw [List.map_cons, List.nodup_cons] at hnodup
    rcases List.mem_cons.1 h with rfl | h
    · exact List.find?_cons_of_pos (beq_self_eq_true name)
    · have hne : entry.1 ≠ name := by
        rintro rfl
        exact hnodup.1 (List.mem_map.2 ⟨_, h, rfl⟩)
      rw [List.find?_cons, beq_false_of_ne hne]
      exact ih hnodup.2 h

theorem get?_eq_some_iff : t.get? name = some value ↔ (name, value) ∈ t.entries := by
  unfold get?
  constructor
  · intro h
    obtain ⟨⟨name', value'⟩, hfind, rfl⟩ := Option.map_eq_some_iff.1 h
    have hname := List.find?_some hfind
    obtain rfl : name' = name := eq_of_beq hname
    exact List.mem_of_find?_eq_some hfind
  · intro h
    rw [find?_of_mem t.nodup h]
    rfl

/-! ### Inserting -/

theorem find?_replaceIn_self {entries : List (String × α)} (value : α)
    (h : name ∈ entries.map (·.1)) :
    (replaceIn entries name value).find? (·.1 == name) = some (name, value) := by
  induction entries with
  | nil => cases h
  | cons entry rest ih =>
    rw [replaceIn, List.map_cons, ← replaceIn]
    by_cases he : entry.1 = name
    · rw [if_pos (beq_iff_eq.2 he)]
      exact List.find?_cons_of_pos (beq_self_eq_true name)
    · have hhead : (entry.1 == name) = false := beq_false_of_ne he
      rw [hhead, if_neg Bool.false_ne_true, List.find?_cons, hhead]
      exact ih ((List.mem_cons.1 h).resolve_left (Ne.symm he))

theorem find?_replaceIn_of_ne (entries : List (String × α)) (value : α) (h : other ≠ name) :
    (replaceIn entries name value).find? (·.1 == other) = entries.find? (·.1 == other) := by
  induction entries with
  | nil => rfl
  | cons entry rest ih =>
    rw [replaceIn, List.map_cons, ← replaceIn, List.find?_cons, List.find?_cons, ih]
    by_cases he : entry.1 = name
    · have hname : (name == other) = false := beq_false_of_ne (Ne.symm h)
      simp [he, hname]
    · simp [he]

/-- **Inserting gives a value to one name** and leaves the values of all others. -/
theorem get?_insert (t : Table α) (name other : String) (value : α) :
    (t.insert name value).get? other = if other = name then some value else t.get? other := by
  unfold insert
  by_cases hmem : t.entries.any (·.1 == name) = true
  · rw [dif_pos hmem]
    have hkey : name ∈ t.entries.map (·.1) := (any_fst_iff _ _).1 hmem
    show ((replaceIn t.entries name value).find? _).map _ = _
    by_cases ho : other = name
    · rw [ho, if_pos rfl, find?_replaceIn_self value hkey]
      rfl
    · rw [if_neg ho, find?_replaceIn_of_ne _ _ ho]
      rfl
  · rw [dif_neg hmem]
    show ((t.entries ++ [(name, value)]).find? _).map _ = _
    rw [List.find?_append]
    by_cases ho : other = name
    · have hnone : t.entries.find? (·.1 == name) = none := by
        rw [List.find?_eq_none]
        intro entry he hn
        exact hmem (List.any_eq_true.2 ⟨entry, he, hn⟩)
      simp [ho, hnone]
    · have hname : ¬ name = other := fun h => ho h.symm
      rw [if_neg ho, get?]
      simp [hname]

@[simp] theorem get?_insert_self (t : Table α) (name : String) (value : α) :
    (t.insert name value).get? name = some value := by
  rw [get?_insert, if_pos rfl]

theorem get?_insert_of_ne (t : Table α) (value : α) (h : other ≠ name) :
    (t.insert name value).get? other = t.get? other := by
  rw [get?_insert, if_neg h]

/-- A new name comes last, one that is there keeps its place. -/
theorem keys_insert (t : Table α) (name : String) (value : α) :
    (t.insert name value).keys = if name ∈ t.keys then t.keys else t.keys ++ [name] := by
  unfold insert keys
  by_cases hmem : t.entries.any (·.1 == name) = true
  · rw [dif_pos hmem, if_pos ((any_fst_iff _ _).1 hmem)]
    exact map_fst_replaceIn t.entries name value
  · rw [dif_neg hmem, if_neg (hmem ∘ (any_fst_iff _ _).2)]
    exact List.map_append

theorem mem_keys_insert : other ∈ (t.insert name value).keys ↔ other = name ∨ other ∈ t.keys := by
  rw [keys_insert]
  split
  · next hmem => exact ⟨.inr, fun h => h.elim (fun ho => ho ▸ hmem) id⟩
  · rw [List.mem_append, List.mem_singleton, or_comm]

/-! ### Erasing -/

/-- **Erasing takes the value of one name** and leaves the values of all others. -/
theorem get?_erase (t : Table α) (name other : String) :
    (t.erase name).get? other = if other = name then none else t.get? other := by
  show ((t.entries.filter (·.1 != name)).find? (·.1 == other)).map _ = _
  rw [List.find?_filter]
  by_cases ho : other = name
  · rw [if_pos ho, List.find?_eq_none.2]
    · rfl
    · intro entry _
      simp [ho]
  · have hsame (entry : String × α) :
        decide ((entry.1 != name) = true ∧ (entry.1 == other) = true) = (entry.1 == other) := by
      by_cases he : entry.1 = other
      · simp [he, ho]
      · simp [he]
    rw [if_neg ho, get?, funext hsame]

@[simp] theorem get?_erase_self (t : Table α) (name : String) :
    (t.erase name).get? name = none := by
  rw [get?_erase, if_pos rfl]

theorem get?_erase_of_ne (t : Table α) (h : other ≠ name) :
    (t.erase name).get? other = t.get? other := by
  rw [get?_erase, if_neg h]

theorem keys_erase (t : Table α) (name : String) :
    (t.erase name).keys = t.keys.filter (· != name) := by
  show (t.entries.filter (·.1 != name)).map (·.1) = _
  rw [keys, List.filter_map]
  rfl

theorem mem_keys_erase : other ∈ (t.erase name).keys ↔ other ≠ name ∧ other ∈ t.keys := by
  rw [keys_erase, List.mem_filter, bne_iff_ne, and_comm]

/-! ### Tables of entries -/

theorem entries_insert_of_notMem (h : name ∉ t.keys) :
    (t.insert name value).entries = t.entries ++ [(name, value)] := by
  unfold insert
  rw [dif_neg (fun hany => h ((any_fst_iff _ _).1 hany))]

/-- Entries with names of their own are all appended, in their order. -/
theorem entries_foldl_insert {entries : List (String × α)} (hnodup : (entries.map (·.1)).Nodup)
    (hnew : ∀ entry ∈ entries, entry.1 ∉ t.keys) :
    (entries.foldl (fun t entry => t.insert entry.1 entry.2) t).entries = t.entries ++ entries := by
  induction entries generalizing t with
  | nil => exact (List.append_nil _).symm
  | cons entry rest ih =>
    rw [List.map_cons, List.nodup_cons] at hnodup
    obtain ⟨hfirst, hrest⟩ := List.forall_mem_cons.1 hnew
    have hlater : ∀ later ∈ rest, later.1 ∉ (t.insert entry.1 entry.2).keys := by
      intro later hlater hmem
      rcases mem_keys_insert.1 hmem with hsame | hmem
      · exact hnodup.1 (hsame ▸ List.mem_map_of_mem hlater)
      · exact hrest later hlater hmem
    rw [List.foldl_cons, ih hnodup.2 hlater, entries_insert_of_notMem hfirst, List.append_assoc]
    rfl

/-- **A table is the table of its entries.** -/
theorem ofList_entries (t : Table α) : ofList t.entries = t := by
  have hentries : (ofList t.entries).entries = t.entries :=
    entries_foldl_insert t.nodup fun _ _ => List.not_mem_nil
  cases t
  cases h : ofList _
  rw [h] at hentries
  cases hentries
  rfl

end ConceptQuery.Table
