/-!
# Tables in order of insertion

A table gives values to names.  It lists its entries in the order in which their names were first
inserted; inserting a name again changes its value and not its place.

* `Table` — entries without a repeated name;
* `Table.get?`, `Table.contains`, `Table.keys`, `Table.size` — looking at a table;
* `Table.insert`, `Table.erase` — changing it;
* `Table.ofList` — a table of entries, of which the last with a name counts.
-/

namespace ConceptQuery

/-- Entries without a repeated name. -/
structure Table (α : Type) where
  entries : List (String × α)
  nodup : (entries.map (·.1)).Nodup := by simp

namespace Table

variable {α : Type}

/-- The table without entries. -/
def empty : Table α := ⟨[], List.nodup_nil⟩

instance : Inhabited (Table α) := ⟨empty⟩

/-- The names, in order of insertion. -/
def keys (t : Table α) : List String :=
  t.entries.map (·.1)

/-- The number of entries. -/
def size (t : Table α) : Nat :=
  t.entries.length

/-- The value of a name. -/
def get? (t : Table α) (name : String) : Option α :=
  (t.entries.find? (·.1 == name)).map (·.2)

/-- Whether a name has a value. -/
def contains (t : Table α) (name : String) : Bool :=
  t.entries.any (·.1 == name)

/-- The entries with the value of one name replaced. -/
def replaceIn (entries : List (String × α)) (name : String) (value : α) : List (String × α) :=
  entries.map fun entry => if entry.1 == name then (name, value) else entry

theorem map_fst_replaceIn (entries : List (String × α)) (name : String) (value : α) :
    (replaceIn entries name value).map (·.1) = entries.map (·.1) := by
  unfold replaceIn
  rw [List.map_map]
  apply List.map_congr_left
  intro entry _
  simp only [Function.comp_apply]
  split
  · next h => exact (eq_of_beq h).symm
  · rfl

/-- Gives a value to a name: in place if the name is there, at the end if not. -/
def insert (t : Table α) (name : String) (value : α) : Table α :=
  if h : t.entries.any (·.1 == name) then
    ⟨replaceIn t.entries name value, by rw [map_fst_replaceIn]; exact t.nodup⟩
  else
    ⟨t.entries ++ [(name, value)], by
      rw [List.map_append, List.nodup_append]
      refine ⟨t.nodup, by simp, ?_⟩
      intro a ha b hb
      simp only [List.map_cons, List.map_nil, List.mem_singleton] at hb
      subst hb
      rintro rfl
      obtain ⟨entry, he, hn⟩ := List.mem_map.1 ha
      exact h (List.any_eq_true.2 ⟨entry, he, by simp [hn]⟩)⟩

/-- Removes a name. -/
def erase (t : Table α) (name : String) : Table α :=
  ⟨t.entries.filter (·.1 != name), by
    exact List.Nodup.sublist (List.Sublist.map _ List.filter_sublist) t.nodup⟩

/-- A table of entries, of which the last with a name counts. -/
def ofList (entries : List (String × α)) : Table α :=
  entries.foldl (fun t entry => t.insert entry.1 entry.2) empty

end Table

end ConceptQuery
