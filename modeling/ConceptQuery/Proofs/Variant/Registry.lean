import ConceptQuery.Proofs.Except
import ConceptQuery.Proofs.Table
import ConceptQuery.Variant.Registry

/-!
# Finding registered variants

* `get_insert` — a variant is found under its own tag, in any letter case;
* `Named`, `named_ofDescriptions` — registered variants stand under their own lower-case tags;
* `Named.get_of_mem`, `Named.eq_of_mem` — they are found under these, and told by their names.
-/

namespace ConceptQuery.Registry

open Text

theorem get_eq_ok {r : Registry} {tag : Option String} {v : Variant} :
    r.get tag = .ok v ↔ r.find? (tag.getD "") = some v := by
  unfold get
  cases r.find? (tag.getD "") <;> simp

theorem get_insert (r : Registry) {v : Variant} {tag : String} (h : toLower tag = toLower v.name) :
    (r.insert v).get (some tag) = .ok v := by
  rw [get_eq_ok]
  show (r.table.insert (toLower v.name) v).get? (toLower tag) = some v
  rw [h, Table.get?_insert_self]

/-- Every variant stands under its own tag. -/
def Named (r : Registry) : Prop :=
  ∀ key v, r.table.get? key = some v → key = toLower v.name

/-- The tag under which a variant is found is its name, but for letter case. -/
theorem Named.toLower_eq {r : Registry} (hr : r.Named) {tag : String} {v : Variant}
    (h : r.get (some tag) = .ok v) : toLower tag = toLower v.name := by
  rw [get_eq_ok] at h
  exact hr _ v h

theorem named_empty : empty.Named := by
  intro key v h
  cases h

theorem Named.insert {r : Registry} (hr : r.Named) (v : Variant) : (r.insert v).Named := by
  intro key u h
  change (r.table.insert (toLower v.name) v).get? key = some u at h
  rw [Table.get?_insert] at h
  split at h
  · next hkey =>
    obtain rfl := Option.some.inj h
    exact hkey
  · exact hr key u h

theorem Named.register {r r' : Registry} {d : Variant.Description} (hr : r.Named)
    (h : r.register d = .ok r') : r'.Named := by
  obtain ⟨v, -, rfl⟩ := Except.map_eq_ok.1 h
  exact hr.insert v

theorem named_foldlM {ds : List Variant.Description} {r r' : Registry} (hr : r.Named)
    (h : ds.foldlM register r = .ok r') : r'.Named := by
  induction ds generalizing r with
  | nil =>
    obtain rfl := Except.ok.inj h
    exact hr
  | cons d ds ih =>
    rw [List.foldlM_cons] at h
    obtain ⟨r₁, hd, hrest⟩ := Except.bind_eq_ok.1 h
    exact ih (hr.register hd) hrest

/-- The variants of a registry that was built by registrations stand under their own tags. -/
theorem named_ofDescriptions {ds : List Variant.Description} {r : Registry}
    (h : ofDescriptions ds = .ok r) : r.Named :=
  named_foldlM named_empty h

/-- A registered variant is told by its tag as it is spelled. -/
theorem Named.eq_of_name_eq {r : Registry} (hr : r.Named) {tag tag' : Option String}
    {v v' : Variant} (h : r.get tag = .ok v) (h' : r.get tag' = .ok v') (hname : v.name = v'.name) :
    v = v' := by
  rw [get_eq_ok] at h h'
  have hkey := hr _ v h
  have hkey' := hr _ v' h'
  unfold find? at h h'
  rw [hkey, hname, ← hkey', h'] at h
  exact (Option.some.inj h).symm

theorem mem_variants_of_get {r : Registry} {tag : Option String} {v : Variant}
    (h : r.get tag = .ok v) : v ∈ r.variants :=
  List.mem_map_of_mem (Table.get?_eq_some_iff.1 (get_eq_ok.1 h))

/-- A registered variant is found under its own tag, in any letter case. -/
theorem Named.get_of_mem {r : Registry} (hr : r.Named) {v : Variant} (h : v ∈ r.variants)
    {tag : String} (htag : toLower tag = toLower v.name) : r.get (some tag) = .ok v := by
  obtain ⟨⟨key, _⟩, hentry, rfl⟩ := List.mem_map.1 h
  have hget := Table.get?_eq_some_iff.2 hentry
  rw [hr _ _ hget, ← htag] at hget
  exact get_eq_ok.2 hget

theorem Named.eq_of_mem {r : Registry} (hr : r.Named) {v v' : Variant} (h : v ∈ r.variants)
    (h' : v' ∈ r.variants) (hname : v.name = v'.name) : v = v' :=
  hr.eq_of_name_eq (hr.get_of_mem h rfl) (hr.get_of_mem h' rfl) hname

end ConceptQuery.Registry
