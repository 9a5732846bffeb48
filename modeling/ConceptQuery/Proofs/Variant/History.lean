import ConceptQuery.Proofs.Text.LetterCase
import ConceptQuery.Proofs.Variant.Registry

/-!
# A registry is told by its history

Descriptions are offered to a registry one after the other, and those whose template does not exist
are refused. What the registry is then is told by the variants that were accepted: under a tag it
has the last one of this name, and its tags stand in the order in which they first came.

* `Registry.offer`, `Registry.offerAll`, `Registry.accepted` — descriptions that are offered, and the
  variants that come of them;
* `Registry.LastNamed`, `Registry.latest?` — the last variant of a name, in any letter case;
* `Registry.Reflects`, `reflects_offerAll` — what a registry owes to the variants that it accepted;
* `Registry.IsOrderedMap`, `isOrderedMap_offerAll` — what it is as a map from tags to variants.
-/

namespace ConceptQuery

open Text

/-- The tag under which a variant stands. -/
def Variant.tag (v : Variant) : String :=
  toLower v.name

/-- A variant as it is registered. -/
def Variant.description (v : Variant) : Variant.Description :=
  ⟨v.name, v.template.name, v.ontologyFile, v.endpoint, v.token⟩

namespace Registry

/-! ### Descriptions that are offered -/

/-- The registry after a description was offered to it. One that is refused leaves it as it is. -/
def offer (r : Registry) (d : Variant.Description) : Registry :=
  match r.register d with
  | .ok r' => r'
  | .error _ => r

/-- The registry after descriptions were offered to it, one after the other. -/
def offerAll (r : Registry) (ds : List Variant.Description) : Registry :=
  ds.foldl offer r

/-- The variants of the descriptions that are not refused, in order. -/
def accepted (ds : List Variant.Description) : List Variant :=
  ds.filterMap fun d => d.check.toOption

/-- The names of the templates that exist. -/
def templateNames : List String := ["simple", "paginated"]

variable {r : Registry} {d : Variant.Description} {ds : List Variant.Description}
  {vs : List Variant} {v : Variant} {tag : String}

/-- A description is refused if no template has the name that it gives. -/
theorem check_of_unknown (h : d.template ∉ templateNames) :
    d.check = .error (.invalidValue ("Unknown query template " ++ quoted d.template ++ " for "
      ++ quoted d.name)) := by
  simp only [templateNames, List.mem_cons, List.not_mem_nil, or_false, not_or] at h
  have hnone : Template.ofName? d.template = none := by
    rw [Template.ofName?, if_neg h.1, if_neg h.2]
  unfold Variant.Description.check
  rw [hnone]

/-- A description whose template exists is taken over as it is. -/
theorem check_of_known (h : d.template ∈ templateNames) :
    ∃ v, d.check = .ok v ∧ v.description = d := by
  simp only [templateNames, List.mem_cons, List.not_mem_nil, or_false] at h
  obtain ⟨name, template, ontologyFile, endpoint, token⟩ := d
  rcases h with rfl | rfl
  · exact ⟨⟨name, .simple, ontologyFile, endpoint, token⟩, rfl, rfl⟩
  · exact ⟨⟨name, .paginated, ontologyFile, endpoint, token⟩, rfl, rfl⟩

theorem check_eq_ok_iff : d.check = .ok v ↔ v.description = d := by
  constructor
  · intro h
    by_cases hknown : d.template ∈ templateNames
    · obtain ⟨u, hu, hdescription⟩ := check_of_known hknown
      rw [hu] at h
      obtain rfl := Except.ok.inj h
      exact hdescription
    · rw [check_of_unknown hknown] at h
      cases h
  · rintro rfl
    obtain ⟨name, template, ontologyFile, endpoint, token⟩ := v
    cases template <;> rfl

/-- The accepted variants are those that were described. -/
theorem mem_accepted_iff : v ∈ accepted ds ↔ v.description ∈ ds := by
  unfold accepted
  rw [List.mem_filterMap]
  constructor
  · rintro ⟨d, hd, hcheck⟩
    obtain rfl := check_eq_ok_iff.1 (Except.eq_ok_of_toOption hcheck)
    exact hd
  · intro h
    exact ⟨v.description, h, by rw [check_eq_ok_iff.2 rfl]; rfl⟩

theorem offer_of_check (h : d.check = .ok v) : r.offer d = r.insert v := by
  unfold offer register
  rw [h]
  rfl

theorem offer_of_refused {f : Failure} (h : d.check = .error f) : r.offer d = r := by
  unfold offer register
  rw [h]
  rfl

/-! ### The last variant of a name -/

/-- A variant is the last of its name: it has a tag as its name but for letter case, and none after
it has. -/
def LastNamed (vs : List Variant) (tag : String) (v : Variant) : Prop :=
  ∃ earlier later, vs = earlier ++ v :: later ∧ toLower v.name = toLower tag
    ∧ ∀ u ∈ later, toLower u.name ≠ toLower tag

theorem LastNamed.mem (h : LastNamed vs tag v) : v ∈ vs := by
  obtain ⟨earlier, later, rfl, -⟩ := h
  simp

/-- No variant has a tag as its name. -/
def NoneNamed (vs : List Variant) (tag : String) : Prop :=
  ∀ u ∈ vs, toLower u.name ≠ toLower tag

/-- The last variant of a name, if there is one. -/
def latest? (vs : List Variant) (tag : String) : Option Variant :=
  vs.reverse.find? fun v => toLower v.name == toLower tag

theorem latest?_append_singleton : latest? (vs ++ [v]) tag
    = if toLower v.name = toLower tag then some v else latest? vs tag := by
  unfold latest?
  rw [List.reverse_append, List.reverse_singleton, List.singleton_append, List.find?_cons]
  by_cases h : toLower v.name = toLower tag
  · rw [if_pos h, beq_iff_eq.2 h]
  · rw [if_neg h, beq_false_of_ne h]

theorem latest?_eq_some_iff : latest? vs tag = some v ↔ LastNamed vs tag v := by
  unfold latest? LastNamed
  rw [List.find?_eq_some_iff_append]
  simp only [beq_iff_eq, Bool.not_eq_true', beq_eq_false_iff_ne]
  constructor
  · rintro ⟨hname, later, earlier, heq, hlater⟩
    refine ⟨earlier.reverse, later.reverse, ?_, hname, fun u hu => hlater u (List.mem_reverse.1 hu)⟩
    rw [← List.reverse_reverse vs, heq]
    simp
  · rintro ⟨earlier, later, rfl, hname, hlater⟩
    exact ⟨hname, later.reverse, earlier.reverse, by simp,
      fun u hu => hlater u (List.mem_reverse.1 hu)⟩

theorem latest?_eq_none_iff : latest? vs tag = none ↔ NoneNamed vs tag := by
  unfold latest? NoneNamed
  simp

/-! ### What a registry owes to its history -/

/-- A name that comes last counts if it did not come before. -/
theorem eraseDups_append_singleton (names : List String) (name : String) :
    (names ++ [name]).eraseDups
      = if name ∈ names then names.eraseDups else names.eraseDups ++ [name] := by
  rw [List.eraseDups_append]
  by_cases h : name ∈ names
  · have hgone : [name].removeAll names = [] := by
      simp [List.removeAll, h]
    rw [hgone, if_pos h]
    exact List.append_nil _
  · have hkept : [name].removeAll names = [name] := by
      simp [List.removeAll, h]
    rw [hkept, if_neg h]
    rfl

/-- A registry has the last accepted variant of every name, and the tags of the accepted variants in
the order in which they first came. -/
structure Reflects (vs : List Variant) (r : Registry) : Prop where
  find?_eq : ∀ tag, r.find? tag = latest? vs tag
  names_eq : r.names = (vs.map Variant.tag).eraseDups
  named : r.Named

theorem reflects_empty : Reflects [] empty where
  find?_eq := fun _ => rfl
  names_eq := rfl
  named := named_empty

/-- A registered variant becomes the last of its name; its tag keeps its place, or comes last. -/
theorem Reflects.insert (h : Reflects vs r) (v : Variant) :
    Reflects (vs ++ [v]) (r.insert v) where
  find?_eq := by
    intro tag
    show (r.table.insert (toLower v.name) v).get? (toLower tag) = _
    rw [Table.get?_insert, latest?_append_singleton, ← h.find?_eq tag]
    by_cases htag : toLower v.name = toLower tag
    · rw [if_pos htag, if_pos htag.symm]
    · rw [if_neg htag, if_neg (Ne.symm htag)]
      rfl
  names_eq := by
    show (r.table.insert v.tag v).keys = _
    have hnames : r.table.keys = (vs.map Variant.tag).eraseDups := h.names_eq
    rw [Table.keys_insert, hnames, List.map_append, List.map_singleton, eraseDups_append_singleton]
    simp only [List.mem_eraseDups]
  named := h.named.insert v

/-- One description. -/
theorem Reflects.offer (h : Reflects vs r) (d : Variant.Description) :
    Reflects (vs ++ accepted [d]) (r.offer d) := by
  cases hcheck : d.check with
  | ok v =>
    rw [offer_of_check hcheck]
    simpa [accepted, hcheck, Except.toOption] using h.insert v
  | error f =>
    rw [offer_of_refused hcheck]
    simpa [accepted, hcheck, Except.toOption] using h

/-- **Descriptions one after the other**, whatever went before. -/
theorem Reflects.offerAll (h : Reflects vs r) (ds : List Variant.Description) :
    Reflects (vs ++ accepted ds) (r.offerAll ds) := by
  induction ds generalizing vs r with
  | nil =>
    rw [show accepted [] = [] from rfl, List.append_nil]
    exact h
  | cons d ds ih =>
    have hrest := ih (h.offer d)
    rw [List.append_assoc] at hrest
    have haccepted : accepted [d] ++ accepted ds = accepted (d :: ds) :=
      (List.filterMap_append (l := [d])).symm
    rw [haccepted] at hrest
    exact hrest

/-- **Every registry** that descriptions were offered to from the start is told by the variants that
it accepted. -/
theorem reflects_offerAll (ds : List Variant.Description) :
    Reflects (accepted ds) (empty.offerAll ds) :=
  reflects_empty.offerAll ds

/-- The tags are those of the variants, one by one. -/
theorem Named.names_eq_map (h : r.Named) : r.names = r.variants.map Variant.tag := by
  show r.table.entries.map (·.1) = (r.table.entries.map (·.2)).map Variant.tag
  rw [List.map_map]
  refine List.map_congr_left fun entry hentry => ?_
  exact h entry.1 entry.2 (Table.get?_eq_some_iff.2 hentry)

/-- A tag is found as it is listed: it is in lower case already. -/
theorem Named.get_names (h : r.Named) {i : Nat} (hi : i < r.names.length)
    (hi' : i < r.variants.length) : r.get (some r.names[i]) = .ok r.variants[i] := by
  have htag : r.names[i] = toLower r.variants[i].name := by
    simp only [h.names_eq_map, List.getElem_map]
    rfl
  refine h.get_of_mem (List.getElem_mem hi') ?_
  rw [htag, toLower_toLower]

theorem Reflects.get_eq_ok_iff (h : Reflects vs r) :
    r.get (some tag) = .ok v ↔ LastNamed vs tag v := by
  rw [get_eq_ok, ← latest?_eq_some_iff, ← h.find?_eq]
  rfl

theorem Reflects.get_eq_error_iff (h : Reflects vs r) {f : Failure} :
    r.get (some tag) = .error f ↔ f = .unsupportedApi (.string tag) ∧ NoneNamed vs tag := by
  rw [← latest?_eq_none_iff, ← h.find?_eq]
  unfold get
  rw [Option.getD_some]
  cases r.find? tag with
  | none => simp [Json.ofOption, eq_comm]
  | some v => simp

/-! ### Registries as maps -/

/-- A registry that descriptions were offered to, as a map from tags to variants: letter case does
not matter, the last variant of a name counts, and the tags stand in the order in which they first
came. -/
structure IsOrderedMap (ds : List Variant.Description) (r : Registry) : Prop where
  /-- One more description is refused if its template does not exist, and then changes nothing. -/
  refuses : ∀ d, d.template ∉ templateNames → r.offer d = r
    ∧ r.register d = .error (.invalidValue ("Unknown query template " ++ quoted d.template
      ++ " for " ++ quoted d.name))
  /-- Otherwise its variant is what is found under its name from then on. -/
  accepts : ∀ d, d.template ∈ templateNames → ∃ v, v.description = d
    ∧ ∀ tag, toLower tag = toLower d.name → (r.offer d).get (some tag) = .ok v
  contains_iff : ∀ tag, r.contains tag = true ↔ ∃ v, r.get (some tag) = .ok v
  get_eq_ok_iff : ∀ tag v, r.get (some tag) = .ok v ↔ LastNamed (accepted ds) tag v
  get_eq_error_iff : ∀ tag f, r.get (some tag) = .error f ↔
    f = .unsupportedApi (.string tag) ∧ NoneNamed (accepted ds) tag
  nodup_names : r.names.Nodup
  /-- The tags in the order in which they were first accepted; replacing moves none. -/
  names_eq : r.names = ((accepted ds).map Variant.tag).eraseDups
  /-- The variants stand in the order of their tags. -/
  names_eq_map : r.names = r.variants.map Variant.tag
  /-- Every tag is found as it is listed. -/
  get_names : ∀ i (h : i < r.names.length) (h' : i < r.variants.length),
    r.get (some r.names[i]) = .ok r.variants[i]

/-- **Every registry is an ordered map**, whatever was offered to it. -/
theorem isOrderedMap_offerAll (ds : List Variant.Description) :
    IsOrderedMap ds (empty.offerAll ds) := by
  have h := reflects_offerAll ds
  generalize empty.offerAll ds = r at h
  constructor
  · intro d hunknown
    have hcheck := check_of_unknown hunknown
    refine ⟨offer_of_refused hcheck, ?_⟩
    rw [register, hcheck]
    rfl
  · intro d hknown
    obtain ⟨v, hcheck, rfl⟩ := check_of_known hknown
    refine ⟨v, rfl, fun tag htag => ?_⟩
    rw [offer_of_check hcheck]
    exact r.get_insert htag
  · intro tag
    show r.table.contains (toLower tag) = true ↔ _
    rw [Table.contains_iff]
    simp only [get_eq_ok]
    rfl
  · exact fun tag v => h.get_eq_ok_iff
  · exact fun tag f => h.get_eq_error_iff
  · exact r.table.nodup_keys
  · exact h.names_eq
  · exact h.named.names_eq_map
  · exact fun i hi hi' => h.named.get_names hi hi'

/-- A dotted capital and a final sigma, a refused template, and a replacement that keeps its place. -/
example : (empty.offerAll [⟨"İO", "simple", "a.ttl", "http://a.test", none⟩,
    ⟨"ΟΔΟΣ", "paginated", "b.ttl", "http://b.test", none⟩, ⟨"x", "none", "c.ttl", "c", none⟩,
    ⟨"i̇o", "simple", "d.ttl", "http://d.test", none⟩]).names = ["i̇o", "οδος"] := by
  decide +kernel

end Registry

end ConceptQuery
