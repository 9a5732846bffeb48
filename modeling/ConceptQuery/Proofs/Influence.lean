import ConceptQuery.Proofs.Intent.WireForm
import ConceptQuery.Proofs.Ontology.Resolver
import ConceptQuery.Proofs.Service.Request
import ConceptQuery.Proofs.Variant.Registry

/-!
# What has a say in a query

A query is told by the names that its intent gives and, for a template with pages, by the page size
and the ordering of the first constraint. Two intents that agree there have one query.

* `Stores.get_get` — asking for a graph again changes nothing;
* `Intent.queryIn`, `query_formulate`, `stores_formulate` — a formulation is told by the one graph
  of its API;
* `Intent.SameNames`, `Intent.AsksOrdering`, `Intent.Indistinct` — what two intents agree on;
* `selections_simple`, `selections_paginated`, `queryIn_eq` — what the templates read;
* `query_independent` — two texts whose intents agree there have one query.
-/

namespace ConceptQuery

open Ontology Rdf GraphQL

/-! ### The graph of an API -/

/-- A graph that was read is kept, and a failure leaves no trace: asking again changes nothing. -/
theorem Ontology.Stores.get_get (s : Stores) (tag : Option String) :
    (s.get tag).2.get tag = s.get tag := by
  cases hv : s.variants.get tag with
  | error f => simp only [Stores.get, hv]
  | ok v =>
    cases hkept : s.graphs.get? v.name with
    | some g => simp only [Stores.get, Stores.graphOf, hv, hkept]
    | none =>
      cases hread : readDocument s.directory v.ontologyFile with
      | none => simp only [Stores.get, Stores.graphOf, hv, hkept, hread]
      | some g => simp only [Stores.get, Stores.graphOf, hv, hkept, hread, Table.get?_insert_self]

/-- The query of an intent in the graph of its API. -/
def Intent.queryIn (i : Intent) (variants : Registry) (g : Graph) : Except Failure String :=
  compile variants i (resolveTarget g i.target) (resolveSubEntity g i.subEntity i.constraint)

variable {i j : Intent} {s : Stores} {g : Graph}

/-- One graph is asked for, though for two labels. -/
theorem Intent.formulate_eq (i : Intent) (s : Stores) :
    i.formulate s = ((s.get (some i.api)).1.bind fun g =>
      (i.queryIn s.variants g).map fun query =>
        { intent := i, target := resolveTarget g i.target,
          subEntity := resolveSubEntity g i.subEntity i.constraint, query },
      (s.get (some i.api)).2) := by
  have hvariants := variants_get s (some i.api)
  have hagain := s.get_get (some i.api)
  unfold Intent.formulate Stores.target Stores.subEntity Intent.queryIn
  rcases hread : s.get (some i.api) with ⟨a, s₁⟩
  rw [hread] at hvariants hagain
  cases a with
  | error f => rfl
  | ok g =>
    replace hvariants : s₁.variants = s.variants := hvariants
    simp only [Except.map, Except.bind, hagain, hvariants]

theorem Intent.query_formulate (i : Intent) (s : Stores) :
    (i.formulate s).1.map (·.query) = (s.get (some i.api)).1.bind (i.queryIn s.variants) := by
  rw [i.formulate_eq]
  cases (s.get (some i.api)).1 with
  | error f => rfl
  | ok g =>
    show ((i.queryIn s.variants g).map _).map _ = i.queryIn s.variants g
    cases i.queryIn s.variants g <;> rfl

theorem Intent.stores_formulate (i : Intent) (s : Stores) :
    (i.formulate s).2 = (s.get (some i.api)).2 := by
  rw [i.formulate_eq]

/-! ### What two intents agree on -/

/-- Two intents with the same labels, identifier, fields and API. -/
structure Intent.SameNames (i j : Intent) : Prop where
  target : i.target = j.target
  identifier : i.identifier = j.identifier
  subEntity : i.subEntity = j.subEntity
  fields : i.fields = j.fields
  api : i.api = j.api

/-- The first constraint of an intent asks for an ordering without an empty part, as the graph of
its API tells it. -/
def Intent.AsksOrdering (i : Intent) (s : Stores) : Prop :=
  ∃ g argument field direction, (s.get (some i.api)).1 = .ok g
    ∧ Orders g i.constraint (argument, field, direction)
    ∧ argument ≠ "" ∧ field ≠ "" ∧ direction ≠ ""

/-- The query of one intent cannot be told from that of the other: their API has no pages, or they
have the same page size, and the same first constraint or no ordering. -/
def Intent.Indistinct (i j : Intent) (s : Stores) : Prop :=
  (∀ v, s.variants.get (some i.api) = .ok v → v.template = .simple)
    ∨ i.limit = j.limit
      ∧ (i.constraint = j.constraint ∨ ¬ i.AsksOrdering s ∧ ¬ j.AsksOrdering s)

/-! ### What the templates read -/

theorem SubEntityMapping.hasOrdering_iff {m : SubEntityMapping} :
    m.hasOrdering = true
      ↔ m.argumentField ≠ "" ∧ m.orderingField ≠ "" ∧ m.defaultDirection ≠ "" := by
  simp [SubEntityMapping.hasOrdering, and_assoc]

/-- A sub-entity has an ordering only if its constraint asks for one, whatever the sub-entity. -/
theorem Intent.AsksOrdering.of_hasOrdering (hg : (s.get (some i.api)).1 = .ok g)
    (h : (resolveSubEntity g i.subEntity i.constraint).hasOrdering = true) :
    i.AsksOrdering s := by
  obtain ⟨hargument, hfield, hdirection⟩ := SubEntityMapping.hasOrdering_iff.1 h
  have hmaps := resolveSubEntity_eq_iff.1 (Eq.refl (resolveSubEntity g i.subEntity i.constraint))
  generalize resolveSubEntity g i.subEntity i.constraint = m at *
  cases hmaps with
  | known _ _ _ hordering => exact ⟨g, _, _, _, hg, hordering, hargument, hfield, hdirection⟩
  | unknown => exact absurd rfl hargument

theorem selections_simple (h : i.SameNames j) (t : TargetMapping) {m m' : SubEntityMapping}
    (hfield : m.field = m'.field) :
    Template.simple.selections i t m = Template.simple.selections j t m' := by
  unfold Template.selections Intent.leaves
  dsimp only
  rw [h.identifier, h.fields, hfield]

theorem selections_paginated (h : i.SameNames j) (t : TargetMapping) {m m' : SubEntityMapping}
    (hfield : m.field = m'.field)
    (harguments : m.connectionArguments i.limit = m'.connectionArguments j.limit) :
    Template.paginated.selections i t m = Template.paginated.selections j t m' := by
  unfold Template.selections Intent.leaves
  dsimp only
  rw [h.identifier, h.fields, hfield, harguments]

/-- Without an ordering only the page size is passed. -/
theorem connectionArguments_of_not_hasOrdering {m : SubEntityMapping}
    (h : ¬ m.hasOrdering = true) (limit : Int) :
    m.connectionArguments limit = [⟨"first", .int limit⟩] := by
  unfold SubEntityMapping.connectionArguments
  rw [if_neg h]

/-- In the graph of their API, intents that agree have one query. -/
theorem Intent.SameNames.queryIn_eq (h : i.SameNames j) (hrest : i.Indistinct j s)
    (hg : (s.get (some i.api)).1 = .ok g) : i.queryIn s.variants g = j.queryIn s.variants g := by
  have hfield : (resolveSubEntity g i.subEntity i.constraint).field
      = (resolveSubEntity g j.subEntity j.constraint).field := by
    rw [h.subEntity]
    exact (resolveSubEntity_names g j.subEntity i.constraint j.constraint).1
  unfold Intent.queryIn compile
  rw [h.target, ← h.api]
  cases hv : s.variants.get (some i.api) with
  | error f => rfl
  | ok v =>
    refine congrArg (Except.ok ∘ render) ?_
    rcases hrest with hsimple | ⟨hlimit, hconstraint⟩
    · rw [hsimple v hv]
      exact selections_simple h _ hfield
    · cases v.template with
      | simple => exact selections_simple h _ hfield
      | paginated =>
        apply selections_paginated h _ hfield
        rw [hlimit]
        rcases hconstraint with hsame | ⟨hi, hj⟩
        · rw [h.subEntity, hsame]
        · have hg' : (s.get (some j.api)).1 = .ok g := by rw [← h.api, hg]
          rw [connectionArguments_of_not_hasOrdering fun hi' => hi (.of_hasOrdering hg hi'),
            connectionArguments_of_not_hasOrdering fun hj' => hj (.of_hasOrdering hg' hj')]

/-! ### Two texts -/

theorem formulate_of_ofText {raw : String} (h : Intent.ofText raw = .ok i) (s : Stores) :
    formulate raw s = i.formulate s := by
  unfold formulate
  rw [h]

/-- **What cannot be told from a query.** In all stores of variants and documents, take two texts of
intents with the same target, identifier, sub-entity, fields and API. If the template of the API is
the simple one, they give the same query, or fail alike, whatever their page sizes, constraints and
actions. For any template they do so if their page sizes are equal and their first constraints are
equal, or ask for no ordering or one with an empty part. It makes no difference either which text
is formulated first, and which documents are read by then. -/
theorem query_independent {raw₁ raw₂ : String} {i₁ i₂ : Intent} (s : Stores)
    (h₁ : Intent.ofText raw₁ = .ok i₁) (h₂ : Intent.ofText raw₂ = .ok i₂)
    (hnames : i₁.SameNames i₂) (hrest : i₁.Indistinct i₂ s) :
    (formulate raw₁ s).1.map (·.query) = (formulate raw₂ s).1.map (·.query)
      ∧ (formulate raw₁ s).2 = (formulate raw₂ s).2
      ∧ (formulate raw₂ (formulate raw₁ s).2).1.map (·.query)
        = (formulate raw₁ s).1.map (·.query) := by
  rw [formulate_of_ofText h₁, formulate_of_ofText h₂, formulate_of_ofText h₂]
  have hquery : (i₁.formulate s).1.map (·.query) = (i₂.formulate s).1.map (·.query) := by
    rw [i₁.query_formulate, i₂.query_formulate, ← hnames.api]
    cases hg : (s.get (some i₁.api)).1 with
    | error f => rfl
    | ok g => exact hnames.queryIn_eq hrest hg
  have hstores : (i₁.formulate s).2 = (i₂.formulate s).2 := by
    rw [i₁.stores_formulate, i₂.stores_formulate, hnames.api]
  refine ⟨hquery, hstores, ?_⟩
  -- the graph is kept by the first formulation, and found again by the second
  rw [hquery, hstores, i₂.query_formulate, i₂.query_formulate, i₂.stores_formulate, s.get_get,
    variants_get]

/-- One API with pages and one without. The first constraint of the first intent has no direction,
and the other intents have no constraint, another action or another page size. -/
theorem query_independent_no_direction :
    let stars := concept "Stars"
    let user := concept "User"
    let repo := concept "Repo"
    let g := Graph.empty.addAll [⟨user, label, .plain "User"⟩, ⟨user, mapsToField, .plain "user"⟩,
      ⟨user, identifierArgument, .plain "login"⟩, ⟨repo, label, .plain "Repo"⟩,
      ⟨repo, mapsToField, .plain "repos"⟩, ⟨repo, mapsToType, .plain "Repos"⟩,
      ⟨stars, label, .plain "Stars"⟩, ⟨stars, mapsToArgumentField, .plain "orderBy"⟩,
      ⟨stars, mapsToOrderingField, .plain "STARS"⟩, ⟨stars, defaultDirection, .plain ""⟩]
    let git : Variant := ⟨"GIT", .paginated, "git.ttl", "http://git", none⟩
    let flat : Variant := ⟨"FLAT", .simple, "flat.ttl", "http://flat", none⟩
    let s : Stores := ⟨(Registry.empty.insert flat).insert git, .empty,
      (Table.empty.insert "FLAT" g).insert "GIT" g⟩
    let text (action : String) (limit : Int) (constraints : List String) (api : String) :=
      (⟨action, "User", "a", "Repo", limit, constraints, ["id"], api⟩ : Intent).toText
    let ordered := text "QUERY" 9 ["Stars", "Age"] "git"
    let dropped := text "DROP" 9 [] "git"
    ((formulate ordered s).1.map (·.query) = (formulate dropped s).1.map (·.query)
        ∧ (formulate ordered s).2 = (formulate dropped s).2
        ∧ (formulate dropped (formulate ordered s).2).1.map (·.query)
          = (formulate ordered s).1.map (·.query))
      ∧ (formulate (text "QUERY" 1 ["Stars"] "flat") s).1.map (·.query)
        = (formulate (text "QUERY" 99 [] "flat") s).1.map (·.query)
      ∧ ((formulate dropped s).1.map (·.query)).toOption
        = some ("query \x7b\n  user(login: \"a\") \x7b\n    repos(first: 9) \x7b\n"
          ++ "      nodes \x7b\n        id\n      \x7d\n    \x7d\n  \x7d\n\x7d\n") := by
  intro stars user repo g git flat s text ordered dropped
  have hread (action : String) (limit : Int) (constraints : List String) (api : String)
      (hlimit : 1 ≤ limit ∧ limit ≤ 99) (hapi : api ≠ "") :
      Intent.ofText (text action limit constraints api)
        = .ok ⟨action, "User", "a", "Repo", limit, constraints, ["id"], api⟩ := by
    have hdigits : limit.natAbs < 10 ^ digitLimit := calc
      limit.natAbs < 10 ^ 2 := by omega
      _ ≤ 10 ^ digitLimit := Nat.pow_le_pow_right (by decide) (by decide)
    have hname : Intent.IsName "id" := Intent.isFieldName_iff_isName.1 (by decide)
    have hlt := (Intent.lt_pow_iff_natAbs_lt (Int.le_trans (by decide) hlimit.1)).2 hdigits
    exact Intent.ofText_toText.2 ⟨by simp, by simp, hapi, ⟨hlimit.1, hlt⟩, by simp, by simpa⟩
  have hordered := hread "QUERY" 9 ["Stars", "Age"] "git" (by decide) (by decide)
  have hdropped := hread "DROP" 9 [] "git" (by decide) (by decide)
  have hshort := hread "QUERY" 1 ["Stars"] "flat" (by decide) (by decide)
  have hlong := hread "QUERY" 99 [] "flat" (by decide) (by decide)
  have hgit : (s.get (some "git")).1 = .ok g := by
    have hv : s.variants.get (some "git") = .ok git := Registry.get_insert _ (by decide +kernel)
    have hkept : s.graphs.get? git.name = some g := Table.get?_insert_self _ _ _
    simp only [Stores.get, hv, Stores.graphOf, hkept]
  have hflat : s.variants.get (some "flat") = .ok flat :=
    Except.eq_ok_of_toOption (by decide +kernel)
  have hstars : orderingOf g (some "Stars") = ("orderBy", "STARS", "") := by decide +kernel
  refine ⟨query_independent s hordered hdropped ⟨rfl, rfl, rfl, rfl, rfl⟩ ?_,
    (query_independent s hshort hlong ⟨rfl, rfl, rfl, rfl, rfl⟩ ?_).1, ?_⟩
  · refine .inr ⟨rfl, .inr ⟨?_, ?_⟩⟩
    · rintro ⟨g', argument, field, direction, hg', horders, -, -, hdirection⟩
      obtain rfl := Except.ok.inj (hgit.symm.trans hg')
      have hsame := hstars.symm.trans (orderingOf_eq_iff.2 horders)
      exact hdirection (congrArg (·.2.2) hsame).symm
    · rintro ⟨g', argument, field, direction, -, horders, hargument, -, -⟩
      exact hargument (congrArg (·.1) (orderingOf_eq_iff.2 horders)).symm
  · refine .inl fun v hv => ?_
    obtain rfl := Except.ok.inj (hflat.symm.trans hv)
    rfl
  · rw [formulate_of_ofText hdropped]
    decide +kernel

end ConceptQuery
