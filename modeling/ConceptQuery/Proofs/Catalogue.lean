import ConceptQuery.Intent.Canned
import ConceptQuery.Proofs.Compile
import ConceptQuery.Proofs.Intent.WireForm
import ConceptQuery.Proofs.Ontology.Stores
import ConceptQuery.Settings

/-!
# Queries of variants

Which query an intent is compiled to is fixed by the registered variants and their documents.

* `Intent.sound_canned` — canned intents are intents that some text can give;
* `Catalogue`, `Catalogue.query` — variants with their documents, and the query of an intent;
* `Catalogue.QueryOf` — a query of the variant that a tag names;
* `readDocument_empty`, `query_unmapped`, `read_unmapped` — the query of an intent whose document is
  empty, and its tree;
* `silent`, `not_queryOf_silent` — without mappings, the two built-in variants share no query.
-/

namespace ConceptQuery

open Ontology

/-- Canned intents are intents that some text gives. -/
theorem Intent.sound_canned (api : Option String) : (Intent.canned api).Sound := by
  have hlimit {n : Int} (hn : n.natAbs < 10 ^ 1) (hpos : 1 ≤ n) :
      1 ≤ n ∧ n < 10 ^ digitLimit := by
    refine ⟨hpos, (lt_pow_iff_natAbs_lt (by omega)).2 (hn.trans_le ?_)⟩
    exact Nat.pow_le_pow_right (by decide) (by decide)
  have hnames {names : List String} (h : names.all isFieldName = true) :
      ∀ name ∈ names, IsName name := fun name hname =>
    isFieldName_iff_isName.1 (List.all_eq_true.1 h name hname)
  unfold Intent.canned
  split
  · exact ⟨by decide, by decide, by decide, hlimit (by decide) (by decide), by decide,
      hnames (by decide)⟩
  · exact ⟨by decide, by decide, by decide, hlimit (by decide) (by decide), by decide,
      hnames (by decide)⟩

/-- The registered variants with their documents. -/
structure Catalogue where
  variants : Registry
  directory : Directory

namespace Catalogue

/-- The query that an intent is compiled to, by stores that have read no document yet. -/
def query (k : Catalogue) (i : Intent) : Except Failure String :=
  (i.formulate (.unread k.variants k.directory)).1.map (·.query)

variable {k : Catalogue} {api : String}

/-- A query of the variant that a tag names: it is compiled from an intent whose API names the same
variant. -/
def QueryOf (k : Catalogue) (tag query : String) : Prop :=
  ∃ v raw i, k.variants.get (some tag) = .ok v ∧ Intent.ofText raw = .ok i
    ∧ k.variants.get (some i.api) = .ok v ∧ k.query i = .ok query

/-- Only the intents of registered variants are compiled. -/
theorem registered_of_query (hv : k.variants.Named) {i : Intent} {query : String}
    (h : k.query i = .ok query) : ∃ v, k.variants.get (some i.api) = .ok v := by
  obtain ⟨g, hg, -⟩ := Except.map_eq_ok.1 h
  rw [((Stores.faithful_unread k.variants k.directory).formulate_eq hv i).1] at hg
  obtain ⟨target, -, hrest⟩ := Except.bind_eq_ok.1 hg
  obtain ⟨subEntity, -, hcompile⟩ := Except.bind_eq_ok.1 hrest
  obtain ⟨text, htext, -⟩ := Except.map_eq_ok.1 hcompile
  obtain ⟨v, hget, -⟩ := Except.map_eq_ok.1 htext
  exact ⟨v, hget⟩

theorem queryOf_canned (hv : k.variants.Named) {query : String}
    (h : k.query (.canned (some api)) = .ok query) :
    k.QueryOf (Intent.canned (some api)).api query := by
  obtain ⟨v, hget⟩ := registered_of_query hv h
  exact ⟨v, _, _, hget, Intent.ofText_toText.2 (Intent.sound_canned _), hget, h⟩

/-! ### Documents without mappings -/

/-- A document without a character is read as the graph without triples. -/
theorem readDocument_empty {directory : Directory} {file : String}
    (h : directory.get? file = some []) : readDocument directory file = some .empty := by
  have hdecode : Text.Utf8.decode [] = .ok [] := Except.eq_ok_of_toOption (by decide +kernel)
  have htokens : Turtle.tokensFrom [] = some [] := by
    rw [Turtle.tokensFrom]
    rfl
  rw [readDocument, h]
  show (Text.Utf8.decode []).toOption.bind _ = _
  rw [hdecode]
  show (Turtle.tokensFrom []).bind _ = _
  rw [htokens]
  rfl

/-- The query of an intent whose document is empty: no label is known. -/
theorem query_unmapped (hv : k.variants.Named) {i : Intent} {v : Variant}
    (hget : k.variants.get (some i.api) = .ok v)
    (hempty : k.directory.get? v.ontologyFile = some []) :
    k.query i = .ok (GraphQL.render (v.template.selections i {} {})) := by
  have hgraph : ((Stores.unread k.variants k.directory).get (some i.api)).1 = .ok .empty := by
    have h := Stores.graphOf_unread k.variants k.directory v
    rw [readDocument_empty hempty] at h
    rw [Stores.get, show (Stores.unread k.variants k.directory).variants = k.variants from rfl,
      hget]
    exact h
  have hresolved {α : Type} (resolve : Rdf.Graph → α) :
      ((Stores.unread k.variants k.directory).get (some i.api)).1.map resolve
        = .ok (resolve .empty) := by
    rw [hgraph]
    rfl
  have htarget : ((Stores.unread k.variants k.directory).target i.target (some i.api)).1
      = .ok {} := hresolved _
  have hsub : ((Stores.unread k.variants k.directory).subEntity i.subEntity i.constraint
      (some i.api)).1 = .ok {} := hresolved _
  rw [query, ((Stores.faithful_unread k.variants k.directory).formulate_eq hv i).1,
    Stores.formulationOf, htarget, hsub]
  show Except.map _ (Except.map _ (compile k.variants i {} {})) = _
  rw [compile, hget]
  rfl

/-- It is read back as the tree of its template around the fields alone. -/
theorem read_unmapped (template : Template) {i : Intent} (hi : i.Valid) :
    GraphQL.read (GraphQL.render (template.selections i {} {}))
      = some (queryTree template i {} {}) := by
  have ht : TargetMapping.Named {} := ⟨.inl rfl, .inl rfl⟩
  have hs : SubEntityMapping.Named {} :=
    ⟨.inl rfl, .inl rfl, .inl rfl, .inl rfl, by decide, by decide⟩
  have htree := spliceAll_selections template hi {} {}
  have hne := queryTree_ne_nil template hi {} {}
  rw [← htree] at hne ⊢
  exact GraphQL.read_render _ (allRenderable_selections template hi ht hs) hne

/-- Without mappings, no query of a simple variant is one of a paginated variant: only the latter
has its fields inside of another one. -/
theorem render_unmapped_ne {i j : Intent} (hi : i.Valid) (hj : j.Valid) :
    GraphQL.render (Template.simple.selections i {} {})
      ≠ GraphQL.render (Template.paginated.selections j {} {}) := by
  intro h
  have htrees : queryTree .simple i {} {} = queryTree .paginated j {} {} := by
    apply Option.some.inj
    rw [← read_unmapped .simple hi, h, read_unmapped .paginated hj]
  have hnodes : i.fields.map (fun name => (.field name [] [] : GraphQL.Selection Int))
      = [.field "nodes" [] (j.fields.map fun name => .field name [] [])] := htrees
  cases hfields : i.fields with
  | nil => exact hi.fields_ne hfields
  | cons name more =>
    rw [hfields, List.map_cons] at hnodes
    have hinner := (GraphQL.Selection.field.inj (List.cons.inj hnodes).1).2.2
    exact hj.fields_ne (List.map_eq_nil_iff.1 hinner.symm)

/-- The two built-in variants, with documents that say nothing. -/
def silent : Catalogue where
  variants := Settings.standard.registry
  directory := .ofList [("graphql_github.ttl", []), ("graphql_countries.ttl", [])]

theorem named_silent : silent.variants.Named :=
  (Registry.named_empty.insert _).insert _

/-- The canned query of the one built-in variant is no query of the other one. -/
theorem not_queryOf_silent {query : String} (h : silent.query .cannedGithub = .ok query) :
    ¬ silent.QueryOf "countries" query := by
  have hgithub : silent.variants.get (some Intent.cannedGithub.api)
      = .ok Settings.standard.github := rfl
  have hcountries : silent.variants.get (some "countries")
      = .ok Settings.standard.countries := rfl
  rw [query_unmapped named_silent hgithub rfl] at h
  rintro ⟨v, raw, i, hget, hread, hi, hcompile⟩
  rw [hcountries] at hget
  obtain rfl := Except.ok.inj hget
  rw [query_unmapped named_silent hi rfl, ← h] at hcompile
  have hvalid : Intent.cannedGithub.Valid :=
    Intent.valid_of_ofText (Intent.ofText_toText.2 (Intent.sound_canned (some "github")))
  exact render_unmapped_ne (Intent.valid_of_ofText hread) hvalid (Except.ok.inj hcompile)

end Catalogue

end ConceptQuery
