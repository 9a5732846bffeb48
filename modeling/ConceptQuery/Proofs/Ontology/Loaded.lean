import ConceptQuery.Proofs.Ontology.Registering
import ConceptQuery.Proofs.Text.LetterCase

/-!
# Whether a graph is there already

A tag is told to be loaded if a graph is kept under the tag in lower case. Graphs are kept under the
names of variants as they are spelled, so this agrees with what can be answered without reading a
document as far as these names are in lower case.

* `Serves`, `serves_iff_kept` — a tag is answered whatever the documents are;
* `graphOf_keeps`, `Keeps.getAll_kept`, `Keeps.preload_kept` — what is kept after asking;
* `WasRead`, `Keeps.isLoaded_iff`, `Keeps.serves_iff` — both told by what was asked for;
* `Tells`, `tells_lower_case` — runs.
-/

namespace ConceptQuery.Ontology

open Rdf Text

/-! ### Answering without documents -/

/-- A tag is answered with a graph, and with the same one whatever the documents are. -/
def Serves (s : Stores) (tag : String) : Prop :=
  ∃ g, ∀ directory : Directory, (Stores.get { s with directory } (some tag)).1 = .ok g

variable {p : Past} {s : Stores} {v : Variant} {vs : List Variant} {name tag : String} {g : Graph}

/-- Nothing is read if there are no documents. -/
theorem serves_iff_kept : Serves s tag ↔
    ∃ v g, s.variants.get (some tag) = .ok v ∧ s.graphs.get? v.name = some g := by
  unfold Serves Stores.get Stores.graphOf
  constructor
  · rintro ⟨g, hserves⟩
    have hserves := hserves .empty
    cases htag : s.variants.get (some tag) with
    | error f =>
      rw [htag] at hserves
      cases hserves
    | ok v =>
      rw [htag] at hserves
      dsimp only at hserves
      cases hkept : s.graphs.get? v.name with
      | some g' => exact ⟨v, g', rfl, hkept⟩
      | none =>
        rw [hkept] at hserves
        cases hserves
  · rintro ⟨v, g, htag, hkept⟩
    refine ⟨g, fun directory => ?_⟩
    rw [htag]
    dsimp only
    rw [hkept]

/-! ### What is kept after asking -/

/-- A graph that is kept is not lost. -/
theorem graphOf_keeps (h : s.graphs.get? name = some g) (v : Variant) :
    (s.graphOf v).2.graphs.get? name = some g := by
  unfold Stores.graphOf
  cases hkept : s.graphs.get? v.name with
  | some g' => exact h
  | none =>
    cases readDocument s.directory v.ontologyFile with
    | none => exact h
    | some g' =>
      have hne : name ≠ v.name := by
        rintro rfl
        exact absurd (h.symm.trans hkept) nofun
      exact (Table.get?_insert_of_ne _ _ hne).trans h

theorem get_keeps (h : s.graphs.get? name = some g) (tag : Option String) :
    (s.get tag).2.graphs.get? name = some g := by
  unfold Stores.get
  split
  · exact graphOf_keeps h _
  · exact h

theorem getAll_keeps (h : s.graphs.get? name = some g) (vs : List Variant) :
    (s.getAll vs).2.graphs.get? name = some g := by
  induction vs generalizing s with
  | nil => exact h
  | cons v vs ih =>
    have hget := get_keeps h (some v.name)
    unfold Stores.getAll
    split
    · next hanswer => exact ih (by rw [hanswer] at hget; exact hget)
    · next hanswer => rw [hanswer] at hget; exact hget

/-- The graph that a variant is answered with is kept. -/
theorem graphOf_kept (h : (s.graphOf v).1 = .ok g) :
    (s.graphOf v).2.graphs.get? v.name = some g := by
  unfold Stores.graphOf at h ⊢
  cases hkept : s.graphs.get? v.name with
  | some g' =>
    rw [hkept] at h
    obtain rfl := Except.ok.inj h
    exact hkept
  | none =>
    rw [hkept] at h
    cases hread : readDocument s.directory v.ontologyFile with
    | none =>
      rw [hread] at h
      cases h
    | some g' =>
      rw [hread] at h
      obtain rfl := Except.ok.inj h
      exact Table.get?_insert_self _ _ _

/-- Variants that are asked for in order and all have graphs keep them. -/
theorem Keeps.getAll_kept (h : Keeps p s)
    (hvs : ∀ v ∈ vs, p.variants.get (some v.name) = .ok v) (hok : (s.getAll vs).1 = .ok ()) :
    ∀ v ∈ vs, ∃ g, (s.getAll vs).2.graphs.get? v.name = some g := by
  induction vs generalizing p s with
  | nil => nofun
  | cons v vs ih =>
    obtain ⟨hv, hvs⟩ := List.forall_mem_cons.1 hvs
    have hget := h.get_eq hv
    unfold Stores.getAll at hok ⊢
    rw [hget] at hok ⊢
    have hafter := (h.graphOf hv).2
    rcases hgraph : s.graphOf v with ⟨answer, s'⟩
    rw [hgraph] at hok hafter
    cases answer with
    | error f => cases hok
    | ok g =>
      have hkept := graphOf_kept (congrArg Prod.fst hgraph)
      rw [hgraph] at hkept
      exact List.forall_mem_cons.2 ⟨⟨g, getAll_keeps hkept vs⟩, ih hafter hvs hok⟩

theorem Keeps.preload_kept (h : Keeps p s) (hok : s.preload.1 = .ok ())
    {tag : Option String} (htag : s.variants.get tag = .ok v) :
    ∃ g, s.preload.2.graphs.get? v.name = some g := by
  unfold Stores.preload at hok ⊢
  rw [h.variants_eq] at hok htag ⊢
  exact h.getAll_kept (fun u hu => h.named.get_of_mem hu rfl) hok v
    (Registry.mem_variants_of_get htag)

/-! ### What was asked for -/

/-- There was a document to be read when a variant with this name was asked for. -/
def WasRead (asks : List Ask) (name : String) : Prop :=
  ∃ ask ∈ asks, ask.variant.name = name ∧ ∃ g, Spells ask.directory ask.variant.ontologyFile g

theorem Keeps.kept_iff (h : Keeps p s) :
    (∃ g, s.graphs.get? name = some g) ↔ WasRead p.asks name := by
  rw [h.graphs_eq]
  exact kept?_isSome_iff

theorem Keeps.isLoaded_iff (h : Keeps p s) :
    s.isLoaded tag = true ↔ WasRead p.asks (toLower tag) :=
  Table.contains_iff.trans h.kept_iff

theorem Keeps.serves_iff (h : Keeps p s) (htag : s.variants.get (some tag) = .ok v) :
    Serves s tag ↔ WasRead p.asks v.name := by
  rw [serves_iff_kept, htag, ← h.kept_iff]
  constructor
  · rintro ⟨_, g, ⟨⟩, hkept⟩
    exact ⟨g, hkept⟩
  · rintro ⟨g, hkept⟩
    exact ⟨v, g, rfl, hkept⟩

/-- The lower case of a tag is the one of the name. -/
theorem Keeps.toLower_eq (h : Keeps p s) (htag : s.variants.get (some tag) = .ok v) :
    toLower tag = toLower v.name := by
  rw [h.variants_eq] at htag
  exact h.named.toLower_eq htag

/-- A tag whose lower case was asked for is registered. -/
theorem Keeps.registered_of_wasRead (h : Keeps p s) (hread : WasRead p.asks (toLower tag)) :
    ∃ v, s.variants.get (some tag) = .ok v := by
  obtain ⟨ask, hask, hname, -⟩ := hread
  obtain ⟨v, hv⟩ := h.asked ask hask
  have htag : toLower tag = toLower v.name := by
    rw [← h.named.toLower_eq hv, hname, toLower_toLower]
  rw [h.variants_eq]
  exact ⟨v, h.named.get_of_mem (Registry.mem_variants_of_get hv) htag⟩

/-! ### What is told -/

/-- What is told of tags, with what was asked for. -/
structure Tells (asks : List Ask) (s : Stores) : Prop where
  /-- A tag is told to be loaded if a variant whose name is this tag in lower case was read. -/
  isLoaded : ∀ tag, s.isLoaded tag = true ↔ WasRead asks (toLower tag)
  /-- It is answered without a document if one was read for a variant with the name that the
  registered one has. -/
  serves : ∀ tag v, s.variants.get (some tag) = .ok v → (Serves s tag ↔ WasRead asks v.name)
  /-- The two agree if this name is in lower case. -/
  agree : ∀ tag v, s.variants.get (some tag) = .ok v → toLower v.name = v.name →
    (s.isLoaded tag = true ↔ Serves s tag)
  /-- They agree on tags that are not registered. -/
  unregistered : ∀ tag f, s.variants.get (some tag) = .error f →
    s.isLoaded tag = false ∧ ¬ Serves s tag
  /-- A variant in lower case that was answered with a graph is told to be loaded under all
  spellings of its tag. -/
  after_get : ∀ tag v g, s.variants.get (some tag) = .ok v → toLower v.name = v.name →
    (s.get (some tag)).1 = .ok g → ∀ tag', toLower tag' = toLower tag →
    (s.get (some tag)).2.isLoaded tag' = true
  after_preload : s.preload.1 = .ok () → ∀ tag v, s.variants.get (some tag) = .ok v →
    toLower v.name = v.name → s.preload.2.isLoaded tag = true
  /-- A variant that is spelled otherwise is not told to be loaded after it was answered with a
  graph, unless one in lower case was before. -/
  missed : ∀ tag v, s.variants.get (some tag) = .ok v → toLower v.name ≠ v.name →
    ¬ WasRead asks (toLower tag) → ∀ tag', toLower tag' = toLower tag →
    (s.get (some tag)).2.isLoaded tag' = false

/-- **What is kept** tells so. -/
theorem Keeps.tells (h : Keeps p s) : Tells p.asks s where
  isLoaded := fun tag => h.isLoaded_iff
  serves := fun tag v htag => h.serves_iff htag
  agree := by
    intro tag v htag hlower
    rw [h.isLoaded_iff, h.serves_iff htag, h.toLower_eq htag, hlower]
  unregistered := by
    intro tag f htag
    refine ⟨Bool.eq_false_iff.2 fun hloaded => ?_, fun hserves => ?_⟩
    · obtain ⟨v, hv⟩ := h.registered_of_wasRead (h.isLoaded_iff.1 hloaded)
      exact absurd (htag.symm.trans hv) nofun
    · obtain ⟨v, g, hv, -⟩ := serves_iff_kept.1 hserves
      exact absurd (htag.symm.trans hv) nofun
  after_get := by
    intro tag v g htag hlower hok tag' hsame
    have hname : toLower tag' = v.name := by rw [hsame, h.toLower_eq htag, hlower]
    rw [h.variants_eq] at htag
    rw [h.get_eq htag] at hok ⊢
    refine Table.contains_iff.2 ⟨g, ?_⟩
    rw [hname]
    exact graphOf_kept hok
  after_preload := by
    intro hok tag v htag hlower
    refine Table.contains_iff.2 ?_
    rw [h.toLower_eq htag, hlower]
    exact h.preload_kept hok htag
  missed := by
    intro tag v htag hlower hunread tag' hsame
    have hother : v.name ≠ toLower tag' := by
      rw [hsame, h.toLower_eq htag]
      exact hlower.symm
    have hafter := h.getTag (some tag)
    rw [h.variants_eq] at htag
    rw [Past.askTag, htag] at hafter
    refine Bool.eq_false_iff.2 fun hloaded => ?_
    obtain ⟨ask, hask, hname, hread⟩ := hafter.isLoaded_iff.1 hloaded
    rcases List.mem_append.1 hask with hask | hask
    · exact hunread ⟨ask, hask, hname.trans hsame, hread⟩
    · obtain rfl := List.mem_singleton.1 hask
      exact hother hname

/-- **Every run** tells of tags in lower case whether they are loaded. -/
theorem tells_lower_case (directory : Directory) (run : List Step) :
    Tells (past directory run).asks ((Stores.unread .empty directory).steps run) :=
  (keeps_past directory run).tells

/-- A variant that is not in lower case is answered with a graph that was read, and is told not to
be loaded. -/
theorem not_isLoaded_iff_serves :
    ¬ ∀ (directory : Directory) (run : List Step) (tag : String),
      ((Stores.unread .empty directory).steps run).isLoaded tag = true
        ↔ Serves ((Stores.unread .empty directory).steps run) tag := by
  intro h
  let directory : Directory := ⟨[("github.ttl", [])], by decide⟩
  let github : Variant := ⟨"GitHub", .paginated, "github.ttl", "http://github", none⟩
  let run : List Step :=
    [.register ⟨"GitHub", "paginated", "github.ttl", "http://github", none⟩,
      .act (.get (some "github"))]
  have hkeeps := keeps_past directory run
  have htag : ((Stores.unread .empty directory).steps run).variants.get (some "github")
      = .ok github := by
    rw [hkeeps.variants_eq]
    rfl
  have hread : (Turtle.read "file:///github.ttl" (.ofList [])).isSome = true := by decide +kernel
  obtain ⟨g, hg⟩ := Option.isSome_iff_exists.1 hread
  have hspells : Spells directory "github.ttl" g :=
    ⟨[], [], Table.get?_eq_some_iff.2 (.head _), Utf8.decode_encode [], hg⟩
  have hserves := (hkeeps.serves_iff htag).2
    ⟨⟨github, directory⟩, List.mem_singleton.2 rfl, rfl, g, hspells⟩
  obtain ⟨ask, hask, hname, -⟩ := hkeeps.isLoaded_iff.1 ((h directory run "github").2 hserves)
  obtain rfl := List.mem_singleton.1 hask
  exact absurd hname (by decide)

end ConceptQuery.Ontology
