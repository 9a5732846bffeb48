import ConceptQuery.Formulation
import ConceptQuery.Proofs.Variant.Registry

/-!
# Graphs that were read once

As long as variants and documents do not change, the graphs that were read so far make no difference
to any answer.

* `Stores.unread` — stores before any document was read;
* `Stores.Faithful` — every graph that is kept is the one its document gives;
* `Faithful.get`, `Faithful.target`, `Faithful.subEntity`, `Faithful.formulate` — faithful stores
  answer as unread ones do, and stay faithful.
-/

namespace ConceptQuery.Ontology

/-- Stores before any document was read. -/
def Stores.unread (variants : Registry) (directory : Directory) : Stores :=
  { variants, directory }

/-- Every graph that is kept is the one that the document of its variant gives. -/
structure Stores.Faithful (variants : Registry) (directory : Directory) (s : Stores) : Prop where
  variants_eq : s.variants = variants
  directory_eq : s.directory = directory
  graph_eq : ∀ tag v g, variants.get tag = .ok v → s.graphs.get? v.name = some g →
    readDocument directory v.ontologyFile = some g

namespace Stores

variable {variants : Registry} {directory : Directory} {s : Stores}

theorem faithful_unread (variants : Registry) (directory : Directory) :
    (unread variants directory).Faithful variants directory where
  variants_eq := rfl
  directory_eq := rfl
  graph_eq := by
    intro tag v g _ hg
    cases hg

theorem graphOf_unread (variants : Registry) (directory : Directory) (v : Variant) :
    ((unread variants directory).graphOf v).1 = match readDocument directory v.ontologyFile with
      | some g => .ok g
      | none => .error (.mappingLoad (.string v.name) (.string (fileName v.ontologyFile)) none) := by
  show (match readDocument directory v.ontologyFile with
    | some g => _
    | none => _ : Except Failure _ × Stores).1 = _
  cases readDocument directory v.ontologyFile <;> rfl

/-- Keeping the graph that a document gives leaves stores faithful: no other registered variant has
the same name. -/
theorem Faithful.insert (h : s.Faithful variants directory) (hv : variants.Named)
    {tag : Option String} {v : Variant} {g : Rdf.Graph} (htag : variants.get tag = .ok v)
    (hg : readDocument directory v.ontologyFile = some g) :
    ({ s with graphs := s.graphs.insert v.name g } : Stores).Faithful variants directory where
  variants_eq := h.variants_eq
  directory_eq := h.directory_eq
  graph_eq := by
    intro tag' v' g' htag' hg'
    change (s.graphs.insert v.name g).get? v'.name = some g' at hg'
    rw [Table.get?_insert] at hg'
    split at hg'
    · next hname =>
      obtain rfl := hv.eq_of_name_eq htag' htag hname
      obtain rfl := Option.some.inj hg'
      exact hg
    · exact h.graph_eq tag' v' g' htag' hg'

theorem Faithful.graphOf (h : s.Faithful variants directory) (hv : variants.Named)
    {tag : Option String} {v : Variant} (htag : variants.get tag = .ok v) :
    (s.graphOf v).1 = ((unread variants directory).graphOf v).1
      ∧ (s.graphOf v).2.Faithful variants directory := by
  rw [graphOf_unread]
  unfold Stores.graphOf
  cases hkept : s.graphs.get? v.name with
  | some g =>
    rw [h.graph_eq tag v g htag hkept]
    exact ⟨rfl, h⟩
  | none =>
    cases hread : readDocument s.directory v.ontologyFile with
    | some g =>
      rw [h.directory_eq] at hread
      rw [hread]
      exact ⟨rfl, h.insert hv htag hread⟩
    | none =>
      rw [h.directory_eq] at hread
      rw [hread]
      exact ⟨rfl, h⟩

/-- **Faithful stores answer as unread ones**, and stay faithful. -/
theorem Faithful.get (h : s.Faithful variants directory) (hv : variants.Named)
    (tag : Option String) :
    (s.get tag).1 = ((unread variants directory).get tag).1
      ∧ (s.get tag).2.Faithful variants directory := by
  unfold Stores.get
  rw [h.variants_eq, show (unread variants directory).variants = variants from rfl]
  cases htag : variants.get tag with
  | ok v => exact h.graphOf hv htag
  | error f => exact ⟨rfl, h⟩

theorem Faithful.target (h : s.Faithful variants directory) (hv : variants.Named) (label : String)
    (tag : Option String) :
    (s.target label tag).1 = ((unread variants directory).target label tag).1
      ∧ (s.target label tag).2.Faithful variants directory := by
  obtain ⟨hanswer, hafter⟩ := h.get hv tag
  exact ⟨congrArg (Except.map (resolveTarget · label)) hanswer, hafter⟩

theorem Faithful.subEntity (h : s.Faithful variants directory) (hv : variants.Named)
    (label : String) (constraint tag : Option String) :
    (s.subEntity label constraint tag).1
        = ((unread variants directory).subEntity label constraint tag).1
      ∧ (s.subEntity label constraint tag).2.Faithful variants directory := by
  obtain ⟨hanswer, hafter⟩ := h.get hv tag
  exact ⟨congrArg (Except.map (resolveSubEntity · label constraint)) hanswer, hafter⟩

/-- The formulation of an intent, told from the answers of unread stores alone. -/
def formulationOf (variants : Registry) (directory : Directory) (i : Intent) :
    Except Failure Formulation := do
  let target ← ((unread variants directory).target i.target (some i.api)).1
  let subEntity ← ((unread variants directory).subEntity i.subEntity i.constraint (some i.api)).1
  (compile variants i target subEntity).map fun query => { intent := i, target, subEntity, query }

theorem Faithful.formulate_eq (h : s.Faithful variants directory) (hv : variants.Named)
    (i : Intent) :
    (i.formulate s).1 = formulationOf variants directory i
      ∧ (i.formulate s).2.Faithful variants directory := by
  unfold Intent.formulate formulationOf
  obtain ⟨htarget, hs₁⟩ := h.target hv i.target (some i.api)
  rw [← htarget]
  rcases htarget' : s.target i.target (some i.api) with ⟨a, s₁⟩
  rw [htarget'] at hs₁
  cases a with
  | error f => exact ⟨rfl, hs₁⟩
  | ok target =>
    obtain ⟨hsub, hs₂⟩ := hs₁.subEntity hv i.subEntity i.constraint (some i.api)
    rw [← hsub]
    dsimp only
    rcases hsub' : s₁.subEntity i.subEntity i.constraint (some i.api) with ⟨b, s₂⟩
    rw [hsub'] at hs₂
    cases b with
    | error f => exact ⟨rfl, hs₂⟩
    | ok subEntity =>
      refine ⟨?_, hs₂⟩
      show (compile s₂.variants i target subEntity).map _
        = (compile variants i target subEntity).map _
      rw [hs₂.variants_eq]

/-- **Faithful stores formulate intents as unread ones**, and stay faithful. -/
theorem Faithful.formulate (h : s.Faithful variants directory) (hv : variants.Named) (i : Intent) :
    (i.formulate s).1 = (i.formulate (unread variants directory)).1
      ∧ (i.formulate s).2.Faithful variants directory := by
  obtain ⟨hanswer, hafter⟩ := h.formulate_eq hv i
  obtain ⟨hunread, -⟩ := (faithful_unread variants directory).formulate_eq hv i
  exact ⟨hanswer.trans hunread.symm, hafter⟩

end Stores

end ConceptQuery.Ontology
