import ConceptQuery.Proofs.Ontology.Loading

/-!
# Runs in which variants are registered

Graphs are kept under the names of variants as they are spelled, so what is kept is told by the
names that were asked for, whatever was registered since.

* `Step`, `Stores.step`, `Stores.steps` — runs of stores with registrations;
* `Past`, `Past.step`, `past` — the variants, the documents and what was asked for so far;
* `FirstKept`, `kept?_eq_some_iff`, `kept?_eq_none_iff` — the first ask of a name that had a graph;
* `Keeps`, `Keeps.graphOf`, `Keeps.getAll`, `Keeps.step`, `keeps_past` — what is kept is told by the
  past, step by step;
* `Keeps.get_eq_ok_iff`, `Keeps.get_eq_error_iff` — the graph of a variant now.
-/

namespace ConceptQuery.Ontology

open Rdf Text

/-! ### Runs -/

/-- A variant is registered, or something is asked for or happens to the documents. -/
inductive Step where
  | register (d : Variant.Description)
  | act (a : Action)

/-- The stores after a step. A variant whose template does not exist is refused. -/
def Stores.step (s : Stores) : Step → Stores
  | .register d =>
    match s.register d with
    | .ok s' => s'
    | .error _ => s
  | .act a => s.after a

/-- The stores after steps, one after the other. -/
def Stores.steps (s : Stores) (run : List Step) : Stores :=
  run.foldl Stores.step s

/-- The registered variants, the documents, and what was asked for so far, the earliest first. -/
structure Past where
  variants : Registry
  directory : Directory
  asks : List Ask

namespace Past

/-- The first graph of a name. -/
def kept? (p : Past) (name : String) : Option Graph :=
  p.asks.findSome? fun ask =>
    if ask.variant.name = name then readDocument ask.directory ask.variant.ontologyFile else none

/-- A variant is asked for now. -/
def ask (p : Past) (v : Variant) : Past :=
  { p with asks := p.asks ++ [⟨v, p.directory⟩] }

/-- The graph of a variant that is asked for now. -/
def now? (p : Past) (v : Variant) : Option Graph :=
  (p.ask v).kept? v.name

/-- Variants are asked for one after the other, up to the first that has no graph. -/
def askAll (p : Past) : List Variant → Past
  | [] => p
  | v :: rest => if (p.now? v).isSome then (p.ask v).askAll rest else p.ask v

/-- The variant registered under a tag is asked for, if there is one. -/
def askTag (p : Past) (tag : Option String) : Past :=
  match p.variants.get tag with
  | .ok v => p.ask v
  | .error _ => p

/-- The past after an action. -/
def after (p : Past) : Action → Past
  | .get tag | .target _ tag | .subEntity _ _ tag => p.askTag tag
  | .preload => p.askAll p.variants.variants
  | .isLoaded _ => p
  | .write file bytes => { p with directory := p.directory.insert file bytes }
  | .remove file => { p with directory := p.directory.erase file }

/-- The past after a step. -/
def step (p : Past) : Step → Past
  | .register d =>
    match p.variants.register d with
    | .ok variants => { p with variants }
    | .error _ => p
  | .act a => p.after a

end Past

/-- The past of steps from the first documents on, and without variants at first. -/
def past (directory : Directory) (run : List Step) : Past :=
  run.foldl Past.step ⟨.empty, directory, []⟩

/-! ### The first graph of a name -/

/-- The graph of the first ask of a name whose document could be read. -/
def FirstKept (asks : List Ask) (name : String) (g : Graph) : Prop :=
  ∃ earlier ask later, asks = earlier ++ ask :: later ∧ ask.variant.name = name
    ∧ Spells ask.directory ask.variant.ontologyFile g
    ∧ ∀ e ∈ earlier, e.variant.name = name → Faulty e.directory e.variant.ontologyFile

/-- No document could be read that was asked for under a name. -/
def NeverKept (asks : List Ask) (name : String) : Prop :=
  ∀ ask ∈ asks, ask.variant.name = name → Faulty ask.directory ask.variant.ontologyFile

variable {p : Past} {s : Stores} {v : Variant} {vs : List Variant} {name : String} {g : Graph}
  {tag : Option String}

theorem kept?_eq_some_iff : p.kept? name = some g ↔ FirstKept p.asks name g := by
  unfold Past.kept? FirstKept
  simp only [findSome?_ite_eq_some_iff, readDocument_eq_some_iff, readDocument_eq_none_iff]

theorem kept?_eq_none_iff : p.kept? name = none ↔ NeverKept p.asks name := by
  unfold Past.kept? NeverKept
  simp only [findSome?_ite_eq_none_iff, readDocument_eq_none_iff]

/-- A name has a first graph if one of its asks had one. -/
theorem kept?_isSome_iff : (∃ g, p.kept? name = some g) ↔ ∃ ask ∈ p.asks, ask.variant.name = name
    ∧ ∃ g, Spells ask.directory ask.variant.ontologyFile g := by
  unfold Past.kept?
  simp only [findSome?_ite_isSome_iff, readDocument_eq_some_iff]

/-- Asking for a variant makes a difference to its name only. -/
theorem kept?_ask : (p.ask v).kept? name
    = (p.kept? name).or
      (if v.name = name then readDocument p.directory v.ontologyFile else none) := by
  unfold Past.kept? Past.ask
  rw [List.findSome?_append, List.findSome?_singleton]

theorem pastNow?_eq : p.now? v = (p.kept? v.name).or (readDocument p.directory v.ontologyFile) := by
  rw [Past.now?, kept?_ask, if_pos rfl]

/-! ### What is kept -/

/-- What a variant is answered with that is asked for now. -/
def Past.answer (p : Past) (v : Variant) : Except Failure Graph :=
  match p.now? v with
  | some g => .ok g
  | none => .error (unreadable v)

/-- Stores keep the first graphs of all names, and nothing else. Variants stand under their own
tags, and the tags of all that was asked for are still registered. -/
structure Keeps (p : Past) (s : Stores) : Prop where
  variants_eq : s.variants = p.variants
  directory_eq : s.directory = p.directory
  graphs_eq : ∀ name, s.graphs.get? name = p.kept? name
  named : p.variants.Named
  asked : ∀ ask ∈ p.asks, ∃ u, p.variants.get (some ask.variant.name) = .ok u

theorem keeps_unread (directory : Directory) :
    Keeps ⟨.empty, directory, []⟩ (.unread .empty directory) where
  variants_eq := rfl
  directory_eq := rfl
  graphs_eq := fun _ => rfl
  named := Registry.named_empty
  asked := nofun

/-- Asking for a registered variant leaves stores to keep the graphs that they should, if these are
what they have. -/
theorem Keeps.ask (h : Keeps p s) (hv : p.variants.get (some v.name) = .ok v)
    {graphs : Table Graph} (hgraphs : ∀ name, graphs.get? name = (p.ask v).kept? name) :
    Keeps (p.ask v) { s with graphs } where
  variants_eq := h.variants_eq
  directory_eq := h.directory_eq
  graphs_eq := hgraphs
  named := h.named
  asked := by
    intro ask hask
    rcases List.mem_append.1 hask with hask | hask
    · exact h.asked ask hask
    · obtain rfl := List.mem_singleton.1 hask
      exact ⟨v, hv⟩

/-- **Asking for one variant.** The cases are what is kept under its name, and its document. -/
theorem Keeps.graphOf (h : Keeps p s) (hv : p.variants.get (some v.name) = .ok v) :
    (s.graphOf v).1 = p.answer v ∧ Keeps (p.ask v) (s.graphOf v).2 := by
  have hkept := h.graphs_eq v.name
  have hsame (hnone : p.kept? v.name = none → readDocument p.directory v.ontologyFile = none)
      (name : String) : s.graphs.get? name = (p.ask v).kept? name := by
    rw [h.graphs_eq, kept?_ask]
    split
    · next hname =>
      subst hname
      cases hfirst : p.kept? v.name with
      | some g => rfl
      | none => rw [hnone hfirst]; rfl
    · rw [Option.or_none]
  unfold Stores.graphOf Past.answer
  rw [pastNow?_eq, hkept]
  cases hfirst : p.kept? v.name with
  | some g => exact ⟨rfl, h.ask hv (hsame fun hnone => absurd (hfirst.symm.trans hnone) nofun)⟩
  | none =>
    cases hread : readDocument s.directory v.ontologyFile with
    | none =>
      rw [h.directory_eq] at hread
      rw [hread]
      exact ⟨rfl, h.ask hv (hsame fun _ => hread)⟩
    | some g =>
      rw [h.directory_eq] at hread
      rw [hread]
      refine ⟨rfl, h.ask hv fun name => ?_⟩
      rw [Table.get?_insert, kept?_ask]
      by_cases hname : name = v.name
      · rw [if_pos hname, if_pos hname.symm, hname, hfirst, hread]
        rfl
      · rw [if_neg hname, if_neg (Ne.symm hname), Option.or_none, h.graphs_eq]

/-- A variant that is found is found under its own name. -/
theorem Keeps.get_name (h : Keeps p s) (htag : p.variants.get tag = .ok v) :
    p.variants.get (some v.name) = .ok v :=
  h.named.get_of_mem (Registry.mem_variants_of_get htag) rfl

theorem Keeps.get_eq (h : Keeps p s) (htag : p.variants.get tag = .ok v) :
    s.get tag = s.graphOf v := by
  unfold Stores.get
  rw [h.variants_eq, htag]

/-- Asking by a tag. -/
theorem Keeps.getTag (h : Keeps p s) (tag : Option String) :
    Keeps (p.askTag tag) (s.get tag).2 := by
  unfold Stores.get Past.askTag
  rw [h.variants_eq]
  cases htag : p.variants.get tag with
  | ok v => exact (h.graphOf (h.get_name htag)).2
  | error f => exact h

/-- Asking for variants in order. -/
theorem Keeps.getAll (h : Keeps p s) (hvs : ∀ v ∈ vs, p.variants.get (some v.name) = .ok v) :
    Keeps (p.askAll vs) (s.getAll vs).2 := by
  induction vs generalizing p s with
  | nil => exact h
  | cons v vs ih =>
    have hv := hvs v List.mem_cons_self
    obtain ⟨hanswer, hafter⟩ := h.graphOf hv
    rw [← h.get_eq hv] at hanswer hafter
    unfold Stores.getAll Past.askAll
    unfold Past.answer at hanswer
    rcases hget : s.get (some v.name) with ⟨answer, s'⟩
    rw [hget] at hanswer hafter
    cases hnow : p.now? v with
    | none =>
      rw [hnow] at hanswer
      cases hanswer
      exact hafter
    | some g =>
      rw [hnow] at hanswer
      cases hanswer
      exact ih hafter fun u hu => hvs u (List.mem_cons_of_mem v hu)

theorem Keeps.preload (h : Keeps p s) :
    Keeps (p.askAll p.variants.variants) s.preload.2 := by
  unfold Stores.preload
  rw [h.variants_eq]
  exact h.getAll fun v hv => h.named.get_of_mem hv rfl

/-- A tag stays registered when a variant is added or replaced. -/
theorem registered_insert {r : Registry} (h : ∃ u, r.get (some name) = .ok u) (v : Variant) :
    ∃ u, (r.insert v).get (some name) = .ok u := by
  obtain ⟨u, hu⟩ := h
  by_cases hname : toLower name = toLower v.name
  · exact ⟨v, r.get_insert hname⟩
  · refine ⟨u, Registry.get_eq_ok.2 ?_⟩
    rw [Registry.get_eq_ok] at hu
    show (r.table.insert (toLower v.name) v).get? (toLower name) = some u
    rw [Table.get?_insert_of_ne _ _ hname]
    exact hu

/-- Registering a variant. -/
theorem Keeps.register (h : Keeps p s) (d : Variant.Description) :
    Keeps (p.step (.register d)) (s.step (.register d)) := by
  show Keeps (match p.variants.register d with
      | .ok variants => { p with variants }
      | .error _ => p)
    (match (s.variants.register d).map fun variants => { s with variants } with
      | .ok s' => s'
      | .error _ => s)
  rw [h.variants_eq]
  cases hd : p.variants.register d with
  | error f => exact h
  | ok variants =>
    refine ⟨rfl, h.directory_eq, h.graphs_eq, h.named.register hd, fun ask hask => ?_⟩
    obtain ⟨v, -, rfl⟩ := Except.map_eq_ok.1 hd
    exact registered_insert (h.asked ask hask) v

/-- **One step.** -/
theorem Keeps.step (h : Keeps p s) (step : Step) : Keeps (p.step step) (s.step step) := by
  cases step with
  | register d => exact h.register d
  | act a =>
    cases a with
    | get tag => exact h.getTag tag
    | target label tag => exact h.getTag tag
    | subEntity label constraint tag => exact h.getTag tag
    | preload => exact h.preload
    | isLoaded tag => exact h
    | write file bytes =>
      exact ⟨h.variants_eq, congrArg (·.insert file bytes) h.directory_eq, h.graphs_eq, h.named,
        h.asked⟩
    | remove file =>
      exact ⟨h.variants_eq, congrArg (·.erase file) h.directory_eq, h.graphs_eq, h.named, h.asked⟩

/-- A run, whatever went before. -/
theorem Keeps.steps (h : Keeps p s) (run : List Step) :
    Keeps (run.foldl Past.step p) (s.steps run) := by
  induction run generalizing p s with
  | nil => exact h
  | cons step run ih => exact ih (h.step step)

/-- **Every run** of stores that were built without variants keeps what its past tells. -/
theorem keeps_past (directory : Directory) (run : List Step) :
    Keeps (past directory run) ((Stores.unread .empty directory).steps run) :=
  (keeps_unread directory).steps run

/-! ### Asking now -/

theorem pastNow?_eq_some_iff :
    p.now? v = some g ↔ FirstKept (p.asks ++ [⟨v, p.directory⟩]) v.name g :=
  kept?_eq_some_iff

theorem pastNow?_eq_none_iff :
    p.now? v = none ↔ NeverKept (p.asks ++ [⟨v, p.directory⟩]) v.name :=
  kept?_eq_none_iff

/-- The graph of a variant is the first one of its name, of those before and the one now. -/
theorem Keeps.get_eq_ok_iff (h : Keeps p s) (htag : p.variants.get tag = .ok v) :
    (s.get tag).1 = .ok g ↔ FirstKept (p.asks ++ [⟨v, p.directory⟩]) v.name g := by
  rw [h.get_eq htag, (h.graphOf (h.get_name htag)).1, ← pastNow?_eq_some_iff]
  unfold Past.answer
  cases p.now? v <;> simp

/-- It cannot be read if no document could be read that was asked for under its name, nor can its
own now. -/
theorem Keeps.get_eq_error_iff (h : Keeps p s) (htag : p.variants.get tag = .ok v) {f : Failure} :
    (s.get tag).1 = .error f ↔
      f = unreadable v ∧ NeverKept (p.asks ++ [⟨v, p.directory⟩]) v.name := by
  rw [h.get_eq htag, (h.graphOf (h.get_name htag)).1, ← pastNow?_eq_none_iff]
  unfold Past.answer
  cases p.now? v <;> simp [eq_comm]

end ConceptQuery.Ontology
