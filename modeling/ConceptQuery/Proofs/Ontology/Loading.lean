import ConceptQuery.Proofs.Ontology.Stores
import ConceptQuery.Proofs.Text.Utf8

/-!
# Graphs are read once

Whatever is asked of stores and whatever happens to the documents, the graph of a variant is the one
that its document gave when a load of it succeeded for the first time.

* `Spells`, `Faulty`, `Spells.unique`, `Spells.not_faulty` — documents that can and cannot be read;
* `Action`, `Stores.after`, `Stores.run` — runs of stores;
* `Ask`, `History`, `History.after`, `history` — what was asked for in a run, and when;
* `FirstLoad`, `NeverLoaded`, `graph?_eq_some_iff`, `graph?_eq_none_iff` — the first load of a
  variant that succeeded;
* `Remembers`, `Remembers.graphOf`, `Remembers.getAll`, `Remembers.after` — what is kept is told by
  the history, step by step;
* `LoadsOnce`, `loads_once` — runs.
-/

namespace ConceptQuery.Ontology

open Rdf Text

/-! ### Documents -/

/-- A document is there, in UTF-8, and spells a graph. -/
def Spells (directory : Directory) (file : String) (g : Graph) : Prop :=
  ∃ bytes chars, directory.get? file = some bytes ∧ Utf8.decode bytes = .ok chars
    ∧ Turtle.read ("file:///" ++ file) (.ofList chars) = some g

/-- A document is missing, or is no UTF-8, or is no Turtle. -/
def Faulty (directory : Directory) (file : String) : Prop :=
  directory.get? file = none ∨ ∃ bytes, directory.get? file = some bytes
    ∧ ((∃ e, Utf8.decode bytes = .error e)
      ∨ ∃ chars, Utf8.decode bytes = .ok chars
        ∧ Turtle.read ("file:///" ++ file) (.ofList chars) = none)

variable {directory : Directory} {file : String} {g : Graph}

theorem readDocument_eq_some_iff :
    readDocument directory file = some g ↔ Spells directory file g := by
  unfold readDocument Spells
  cases directory.get? file with
  | none => simp
  | some bytes =>
    cases hdecode : Utf8.decode bytes with
    | error e => simp [hdecode, Except.toOption]
    | ok chars => simp [hdecode, Except.toOption]

theorem readDocument_eq_none_iff : readDocument directory file = none ↔ Faulty directory file := by
  unfold readDocument Faulty
  cases directory.get? file with
  | none => simp
  | some bytes =>
    cases hdecode : Utf8.decode bytes with
    | error e => simp [hdecode, Except.toOption]
    | ok chars => simp [hdecode, Except.toOption]

/-- A document spells one graph. -/
theorem Spells.unique {g' : Graph} (h : Spells directory file g)
    (h' : Spells directory file g') : g = g' := by
  rw [← readDocument_eq_some_iff] at h h'
  exact Option.some.inj (h.symm.trans h')

theorem Spells.not_faulty (h : Spells directory file g) :
    ¬ Faulty directory file := by
  rw [← readDocument_eq_none_iff, readDocument_eq_some_iff.2 h]
  exact nofun

/-! ### Runs -/

/-- What may be asked of stores, and what may happen to the documents. -/
inductive Action where
  | get (tag : Option String)
  | preload
  | target (label : String) (tag : Option String)
  | subEntity (label : String) (constraint tag : Option String)
  | isLoaded (tag : String)
  | write (file : String) (bytes : List UInt8)
  | remove (file : String)

/-- The stores after an action. -/
def Stores.after (s : Stores) : Action → Stores
  | .get tag => (s.get tag).2
  | .preload => s.preload.2
  | .target label tag => (s.target label tag).2
  | .subEntity label constraint tag => (s.subEntity label constraint tag).2
  | .isLoaded _ => s
  | .write file bytes => s.write file bytes
  | .remove file => s.remove file

/-- The stores after actions, one after the other. -/
def Stores.run (s : Stores) (actions : List Action) : Stores :=
  actions.foldl Stores.after s

/-- A variant that was asked for, and the documents at this time. -/
structure Ask where
  variant : Variant
  directory : Directory

/-- The graph of the first load of a variant that succeeded. -/
def FirstLoad (asks : List Ask) (v : Variant) (g : Graph) : Prop :=
  ∃ earlier ask later, asks = earlier ++ ask :: later ∧ ask.variant = v
    ∧ Spells ask.directory v.ontologyFile g
    ∧ ∀ e ∈ earlier, e.variant = v → Faulty e.directory v.ontologyFile

/-- No load of a variant succeeded. -/
def NeverLoaded (asks : List Ask) (v : Variant) : Prop :=
  ∀ ask ∈ asks, ask.variant = v → Faulty ask.directory v.ontologyFile

/-- The documents as they are, and what was asked for so far, the earliest first. -/
structure History where
  directory : Directory
  asks : List Ask

namespace History

/-- The first graph of a variant. -/
def graph? (h : History) (v : Variant) : Option Graph :=
  h.asks.findSome? fun ask =>
    if ask.variant = v then readDocument ask.directory v.ontologyFile else none

/-- A variant is asked for now. -/
def ask (h : History) (v : Variant) : History :=
  { h with asks := h.asks ++ [⟨v, h.directory⟩] }

/-- The graph of a variant that is asked for now. -/
def now? (h : History) (v : Variant) : Option Graph :=
  (h.ask v).graph? v

/-- Variants are asked for one after the other, up to the first that has no graph. -/
def askAll (h : History) : List Variant → History
  | [] => h
  | v :: rest => if (h.now? v).isSome then (h.ask v).askAll rest else h.ask v

/-- The variant registered under a tag is asked for, if there is one. -/
def askTag (variants : Registry) (h : History) (tag : Option String) : History :=
  match variants.get tag with
  | .ok v => h.ask v
  | .error _ => h

/-- The history after an action: preloading asks for all variants in the order of registration. -/
def after (variants : Registry) (h : History) : Action → History
  | .get tag | .target _ tag | .subEntity _ _ tag => h.askTag variants tag
  | .preload => h.askAll variants.variants
  | .isLoaded _ => h
  | .write file bytes => { h with directory := h.directory.insert file bytes }
  | .remove file => { h with directory := h.directory.erase file }

end History

/-- The history of actions from the first documents on. -/
def history (variants : Registry) (directory : Directory) (actions : List Action) : History :=
  actions.foldl (History.after variants) ⟨directory, []⟩

/-! ### First loads -/

variable {h : History} {v u : Variant} {vs : List Variant}

/-- The first result among those that count. -/
theorem findSome?_ite_eq_some_iff {α β : Type} {p : α → Prop} [DecidablePred p] {f : α → Option β}
    {xs : List α} {b : β} : (xs.findSome? fun a => if p a then f a else none) = some b ↔
      ∃ earlier a later, xs = earlier ++ a :: later ∧ p a ∧ f a = some b
        ∧ ∀ e ∈ earlier, p e → f e = none := by
  rw [List.findSome?_eq_some_iff]
  refine exists_congr fun earlier => exists_congr fun a => exists_congr fun later => ?_
  by_cases ha : p a
  · rw [if_pos ha]
    simp [ha]
  · rw [if_neg ha]
    simp [ha]

theorem findSome?_ite_eq_none_iff {α β : Type} {p : α → Prop} [DecidablePred p] {f : α → Option β}
    {xs : List α} : (xs.findSome? fun a => if p a then f a else none) = none ↔
      ∀ a ∈ xs, p a → f a = none := by
  rw [List.findSome?_eq_none_iff]
  refine forall₂_congr fun a _ => ?_
  by_cases ha : p a
  · simp [ha]
  · simp [ha]

theorem findSome?_ite_isSome_iff {α β : Type} {p : α → Prop} [DecidablePred p] {f : α → Option β}
    {xs : List α} : (∃ b, (xs.findSome? fun a => if p a then f a else none) = some b) ↔
      ∃ a ∈ xs, p a ∧ ∃ b, f a = some b := by
  rw [← Option.isSome_iff_exists, List.findSome?_isSome_iff]
  refine exists_congr fun a => and_congr_right fun _ => ?_
  by_cases ha : p a
  · simp [ha, Option.isSome_iff_exists]
  · simp [ha]

theorem graph?_eq_some_iff : h.graph? v = some g ↔ FirstLoad h.asks v g := by
  unfold History.graph? FirstLoad
  simp only [findSome?_ite_eq_some_iff, readDocument_eq_some_iff, readDocument_eq_none_iff]

theorem graph?_eq_none_iff : h.graph? v = none ↔ NeverLoaded h.asks v := by
  unfold History.graph? NeverLoaded
  simp only [findSome?_ite_eq_none_iff, readDocument_eq_none_iff]

/-- Asking for a variant makes a difference to its graph only. -/
theorem graph?_ask : (h.ask v).graph? u
    = (h.graph? u).or (if v = u then readDocument h.directory u.ontologyFile else none) := by
  unfold History.graph? History.ask
  rw [List.findSome?_append, List.findSome?_singleton]

theorem now?_eq : h.now? v = (h.graph? v).or (readDocument h.directory v.ontologyFile) := by
  rw [History.now?, graph?_ask, if_pos rfl]

/-- Asking twice is asking once. -/
theorem now?_ask : (h.ask v).now? u = h.now? u := by
  rw [now?_eq, now?_eq, graph?_ask]
  show ((h.graph? u).or _).or (readDocument h.directory u.ontologyFile) = _
  split
  · rw [Option.or_assoc, Option.or_self]
  · rw [Option.or_none]

/-! ### What is kept -/

/-- The failure of a document that cannot be read. -/
def unreadable (v : Variant) : Failure :=
  .mappingLoad (.string v.name) (.string (fileName v.ontologyFile)) none

/-- Stores keep the first graphs of the registered variants, and nothing else. -/
structure Remembers (variants : Registry) (h : History) (s : Stores) : Prop where
  variants_eq : s.variants = variants
  directory_eq : s.directory = h.directory
  graph_eq : ∀ v ∈ variants.variants, s.graphs.get? v.name = h.graph? v
  registered : ∀ name g, s.graphs.get? name = some g → ∃ v ∈ variants.variants, v.name = name

variable {variants : Registry} {s : Stores} {tag : Option String}

theorem remembers_unread (variants : Registry) (directory : Directory) :
    Remembers variants ⟨directory, []⟩ (.unread variants directory) where
  variants_eq := rfl
  directory_eq := rfl
  graph_eq := fun _ _ => rfl
  registered := nofun

/-- What a variant is answered with that is asked for now. -/
def History.answer (h : History) (v : Variant) : Except Failure Graph :=
  match h.now? v with
  | some g => .ok g
  | none => .error (unreadable v)

/-- Asking for a variant whose graph is not read now. -/
theorem Remembers.ask (hr : Remembers variants h s) (hsame : h.now? v = h.graph? v) :
    Remembers variants (h.ask v) s where
  variants_eq := hr.variants_eq
  directory_eq := hr.directory_eq
  graph_eq := by
    intro u hu
    by_cases huv : v = u
    · rw [hr.graph_eq u hu, ← huv]
      exact hsame.symm
    · rw [hr.graph_eq u hu, graph?_ask, if_neg huv, Option.or_none]
  registered := hr.registered

/-- Keeping a graph that was read for the first time. -/
theorem Remembers.insert (hr : Remembers variants h s) (hnamed : variants.Named)
    (hv : v ∈ variants.variants) (hnow : h.now? v = some g) :
    Remembers variants (h.ask v) { s with graphs := s.graphs.insert v.name g } where
  variants_eq := hr.variants_eq
  directory_eq := hr.directory_eq
  graph_eq := by
    intro u hu
    rw [Table.get?_insert]
    split
    · next hname =>
      obtain rfl := hnamed.eq_of_mem hu hv hname
      exact hnow.symm
    · next hname =>
      have huv : v ≠ u := fun heq => hname (heq ▸ rfl)
      rw [hr.graph_eq u hu, graph?_ask, if_neg huv, Option.or_none]
  registered := by
    intro name g' hg'
    rw [Table.get?_insert] at hg'
    split at hg'
    · next hname => exact ⟨v, hv, hname.symm⟩
    · exact hr.registered name g' hg'

/-- **Asking for one variant.** Its graph is the first one, or its document cannot be read; in this
case nothing changes. -/
theorem Remembers.graphOf (hr : Remembers variants h s) (hnamed : variants.Named)
    (hv : v ∈ variants.variants) : (s.graphOf v).1 = h.answer v
      ∧ Remembers variants (h.ask v) (s.graphOf v).2
      ∧ (h.now? v = none → (s.graphOf v).2 = s) := by
  have hkept := hr.graph_eq v hv
  unfold Stores.graphOf History.answer
  rw [hkept]
  cases hfirst : h.graph? v with
  | some g =>
    have hnow : h.now? v = some g := by rw [now?_eq, hfirst, Option.some_or]
    rw [hnow]
    exact ⟨rfl, hr.ask (hnow.trans hfirst.symm), fun _ => rfl⟩
  | none =>
    have hnow : h.now? v = readDocument h.directory v.ontologyFile := by
      rw [now?_eq, hfirst, Option.none_or]
    cases hread : readDocument s.directory v.ontologyFile with
    | some g =>
      rw [hr.directory_eq] at hread
      rw [hnow, hread]
      exact ⟨rfl, hr.insert hnamed hv (hnow.trans hread), nofun⟩
    | none =>
      rw [hr.directory_eq] at hread
      rw [hnow, hread]
      exact ⟨rfl, hr.ask ((hnow.trans hread).trans hfirst.symm), fun _ => rfl⟩

theorem Remembers.get (hr : Remembers variants h s) (htag : variants.get tag = .ok v) :
    s.get tag = s.graphOf v := by
  unfold Stores.get
  rw [hr.variants_eq, htag]

/-- Asking by a tag. -/
theorem Remembers.getTag (hr : Remembers variants h s) (hnamed : variants.Named)
    (tag : Option String) : Remembers variants (h.askTag variants tag) (s.get tag).2 := by
  unfold Stores.get History.askTag
  rw [hr.variants_eq]
  cases htag : variants.get tag with
  | ok v => exact (hr.graphOf hnamed (Registry.mem_variants_of_get htag)).2.1
  | error f => exact hr

/-- How far asking for variants in order comes: those that are done have a graph, and the first of
the rest has none. -/
structure Reaches (h : History) (vs done rest : List Variant) : Prop where
  split : vs = done ++ rest
  done : ∀ u ∈ done, (h.now? u).isSome
  stop : ∀ v ∈ rest.head?, h.now? v = none

/-- **Asking for variants in order** goes up to the first that has no graph, and changes the graphs
of those before it only. -/
theorem Remembers.getAll (hr : Remembers variants h s) (hnamed : variants.Named)
    (hvs : ∀ v ∈ vs, v ∈ variants.variants) : ∃ done rest, Reaches h vs done rest
      ∧ (s.getAll vs).1 = (match rest with | [] => .ok () | v :: _ => .error (unreadable v))
      ∧ Remembers variants (h.askAll vs) (s.getAll vs).2
      ∧ ∀ u, (h.askAll vs).graph? u = if u ∈ done then h.now? u else h.graph? u := by
  induction vs generalizing h s with
  | nil => exact ⟨[], [], ⟨rfl, nofun, nofun⟩, rfl, hr, fun u => (if_neg List.not_mem_nil).symm⟩
  | cons v vs ih =>
    have hv := hvs v List.mem_cons_self
    obtain ⟨hanswer, hafter, -⟩ := hr.graphOf hnamed hv
    rw [← hr.get (hnamed.get_of_mem hv rfl)] at hanswer hafter
    unfold Stores.getAll History.askAll
    unfold History.answer at hanswer
    rcases hget : s.get (some v.name) with ⟨answer, s'⟩
    rw [hget] at hanswer hafter
    cases hnow : h.now? v with
    | none =>
      rw [hnow] at hanswer
      cases hanswer
      refine ⟨[], v :: vs, ⟨rfl, nofun, ?_⟩, rfl, hafter, fun u => ?_⟩
      · rintro _ ⟨⟩
        exact hnow
      · rw [now?_eq, Option.or_eq_none_iff] at hnow
        show (h.ask v).graph? u = _
        rw [if_neg List.not_mem_nil, graph?_ask]
        split
        · next huv => rw [← huv, hnow.1, hnow.2]; rfl
        · exact Option.or_none
    | some g =>
      rw [hnow] at hanswer
      cases hanswer
      obtain ⟨done, rest, hreaches, hfirst, hrest, hgraphs⟩ :=
        ih hafter fun u hu => hvs u (List.mem_cons_of_mem v hu)
      refine ⟨v :: done, rest, ⟨?_, ?_, ?_⟩, hfirst, hrest, fun u => ?_⟩
      · rw [hreaches.split, List.cons_append]
      · intro u hu
        rcases List.mem_cons.1 hu with rfl | hu
        · rw [hnow]
          rfl
        · rw [← now?_ask (v := v)]
          exact hreaches.done u hu
      · intro u hu
        rw [← now?_ask (v := v)]
        exact hreaches.stop u hu
      · show ((h.ask v).askAll vs).graph? u = _
        rw [hgraphs, now?_ask]
        by_cases hu : u ∈ done
        · rw [if_pos hu, if_pos (List.mem_cons_of_mem v hu)]
        · rw [if_neg hu, graph?_ask]
          by_cases huv : v = u
          · rw [if_pos huv, if_pos (huv ▸ List.mem_cons_self), now?_eq]
          · have hnot : u ∉ v :: done := fun h => (List.mem_cons.1 h).elim (huv ·.symm) hu
            rw [if_neg huv, if_neg hnot, Option.or_none]

/-- **One action.** -/
theorem Remembers.after (hr : Remembers variants h s) (hnamed : variants.Named) (a : Action) :
    Remembers variants (h.after variants a) (s.after a) := by
  cases a with
  | get tag => exact hr.getTag hnamed tag
  | target label tag => exact hr.getTag hnamed tag
  | subEntity label constraint tag => exact hr.getTag hnamed tag
  | preload =>
    obtain ⟨-, -, -, -, hafter, -⟩ := hr.getAll hnamed fun v hv => hv
    show Remembers variants _ (s.getAll s.variants.variants).2
    rw [hr.variants_eq]
    exact hafter
  | isLoaded tag => exact hr
  | write file bytes =>
    exact ⟨hr.variants_eq, congrArg (·.insert file bytes) hr.directory_eq, hr.graph_eq,
      hr.registered⟩
  | remove file =>
    exact ⟨hr.variants_eq, congrArg (·.erase file) hr.directory_eq, hr.graph_eq, hr.registered⟩

/-- A run, whatever went before. -/
theorem Remembers.run (hr : Remembers variants h s) (hnamed : variants.Named)
    (actions : List Action) :
    Remembers variants (actions.foldl (History.after variants) h) (s.run actions) := by
  induction actions generalizing h s with
  | nil => exact hr
  | cons a actions ih => exact ih (hr.after hnamed a)

/-! ### What stores come to -/

/-- An action that asks for a variant. -/
def Action.AsksFor (variants : Registry) (v : Variant) : Action → Prop
  | .get tag | .target _ tag | .subEntity _ _ tag => variants.get tag = .ok v
  | .preload => True
  | .isLoaded _ | .write _ _ | .remove _ => False

/-- What stores come to with a history. -/
structure LoadsOnce (variants : Registry) (h : History) (s : Stores) : Prop where
  /-- The graph of a variant is the one of the first load that succeeded, of those before and the
  one now. -/
  get_ok : ∀ tag v g, variants.get tag = .ok v →
    ((s.get tag).1 = .ok g ↔ FirstLoad (h.asks ++ [⟨v, h.directory⟩]) v g)
  /-- It cannot be read if and only if no load succeeded before and there is no document now that
  can be read; nothing changes then. -/
  get_failed : ∀ tag v, variants.get tag = .ok v → (s.get tag = (.error (unreadable v), s)
    ↔ NeverLoaded h.asks v ∧ Faulty h.directory v.ontologyFile)
  /-- Preloading goes through the variants in the order of registration. Those that are done have
  their graphs; the first one that cannot be read is told, and the graphs of those after it are as
  they were. -/
  preload : ∃ done rest, variants.variants = done ++ rest
    ∧ (∀ u ∈ done, ∃ g, FirstLoad (h.asks ++ [⟨u, h.directory⟩]) u g
      ∧ s.preload.2.graphs.get? u.name = some g)
    ∧ (∀ u ∈ variants.variants, u ∉ done →
      s.preload.2.graphs.get? u.name = s.graphs.get? u.name)
    ∧ match rest with
      | [] => s.preload.1 = .ok ()
      | v :: _ => s.preload.1 = .error (unreadable v) ∧ NeverLoaded h.asks v
        ∧ Faulty h.directory v.ontologyFile
  /-- A variant is loaded if a load of it succeeded. -/
  isLoaded : ∀ tag, s.isLoaded tag = true ↔ ∃ v, variants.get (some tag) = .ok v
    ∧ ∃ ask ∈ h.asks, ask.variant = v ∧ ∃ g, Spells ask.directory v.ontologyFile g
  /-- Nothing but asking for a variant makes a difference to its graph. -/
  others : ∀ a, ∀ v ∈ variants.variants, ¬ a.AsksFor variants v →
    (s.after a).graphs.get? v.name = s.graphs.get? v.name

theorem now?_eq_some_iff : h.now? v = some g ↔ FirstLoad (h.asks ++ [⟨v, h.directory⟩]) v g :=
  graph?_eq_some_iff

theorem now?_eq_none_iff :
    h.now? v = none ↔ NeverLoaded h.asks v ∧ Faulty h.directory v.ontologyFile := by
  rw [now?_eq, Option.or_eq_none_iff, graph?_eq_none_iff, readDocument_eq_none_iff]

/-- A variant has a first graph if a load of it succeeded. -/
theorem graph?_isSome_iff : (∃ g, h.graph? v = some g) ↔ ∃ ask ∈ h.asks, ask.variant = v
    ∧ ∃ g, Spells ask.directory v.ontologyFile g := by
  unfold History.graph?
  simp only [findSome?_ite_isSome_iff, readDocument_eq_some_iff]

/-- The history of an action that does not ask for a variant. -/
theorem graph?_after {a : Action} (ha : ¬ a.AsksFor variants v) :
    (h.after variants a).graph? v = h.graph? v := by
  have htag (tag : Option String) (hne : variants.get tag ≠ .ok v) :
      (h.askTag variants tag).graph? v = h.graph? v := by
    unfold History.askTag
    cases htag : variants.get tag with
    | error f => rfl
    | ok u =>
      have huv : u ≠ v := fun heq => hne (heq ▸ htag)
      rw [graph?_ask, if_neg huv, Option.or_none]
  cases a with
  | get tag => exact htag tag ha
  | target label tag => exact htag tag ha
  | subEntity label constraint tag => exact htag tag ha
  | preload => exact absurd trivial ha
  | isLoaded tag => rfl
  | write file bytes => rfl
  | remove file => rfl

/-- Stores that remember their history come to what they must. -/
theorem Remembers.loadsOnce (hr : Remembers variants h s) (hnamed : variants.Named)
    (hlower : ∀ v ∈ variants.variants, toLower v.name = v.name) : LoadsOnce variants h s where
  get_ok := by
    intro tag v g htag
    obtain ⟨hanswer, -⟩ := hr.graphOf hnamed (Registry.mem_variants_of_get htag)
    rw [hr.get htag, hanswer, ← now?_eq_some_iff, History.answer]
    cases h.now? v <;> simp
  get_failed := by
    intro tag v htag
    obtain ⟨hanswer, -, hsame⟩ := hr.graphOf hnamed (Registry.mem_variants_of_get htag)
    rw [hr.get htag, ← now?_eq_none_iff]
    rw [History.answer] at hanswer
    constructor
    · intro hfailed
      rw [hfailed] at hanswer
      cases hnow : h.now? v with
      | none => rfl
      | some g =>
        rw [hnow] at hanswer
        cases hanswer
    · intro hnow
      rw [hnow] at hanswer
      exact Prod.ext hanswer (hsame hnow)
  preload := by
    obtain ⟨done, rest, hreaches, hanswer, hafter, hgraphs⟩ := hr.getAll hnamed fun v hv => hv
    have hpreload : s.preload = s.getAll variants.variants := by
      rw [Stores.preload, hr.variants_eq]
    have hmem (u : Variant) (hu : u ∈ done) : u ∈ variants.variants :=
      hreaches.split ▸ List.mem_append_left _ hu
    rw [hpreload]
    refine ⟨done, rest, hreaches.split, fun u hu => ?_, fun u hu hnot => ?_, ?_⟩
    · obtain ⟨g, hg⟩ := Option.isSome_iff_exists.1 (hreaches.done u hu)
      refine ⟨g, now?_eq_some_iff.1 hg, ?_⟩
      rw [hafter.graph_eq u (hmem u hu), hgraphs, if_pos hu, hg]
    · rw [hafter.graph_eq u hu, hgraphs, if_neg hnot, hr.graph_eq u hu]
    · cases rest with
      | nil => exact hanswer
      | cons v rest => exact ⟨hanswer, now?_eq_none_iff.1 (hreaches.stop v rfl)⟩
  isLoaded := by
    intro tag
    show s.graphs.contains (toLower tag) = true ↔ _
    rw [Table.contains_iff]
    simp only [← graph?_isSome_iff]
    constructor
    · rintro ⟨g, hg⟩
      obtain ⟨v, hv, hname⟩ := hr.registered _ g hg
      rw [← hname, hr.graph_eq v hv] at hg
      exact ⟨v, hnamed.get_of_mem hv (hname.symm.trans (hlower v hv).symm), g, hg⟩
    · rintro ⟨v, htag, g, hg⟩
      have hv := Registry.mem_variants_of_get htag
      have hname : toLower tag = v.name :=
        (hnamed _ v (Registry.get_eq_ok.1 htag)).trans (hlower v hv)
      rw [hname, hr.graph_eq v hv]
      exact ⟨g, hg⟩
  others := by
    intro a v hv ha
    rw [(hr.after hnamed a).graph_eq v hv, hr.graph_eq v hv, graph?_after ha]

/-- **Documents are read once.** -/
theorem loads_once {ds : List Variant.Description}
    (hbuilt : Registry.ofDescriptions ds = .ok variants)
    (hlower : ∀ v ∈ variants.variants, toLower v.name = v.name) (directory : Directory)
    (actions : List Action) : LoadsOnce variants (history variants directory actions)
      ((Stores.unread variants directory).run actions) :=
  have hnamed := Registry.named_ofDescriptions hbuilt
  ((remembers_unread variants directory).run hnamed actions).loadsOnce hnamed hlower

/-- A document that is missing at first, is put there, is read, and is overwritten. -/
theorem loads_once_overwritten :
    let github : Variant := ⟨"github", .paginated, "github.ttl", "http://github", none⟩
    let variants : Registry := ⟨.ofList [("github", github)]⟩
    let document := "<a:b> <a:c> \"x\" .".toList.flatMap String.utf8EncodeChar
    let actions : List Action := [.get (some "GitHub"), .write "github.ttl" document,
      .target "user" (some "github"), .write "github.ttl" [0xFF]]
    let s := (Stores.unread variants .empty).run actions
    Registry.ofDescriptions [⟨"github", "paginated", "github.ttl", "http://github", none⟩]
        = .ok variants
      ∧ (∀ v ∈ variants.variants, toLower v.name = v.name)
      ∧ s.isLoaded "GITHUB" = true
      ∧ ∃ g, g.triples = [⟨.iri "a:b", .iri "a:c", .plain "x"⟩]
        ∧ (s.get (some "GITHUB")).1 = .ok g := by
  intro github variants document actions s
  have hbuilt : Registry.ofDescriptions
      [⟨"github", "paginated", "github.ttl", "http://github", none⟩] = .ok variants := rfl
  have hlower : ∀ v ∈ variants.variants, toLower v.name = v.name := by decide
  have hloads := loads_once hbuilt hlower .empty actions
  let written : Directory := Table.empty.insert "github.ttl" document
  have hasks : (history variants .empty actions).asks
      = [⟨github, .empty⟩, ⟨github, written⟩] := rfl
  have htriples : (Turtle.read "file:///github.ttl" (.ofList "<a:b> <a:c> \"x\" .".toList)).map
      (·.triples) = some [⟨.iri "a:b", .iri "a:c", .plain "x"⟩] := by decide +kernel
  obtain ⟨g, hg, hsame⟩ := Option.map_eq_some_iff.1 htriples
  have hspells : Spells written "github.ttl" g := ⟨document, _, rfl, Utf8.decode_encode _, hg⟩
  have hmissing : Faulty .empty "github.ttl" := .inl rfl
  refine ⟨hbuilt, hlower, (hloads.isLoaded "GITHUB").2 ⟨github, rfl, ⟨github, written⟩, ?_, rfl, g,
    hspells⟩, g, hsame, (hloads.get_ok (some "GITHUB") github g rfl).2 ?_⟩
  · rw [hasks]
    exact .tail _ (.head _)
  · rw [hasks]
    exact ⟨[⟨github, .empty⟩], ⟨github, written⟩, _, rfl, rfl, hspells,
      List.forall_mem_singleton.2 fun _ => hmissing⟩

end ConceptQuery.Ontology
