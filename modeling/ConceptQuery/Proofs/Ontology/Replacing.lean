import ConceptQuery.Compile
import ConceptQuery.Proofs.Ontology.Registering
import ConceptQuery.Proofs.Service.Answer

/-!
# Replacing variants

Queries are compiled and sent by the variant that is registered when they are. Labels are not
always resolved by its document: graphs are kept under the spelling of a variant's name, so that
among documents that stay as they are the first one goes that could be read when a variant of this
spelling was asked for.

* `Step.LeavesDocuments`, `Past.Under`, `under_past` — runs in which no document changes;
* `Past.asked`, `FirstOfSpelling`, `firstKept_iff` — the variant whose document goes;
* `firstOfSpelling_own`, `FirstKept.append` — when this is the variant itself, and when it was
  settled before;
* `Keeps.registered` — a tag that was registered just now;
* `Resolves`, `resolves_by_spelling` — runs.
-/

namespace ConceptQuery.Ontology

open Rdf Text

/-! ### Runs in which no document changes -/

/-- No document is written or removed. -/
def Step.LeavesDocuments : Step → Prop
  | .act (.write _ _) | .act (.remove _) => False
  | _ => True

/-- The documents are, and were whenever something was asked for, these. -/
structure Past.Under (p : Past) (directory : Directory) : Prop where
  directory_eq : p.directory = directory
  asks_directory : ∀ ask ∈ p.asks, ask.directory = directory

variable {directory : Directory} {p : Past} {s : Stores} {v : Variant} {g : Graph}

theorem Past.Under.ask (h : p.Under directory) (v : Variant) : (p.ask v).Under directory where
  directory_eq := h.directory_eq
  asks_directory := by
    intro ask hask
    rcases List.mem_append.1 hask with hask | hask
    · exact h.asks_directory ask hask
    · rw [List.mem_singleton.1 hask]
      exact h.directory_eq

theorem Past.Under.askTag (h : p.Under directory) (tag : Option String) :
    (p.askTag tag).Under directory := by
  unfold Past.askTag
  split
  · exact h.ask _
  · exact h

theorem Past.Under.askAll (h : p.Under directory) (vs : List Variant) :
    (p.askAll vs).Under directory := by
  induction vs generalizing p with
  | nil => exact h
  | cons v vs ih =>
    unfold Past.askAll
    split
    · exact ih (h.ask v)
    · exact h.ask v

/-- A variant that is accepted is registered, and nothing else changes. -/
theorem past_register_ok (p : Past) {d : Variant.Description} (hd : d.check = .ok v) :
    p.step (.register d) = { p with variants := p.variants.insert v } := by
  dsimp only [Past.step, Registry.register]
  rw [hd]
  rfl

theorem past_register_error (p : Past) {d : Variant.Description} {f : Failure}
    (hd : d.check = .error f) : p.step (.register d) = p := by
  dsimp only [Past.step, Registry.register]
  rw [hd]
  rfl

theorem Past.Under.step (h : p.Under directory) {step : Step} (hstep : step.LeavesDocuments) :
    (p.step step).Under directory := by
  cases step with
  | register d =>
    cases hd : d.check with
    | ok v =>
      rw [past_register_ok p hd]
      exact ⟨h.directory_eq, h.asks_directory⟩
    | error f =>
      rw [past_register_error p hd]
      exact h
  | act a =>
    cases a with
    | get tag => exact h.askTag tag
    | target label tag => exact h.askTag tag
    | subEntity label constraint tag => exact h.askTag tag
    | preload => exact h.askAll p.variants.variants
    | isLoaded tag => exact h
    | write file bytes => exact absurd hstep not_false
    | remove file => exact absurd hstep not_false

theorem Past.Under.steps (h : p.Under directory) {run : List Step}
    (hrun : ∀ step ∈ run, step.LeavesDocuments) : (run.foldl Past.step p).Under directory := by
  induction run generalizing p with
  | nil => exact h
  | cons step run ih =>
    obtain ⟨hstep, hrun⟩ := List.forall_mem_cons.1 hrun
    exact ih (h.step hstep) hrun

theorem under_past {run : List Step} (hrun : ∀ step ∈ run, step.LeavesDocuments) :
    (past directory run).Under directory :=
  have hfirst : Past.Under ⟨.empty, directory, []⟩ directory := ⟨rfl, fun _ h => (by cases h)⟩
  hfirst.steps hrun

/-! ### The first document of a spelling -/

/-- The variants that were asked for, the earliest first. -/
def Past.asked (p : Past) : List Variant :=
  p.asks.map (·.variant)

theorem Past.Under.asks_eq (h : p.Under directory) : p.asks = p.asked.map (⟨·, directory⟩) := by
  have hsame : ∀ ask ∈ p.asks, (⟨ask.variant, directory⟩ : Ask) = ask := by
    intro ask hask
    rw [← h.asks_directory ask hask]
  rw [Past.asked, List.map_map]
  exact ((List.map_congr_left hsame).trans p.asks.map_id).symm

/-- The first variant with the spelling of `v` whose document can be read, of those that were asked
for and `v` itself, and the graph of this document. -/
def FirstOfSpelling (directory : Directory) (asked : List Variant) (v u : Variant) (g : Graph) :
    Prop :=
  ∃ earlier later, asked ++ [v] = earlier ++ u :: later ∧ u.name = v.name
    ∧ Spells directory u.ontologyFile g
    ∧ ∀ e ∈ earlier, e.name = v.name → Faulty directory e.ontologyFile

variable {asked : List Variant}

/-- Documents that stay as they are can be left out of what was asked for. -/
theorem Past.Under.asks_append (h : p.Under directory) (v : Variant) :
    p.asks ++ [⟨v, p.directory⟩] = (p.asked ++ [v]).map (⟨·, directory⟩) := by
  rw [List.map_append, ← h.asks_eq, h.directory_eq]
  rfl

theorem firstKept_iff (h : p.Under directory) :
    FirstKept (p.asks ++ [⟨v, p.directory⟩]) v.name g
      ↔ ∃ u, FirstOfSpelling directory p.asked v u g := by
  rw [h.asks_append]
  constructor
  · rintro ⟨earlier, ask, later, hsplit, hname, hspells, hfaulty⟩
    obtain ⟨earlier, rest, hasked, rfl, hrest⟩ := List.map_eq_append_iff.1 hsplit
    obtain ⟨u, later, rfl, rfl, -⟩ := List.map_eq_cons_iff.1 hrest
    exact ⟨u, earlier, later, hasked, hname, hspells, List.forall_mem_map.1 hfaulty⟩
  · rintro ⟨u, earlier, later, hsplit, hname, hspells, hfaulty⟩
    refine ⟨earlier.map (⟨·, directory⟩), ⟨u, directory⟩, later.map (⟨·, directory⟩), ?_, hname,
      hspells, List.forall_mem_map.2 hfaulty⟩
    rw [hsplit, List.map_append, List.map_cons]

theorem neverKept_iff (h : p.Under directory) :
    NeverKept (p.asks ++ [⟨v, p.directory⟩]) v.name
      ↔ ∀ u ∈ p.asked ++ [v], u.name = v.name → Faulty directory u.ontologyFile := by
  rw [h.asks_append]
  exact List.forall_mem_map

/-- A variant whose document can be read has a first graph. -/
theorem exists_firstOfSpelling (h : p.Under directory) (hv : Spells directory v.ontologyFile g) :
    ∃ u g', FirstOfSpelling directory p.asked v u g' := by
  have hmem : (⟨v, directory⟩ : Ask) ∈ (p.ask v).asks :=
    List.mem_append_right _ (List.mem_singleton.2 (h.directory_eq ▸ rfl))
  obtain ⟨g', hg'⟩ := kept?_isSome_iff.2 ⟨_, hmem, rfl, g, hv⟩
  obtain ⟨u, hu⟩ := (firstKept_iff h).1 (kept?_eq_some_iff.1 hg')
  exact ⟨u, g', hu⟩

/-- The own document of a variant goes, as long as no other one could be read under its spelling. -/
theorem firstOfSpelling_own (h : p.Under directory)
    (hown : ∀ u ∈ p.asked, u.name = v.name →
      u.ontologyFile = v.ontologyFile ∨ Faulty directory u.ontologyFile) :
    (∃ u, FirstOfSpelling directory p.asked v u g) ↔ Spells directory v.ontologyFile g := by
  have hspells {u : Variant} {g : Graph} (hu : FirstOfSpelling directory p.asked v u g) :
      Spells directory v.ontologyFile g := by
    obtain ⟨earlier, later, hsplit, hname, hspells, -⟩ := hu
    have hmem : u ∈ p.asked ++ [v] := hsplit ▸ List.mem_append_right _ List.mem_cons_self
    rcases List.mem_append.1 hmem with hasked | hself
    · exact (hown u hasked hname).elim (· ▸ hspells) (absurd · hspells.not_faulty)
    · exact List.mem_singleton.1 hself ▸ hspells
  constructor
  · rintro ⟨u, hu⟩
    exact hspells hu
  · intro hv
    obtain ⟨u, g', hu⟩ := exists_firstOfSpelling h hv
    exact ⟨u, (hspells hu).unique hv ▸ hu⟩

/-! ### Registering now -/

theorem FirstKept.append {asks : List Ask} {name : String} (h : FirstKept asks name g)
    (more : List Ask) : FirstKept (asks ++ more) name g := by
  obtain ⟨earlier, ask, later, rfl, h⟩ := h
  exact ⟨earlier, ask, later ++ more, by rw [List.append_assoc, List.cons_append], h⟩

/-- A variant that is accepted is found at once, and nothing else changes. -/
theorem Keeps.registered (h : Keeps p s) {d : Variant.Description} (hd : d.check = .ok v) :
    Keeps { p with variants := p.variants.insert v } (s.step (.register d)) := by
  rw [← past_register_ok p hd]
  exact h.step (.register d)

/-- What compiling, sending and resolving go by, with the variants that were asked for. -/
structure Resolves (directory : Directory) (asked : List Variant) (s : Stores) : Prop where
  /-- A query is compiled with the template of the variant that is registered. -/
  compiled : ∀ i t e v, s.variants.get (some i.api) = .ok v →
    compile s.variants i t e = .ok (GraphQL.render (v.template.selections i t e))
  /-- It is sent to the endpoint of the variant that is registered, with its token. -/
  sent : ∀ query tag v network, s.variants.get tag = .ok v →
    dispatch s.variants (.string query) tag network
      = (v.outcome network.next, (network.exchange (v.request (.string query))).2)
  /-- Labels are resolved in the graph of the first document under the spelling of this variant. -/
  target : ∀ label tag v m, s.variants.get tag = .ok v → ((s.target label tag).1 = .ok m
    ↔ ∃ u g, FirstOfSpelling directory asked v u g ∧ resolveTarget g label = m)
  subEntity : ∀ label constraint tag v m, s.variants.get tag = .ok v →
    ((s.subEntity label constraint tag).1 = .ok m
      ↔ ∃ u g, FirstOfSpelling directory asked v u g ∧ resolveSubEntity g label constraint = m)
  get_ok : ∀ tag v g, s.variants.get tag = .ok v →
    ((s.get tag).1 = .ok g ↔ ∃ u, FirstOfSpelling directory asked v u g)
  get_failed : ∀ tag v f, s.variants.get tag = .ok v → ((s.get tag).1 = .error f
    ↔ f = unreadable v ∧ ∀ u ∈ asked ++ [v], u.name = v.name → Faulty directory u.ontologyFile)
  /-- This is the document of the registered variant, unless another one was read under the same
  spelling. -/
  own : ∀ tag v g, s.variants.get tag = .ok v →
    (∀ u ∈ asked, u.name = v.name →
      u.ontologyFile = v.ontologyFile ∨ Faulty directory u.ontologyFile) →
    ((s.get tag).1 = .ok g ↔ Spells directory v.ontologyFile g)
  /-- A variant that is registered now is the one that compiles and sends. -/
  registered : ∀ d v tag, d.check = .ok v → toLower tag = toLower v.name →
    (s.step (.register d)).variants.get (some tag) = .ok v
  /-- It resolves too if nothing was read under its spelling. -/
  fresh : ∀ d v tag g, d.check = .ok v → toLower tag = toLower v.name →
    (∀ u ∈ asked, u.name = v.name → Faulty directory u.ontologyFile) →
    (((s.step (.register d)).get (some tag)).1 = .ok g ↔ Spells directory v.ontologyFile g)
  /-- Otherwise it does not matter which one it is. -/
  settled : ∀ u ∈ asked, ∀ read, Spells directory u.ontologyFile read →
    ∃ first g, FirstOfSpelling directory asked u first g ∧ ∀ d v tag, d.check = .ok v →
      v.name = u.name → toLower tag = toLower v.name →
      ((s.step (.register d)).get (some tag)).1 = .ok g

theorem Keeps.get_ok_iff {tag : Option String} (h : Keeps p s) (hunder : p.Under directory)
    (htag : s.variants.get tag = .ok v) :
    (s.get tag).1 = .ok g ↔ ∃ u, FirstOfSpelling directory p.asked v u g := by
  rw [h.variants_eq] at htag
  exact (h.get_eq_ok_iff htag).trans (firstKept_iff hunder)

/-- What is resolved in the graph of a variant. -/
theorem Keeps.map_get_iff {α : Type} {tag : Option String} (h : Keeps p s)
    (hunder : p.Under directory) (htag : s.variants.get tag = .ok v) (f : Graph → α) {m : α} :
    (s.get tag).1.map f = .ok m ↔ ∃ u g, FirstOfSpelling directory p.asked v u g ∧ f g = m := by
  rw [Except.map_eq_ok, exists_comm]
  simp only [h.get_ok_iff hunder htag, exists_and_right]

/-- **What is kept** resolves so. -/
theorem Keeps.resolves (h : Keeps p s) (hunder : p.Under directory) :
    Resolves directory p.asked s where
  compiled := by
    intro i t e v htag
    rw [compile, htag]
    rfl
  sent := fun query tag v network htag => dispatch_registered htag query
  target := fun label tag v m htag => h.map_get_iff hunder htag (resolveTarget · label)
  subEntity := fun label constraint tag v m htag =>
    h.map_get_iff hunder htag (resolveSubEntity · label constraint)
  get_ok := fun tag v g htag => h.get_ok_iff hunder htag
  get_failed := by
    intro tag v f htag
    rw [h.variants_eq] at htag
    rw [h.get_eq_error_iff htag, neverKept_iff hunder]
  own := by
    intro tag v g htag hown
    rw [h.get_ok_iff hunder htag, firstOfSpelling_own hunder hown]
  registered := by
    intro d v tag hd htag
    rw [(h.registered hd).variants_eq]
    exact p.variants.get_insert htag
  fresh := by
    intro d v tag g hd htag hfaulty
    rw [(h.registered hd).get_eq_ok_iff (p.variants.get_insert htag), firstKept_iff hunder,
      firstOfSpelling_own hunder fun u hu hname => .inr (hfaulty u hu hname)]
  settled := by
    intro u hu read hread
    obtain ⟨ask, hask, rfl⟩ := List.mem_map.1 hu
    rw [← hunder.asks_directory ask hask] at hread
    obtain ⟨g, hg⟩ := kept?_isSome_iff.2 ⟨ask, hask, rfl, read, hread⟩
    have hkept (v : Variant) := (kept?_eq_some_iff.1 hg).append [⟨v, p.directory⟩]
    obtain ⟨first, hfirst⟩ := (firstKept_iff hunder).1 (hkept ask.variant)
    refine ⟨first, g, hfirst, fun d v tag hd hname htag => ?_⟩
    rw [(h.registered hd).get_eq_ok_iff (p.variants.get_insert htag), hname]
    exact hkept v

/-- **Labels are resolved by spelling** when no document changes. -/
theorem resolves_by_spelling (directory : Directory) {run : List Step}
    (hrun : ∀ step ∈ run, step.LeavesDocuments) :
    Resolves directory (past directory run).asked
      ((Stores.unread .empty directory).steps run) :=
  (keeps_past directory run).resolves (under_past hrun)

/-- A variant is read and replaced under another spelling: labels are resolved by its own
document. -/
theorem resolves_by_spelling_respelled :
    let document := "<a:b> <a:c> \"x\" .".toList.flatMap String.utf8EncodeChar
    let directory : Directory := .ofList [("a.ttl", []), ("b.ttl", document)]
    let run : List Step := [.register ⟨"github", "paginated", "a.ttl", "http://a", none⟩,
      .act (.get (some "GitHub")), .register ⟨"GitHub", "simple", "b.ttl", "http://b", none⟩]
    let s := (Stores.unread .empty directory).steps run
    (∀ step ∈ run, step.LeavesDocuments)
      ∧ (past directory run).asked = [⟨"github", .paginated, "a.ttl", "http://a", none⟩]
      ∧ ∃ g, g.triples = [⟨.iri "a:b", .iri "a:c", .plain "x"⟩]
        ∧ (s.get (some "github")).1 = .ok g := by
  intro document directory run s
  have hrun : ∀ step ∈ run, step.LeavesDocuments := by
    simp [run, Step.LeavesDocuments]
  have hasked : (past directory run).asked
      = [⟨"github", .paginated, "a.ttl", "http://a", none⟩] := rfl
  have htriples : (Turtle.read "file:///b.ttl" (.ofList "<a:b> <a:c> \"x\" .".toList)).map
      (·.triples) = some [⟨.iri "a:b", .iri "a:c", .plain "x"⟩] := by decide +kernel
  obtain ⟨g, hg, hsame⟩ := Option.map_eq_some_iff.1 htriples
  have hspells : Spells directory "b.ttl" g := ⟨document, _, rfl, Utf8.decode_encode _, hg⟩
  have htag : s.variants.get (some "github")
      = .ok ⟨"GitHub", .simple, "b.ttl", "http://b", none⟩ := by
    rw [(keeps_past directory run).variants_eq]
    rfl
  have hresolves := resolves_by_spelling directory hrun
  rw [hasked] at hresolves
  refine ⟨hrun, hasked, g, hsame, (hresolves.own _ _ g htag ?_).2 hspells⟩
  exact List.forall_mem_singleton.2 fun hname => absurd hname (by decide)

/-- A variant is read and replaced under the same spelling: labels are resolved by the document of
the variant that it was before. -/
theorem not_resolves_registered :
    ¬ ∀ (directory : Directory) (run : List Step), (∀ step ∈ run, step.LeavesDocuments) →
      ∀ tag v g label, ((Stores.unread .empty directory).steps run).variants.get tag = .ok v →
        Spells directory v.ontologyFile g →
        (((Stores.unread .empty directory).steps run).target label tag).1
          = .ok (resolveTarget g label) := by
  intro h
  let text := "@prefix : <http://example.org/ontology#>. :u "
    ++ "<http://www.w3.org/2000/01/rdf-schema#label> \"user\"; :mapsToField \"viewer\"; "
    ++ ":identifierArgument \"id\"."
  let bytes := text.toList.flatMap String.utf8EncodeChar
  let directory : Directory := ⟨[("a.ttl", bytes), ("b.ttl", [])], by decide⟩
  let a : Variant := ⟨"github", .paginated, "a.ttl", "http://a", none⟩
  let b : Variant := ⟨"github", .paginated, "b.ttl", "http://b", none⟩
  let run : List Step := [.register ⟨"github", "paginated", "a.ttl", "http://a", none⟩,
    .act (.get (some "github")), .register ⟨"github", "paginated", "b.ttl", "http://b", none⟩]
  have hrun : ∀ step ∈ run, step.LeavesDocuments := by
    simp [run, Step.LeavesDocuments]
  have hread : (Turtle.read "file:///a.ttl" (.ofList text.toList)).map (resolveTarget · "user")
      = some ⟨"viewer", "id"⟩ := by decide +kernel
  have hread' : (Turtle.read "file:///b.ttl" (.ofList [])).map (resolveTarget · "user")
      = some {} := by decide +kernel
  obtain ⟨ga, hga, hviewer⟩ := Option.map_eq_some_iff.1 hread
  obtain ⟨gb, hgb, hunknown⟩ := Option.map_eq_some_iff.1 hread'
  have hspells : Spells directory "a.ttl" ga :=
    ⟨bytes, _, Table.get?_eq_some_iff.2 (.head _), Utf8.decode_encode _, hga⟩
  have hspells' : Spells directory "b.ttl" gb :=
    ⟨[], [], Table.get?_eq_some_iff.2 (.tail _ (.head _)), Utf8.decode_encode [], hgb⟩
  have htag : ((Stores.unread .empty directory).steps run).variants.get (some "github")
      = .ok b := by
    rw [(keeps_past directory run).variants_eq]
    exact Registry.get_insert (Registry.empty.insert a) rfl
  have hresolves := (keeps_past directory run).resolves (under_past hrun)
  have hfirst : FirstOfSpelling directory [a] b a ga :=
    ⟨[], [b], rfl, rfl, hspells, fun _ he => absurd he List.not_mem_nil⟩
  have htarget := (hresolves.target "user" _ b ⟨"viewer", "id"⟩ htag).2 ⟨a, ga, hfirst, hviewer⟩
  rw [h directory run hrun _ b gb "user" htag hspells', hunknown] at htarget
  exact absurd (Except.ok.inj htarget) (by decide)

end ConceptQuery.Ontology
