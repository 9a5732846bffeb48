import ConceptQuery.Proofs.Ontology.Resolver
import ConceptQuery.Proofs.Rdf.Graph

/-!
# Documents that grow

A document grows by statements about concepts that it did not speak of, and by statements that it
had made before. A label that stood for a concept stands for the same one ever after, also if a new
concept takes the same label.

* `Grown` — what a list of triples may grow to;
* `Widens`, `Grown.widens` — the graph of a grown list goes on with triples about new subjects;
* `Widens.firstValue`, `Widens.hasAll_iff`, `Widens.firstSubject` — what is first stays first;
* `Known`, `known_of_rowOf?` — a label that stands for a subject;
* `growth_keeps_mappings` — known labels keep their mappings.
-/

namespace ConceptQuery.Ontology

open Rdf

/-! ### Growing -/

/-- What a list of triples may grow to: triples about subjects that it does not speak of are
appended, and triples are stated again, anywhere behind their first statement. -/
inductive Grown (ts : List Triple) : List Triple → Prop where
  | same : Grown ts ts
  | fresh {us : List Triple} {t : Triple} (h : Grown ts us)
      (hnew : ∀ u ∈ ts, u.subject ≠ t.subject) : Grown ts (us ++ [t])
  | again {before after : List Triple} {t : Triple} (h : Grown ts (before ++ after))
      (hstated : t ∈ before) : Grown ts (before ++ t :: after)

/-- Triples about new subjects may be appended all at once. -/
theorem Grown.append {ts us : List Triple} (h : Grown ts us) {more : List Triple}
    (hnew : ∀ t ∈ more, ∀ u ∈ ts, u.subject ≠ t.subject) : Grown ts (us ++ more) := by
  induction more generalizing us with
  | nil => rwa [List.append_nil]
  | cons t more ih =>
    rw [List.forall_mem_cons] at hnew
    rw [List.append_cons]
    exact ih (.fresh h hnew.1) hnew.2

/-- A graph begins with the triples of another one, and goes on with triples about subjects that the
other one does not speak of. -/
def Widens (g g' : Graph) : Prop :=
  ∃ more, g'.triples = g.triples ++ more
    ∧ ∀ t ∈ more, ∀ u ∈ g.triples, u.subject ≠ t.subject

variable {g g' : Graph} {subject property value : Term} {properties : List Term} {text : String}
  {constraint : Option String}

theorem Widens.add {t : Triple} (h : Widens g g') (hnew : ∀ u ∈ g.triples, u.subject ≠ t.subject) :
    Widens g (g'.add t) := by
  by_cases hmem : t ∈ g'.triples
  · rwa [Graph.add_of_mem hmem]
  · obtain ⟨more, hmore, hothers⟩ := h
    refine ⟨more ++ [t], ?_, ?_⟩
    · rw [Graph.triples_add_of_notMem hmem, hmore, List.append_assoc]
    · intro u hu
      rcases List.mem_append.1 hu with hu | hu
      · exact hothers u hu
      · rwa [List.mem_singleton.1 hu]

/-- **A grown list has a widened graph.** Stating a triple again changes nothing at all. -/
theorem Grown.widens {ts us : List Triple} (h : Grown ts us) :
    Widens (Graph.empty.addAll ts) (Graph.empty.addAll us) := by
  induction h with
  | same => exact ⟨[], (List.append_nil _).symm, fun _ ht => absurd ht List.not_mem_nil⟩
  | fresh _ hnew ih =>
    rw [Graph.addAll_append]
    refine ih.add fun u hu => ?_
    rcases Graph.mem_triples_addAll.1 hu with hu | hu
    · exact hnew u hu
    · exact absurd hu List.not_mem_nil
  | again _ hstated ih => rwa [Graph.addAll_again hstated]

/-! ### What is first stays first -/

theorem Widens.mem (h : Widens g g') {t : Triple} (ht : t ∈ g.triples) : t ∈ g'.triples := by
  obtain ⟨more, hmore, -⟩ := h
  rw [hmore]
  exact List.mem_append_left _ ht

/-- Of a subject that was spoken of nothing new is stated. -/
theorem Widens.mem_iff (h : Widens g g') {t u : Triple} (hu : u ∈ g.triples)
    (hsame : u.subject = t.subject) : t ∈ g'.triples ↔ t ∈ g.triples := by
  refine ⟨fun ht => ?_, h.mem⟩
  obtain ⟨more, hmore, hothers⟩ := h
  rw [hmore] at ht
  rcases List.mem_append.1 ht with ht | ht
  · exact ht
  · exact absurd hsame (hothers t ht u hu)

theorem Widens.firstValue (h : Widens g g') (hvalue : FirstValue g subject property value) :
    FirstValue g' subject property value := by
  obtain ⟨more, hmore, -⟩ := h
  obtain ⟨before, after, hsplit, hbefore⟩ := hvalue
  refine ⟨before, after ++ more, ?_, hbefore⟩
  rw [hmore, hsplit, List.append_assoc, List.cons_append]

theorem Widens.hasAll_iff (h : Widens g g') (hlabel : Labelled g text subject) :
    HasAll g' properties subject ↔ HasAll g properties subject := by
  unfold HasAll
  refine forall₂_congr fun p _ => exists_congr fun value => ?_
  exact h.mem_iff hlabel rfl

/-- The subject that a label stands for is still the first one: whoever was labelled so before it
has not got the properties that it lacked, and new subjects come later. -/
theorem Widens.firstSubject (h : Widens g g') (hfirst : FirstSubject g text properties subject) :
    FirstSubject g' text properties subject := by
  have hall : HasAll g' properties subject := (h.hasAll_iff hfirst.labelled).2 hfirst.1
  obtain ⟨-, before, after, hsplit, hbefore⟩ := hfirst
  have hlacks (other : Term) (hother : ⟨other, label, .plain text⟩ ∈ before) :
      ¬ HasAll g' properties other := by
    have hlabel : Labelled g text other := by
      rw [Labelled, hsplit]
      exact List.mem_append_left _ hother
    rw [h.hasAll_iff hlabel]
    exact hbefore other hother
  obtain ⟨more, hmore, -⟩ := h
  refine ⟨hall, before, after ++ more, ?_, hlacks⟩
  rw [hmore, hsplit, List.append_assoc, List.cons_append]

/-! ### Known labels -/

/-- A label stands for a subject: some subject with it has all of some properties. -/
def Known (g : Graph) (text : String) (properties : List Term) : Prop :=
  ∃ subject, Labelled g text subject ∧ HasAll g properties subject

theorem not_unknown (h : Known g text properties) : ¬ Unknown g text properties := by
  obtain ⟨subject, hlabel, hall⟩ := h
  exact fun hunknown => hunknown subject hlabel hall

/-- A label is known if there are values for it. -/
theorem known_of_rowOf? (h : (rowOf? g properties text).isSome = true) :
    Known g text properties := by
  obtain ⟨row, hrow⟩ := Option.isSome_iff_exists.1 h
  obtain ⟨subject, hfirst, -⟩ := rowOf?_eq_some_iff.1 hrow
  exact ⟨subject, hfirst.labelled, hfirst.1⟩

theorem Widens.resolveTarget_eq (h : Widens g g') (hknown : Known g text targetProperties) :
    resolveTarget g' text = resolveTarget g text := by
  have hmaps := resolveTarget_eq_iff.1 (Eq.refl (resolveTarget g text))
  generalize resolveTarget g text = m at hmaps ⊢
  refine resolveTarget_eq_iff.2 ?_
  cases hmaps with
  | known hfirst hfield hargument =>
    exact .known (h.firstSubject hfirst) (h.firstValue hfield) (h.firstValue hargument)
  | unknown hunknown => exact absurd hunknown (not_unknown hknown)

theorem Widens.orders (h : Widens g g') {ordering : String × String × String}
    (hknown : ∀ c ∈ constraint, Known g c orderingProperties)
    (horders : Orders g constraint ordering) : Orders g' constraint ordering := by
  cases horders with
  | unasked => exact .unasked
  | known hfirst hargument hfield hdirection =>
    exact .known (h.firstSubject hfirst) (h.firstValue hargument) (h.firstValue hfield)
      (h.firstValue hdirection)
  | unknown hunknown => exact absurd hunknown (not_unknown (hknown _ rfl))

theorem Widens.resolveSubEntity_eq (h : Widens g g') (hknown : Known g text subEntityProperties)
    (hconstraint : ∀ c ∈ constraint, Known g c orderingProperties) :
    resolveSubEntity g' text constraint = resolveSubEntity g text constraint := by
  have hmaps := resolveSubEntity_eq_iff.1 (Eq.refl (resolveSubEntity g text constraint))
  generalize resolveSubEntity g text constraint = m at hmaps ⊢
  refine resolveSubEntity_eq_iff.2 ?_
  cases hmaps with
  | known hfirst hfield htype hordering =>
    exact .known (h.firstSubject hfirst) (h.firstValue hfield) (h.firstValue htype)
      (h.orders hconstraint hordering)
  | unknown hunknown => exact absurd hunknown (not_unknown hknown)

/-- **Growth keeps mappings.** However a list of triples grows by triples about new subjects and by
triples that it had before, every target label that was known has the mapping that it had, and so
has every sub-entity label that was known, without a constraint or with one that was known. New
subjects may have the labels of old ones. -/
theorem growth_keeps_mappings {ts us : List Triple} (h : Grown ts us) (text : String) :
    let g := Graph.empty.addAll ts
    let g' := Graph.empty.addAll us
    (Known g text targetProperties → resolveTarget g' text = resolveTarget g text)
      ∧ ∀ constraint : Option String, Known g text subEntityProperties →
        (∀ c ∈ constraint, Known g c orderingProperties) →
          resolveSubEntity g' text constraint = resolveSubEntity g text constraint :=
  ⟨h.widens.resolveTarget_eq, fun _ => h.widens.resolveSubEntity_eq⟩

/-- A list whose first subject of a label lacks a property. It grows by a subject with the same
label, by a triple stated again in the middle of the old ones, and by an ordering under the label of
an old one. -/
theorem growth_keeps_mappings_shared_label :
    let draft := concept "Draft"
    let repo := concept "Repo"
    let stars := concept "Stars"
    let fork := concept "Fork"
    let ts : List Triple := [⟨draft, label, .plain "repo"⟩, ⟨draft, mapsToField, .plain "draft"⟩,
      ⟨repo, label, .plain "repo"⟩, ⟨repo, mapsToField, .plain "repository"⟩,
      ⟨repo, identifierArgument, .plain "name"⟩, ⟨repo, mapsToType, .plain "Repository"⟩,
      ⟨stars, label, .plain "most starred"⟩, ⟨stars, mapsToArgumentField, .plain "orderBy"⟩,
      ⟨stars, mapsToOrderingField, .plain "STARGAZERS"⟩, ⟨stars, defaultDirection, .plain "DESC"⟩]
    let new : List Triple := [⟨fork, label, .plain "repo"⟩, ⟨fork, mapsToField, .plain "fork"⟩,
      ⟨fork, identifierArgument, .plain "id"⟩, ⟨fork, mapsToType, .plain "Fork"⟩,
      ⟨fork, label, .plain "most starred"⟩, ⟨fork, mapsToArgumentField, .plain "sort"⟩,
      ⟨fork, mapsToOrderingField, .plain "FORKS"⟩, ⟨fork, defaultDirection, .plain "ASC"⟩]
    let us := ts.take 4 ++ ⟨draft, label, .plain "repo"⟩ :: (ts.drop 4 ++ new)
    let g' := Graph.empty.addAll us
    Grown ts us ∧ resolveTarget g' "repo" = ⟨"repository", "name"⟩
      ∧ resolveSubEntity g' "repo" (some "most starred")
        = ⟨"repository", "Repository", "orderBy", "STARGAZERS", "DESC"⟩ := by
  intro draft repo stars fork ts new us g'
  have hgrown : Grown ts us := .again (.append .same (by decide)) (by decide)
  have htarget : Known (Graph.empty.addAll ts) "repo" targetProperties :=
    known_of_rowOf? (by decide)
  have hsub : Known (Graph.empty.addAll ts) "repo" subEntityProperties :=
    known_of_rowOf? (by decide)
  have hstars : ∀ c ∈ some "most starred", Known (Graph.empty.addAll ts) c orderingProperties := by
    rintro c ⟨⟩
    exact known_of_rowOf? (by decide)
  refine ⟨hgrown, ?_, ?_⟩
  · exact ((growth_keeps_mappings hgrown "repo").1 htarget).trans (by decide)
  · exact ((growth_keeps_mappings hgrown "repo").2 _ hsub hstars).trans (by decide)

end ConceptQuery.Ontology
