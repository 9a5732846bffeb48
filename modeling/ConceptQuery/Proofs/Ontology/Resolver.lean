import ConceptQuery.Ontology.Resolver
import Mathlib.Data.List.Forall2

/-!
# What labels are mapped to

The mapping of a label is told by the triples of a graph alone: it comes from one subject, the one
whose label was stated first among those that have all properties asked for, and from the first
value that is stated for each property of this subject.

* `FirstValue`, `HasAll`, `Labelled` — what is stated of a subject;
* `FirstSubject`, `Unknown`, `Blank` — the subject that a label stands for, if there is one, and if
  it has empty values;
* `values?_eq_some_iff`, `values?_eq_none_iff` — the values of one subject;
* `rowOf?_eq_some_iff`, `rowOf?_eq_none_iff` — the values for a label;
* `MapsTarget`, `Orders`, `MapsSubEntity` — mappings as the triples tell them;
* `maps_first_subject` — labels are mapped so, and not otherwise;
* `maps_to_nothing` — a mapping of empty texts that stands for a concept.
-/

namespace ConceptQuery.Ontology

open Rdf

/-! ### What is stated of a subject -/

/-- The first value that is stated for a property of a subject. -/
def FirstValue (g : Graph) (subject property value : Term) : Prop :=
  ∃ before after, g.triples = before ++ ⟨subject, property, value⟩ :: after
    ∧ ∀ other, ⟨subject, property, other⟩ ∉ before

/-- A subject has a value for each of some properties. -/
def HasAll (g : Graph) (properties : List Term) (subject : Term) : Prop :=
  ∀ p ∈ properties, ∃ value, ⟨subject, p, value⟩ ∈ g.triples

/-- A subject has the plain literal of a text as a label: neither a language nor a datatype goes
with it. -/
def Labelled (g : Graph) (text : String) (subject : Term) : Prop :=
  ⟨subject, label, .plain text⟩ ∈ g.triples

/-- The subject that a label stands for: of those with all properties, the one whose label was
stated first. -/
def FirstSubject (g : Graph) (text : String) (properties : List Term) (subject : Term) : Prop :=
  HasAll g properties subject
    ∧ ∃ before after, g.triples = before ++ ⟨subject, label, .plain text⟩ :: after
      ∧ ∀ other, ⟨other, label, .plain text⟩ ∈ before → ¬ HasAll g properties other

/-- No subject with a label has all of some properties. -/
def Unknown (g : Graph) (text : String) (properties : List Term) : Prop :=
  ∀ subject, Labelled g text subject → ¬ HasAll g properties subject

/-- A label stands for a subject whose properties are empty texts. -/
def Blank (g : Graph) (text : String) (properties : List Term) : Prop :=
  ∃ subject, FirstSubject g text properties subject
    ∧ ∀ p ∈ properties, ∃ value, FirstValue g subject p value ∧ value.text = ""

variable {g : Graph} {subject property value : Term} {properties : List Term} {text : String}

theorem FirstValue.mem (h : FirstValue g subject property value) :
    ⟨subject, property, value⟩ ∈ g.triples := by
  obtain ⟨before, after, hsplit, -⟩ := h
  rw [hsplit]
  exact List.mem_append_right _ List.mem_cons_self

theorem FirstSubject.labelled (h : FirstSubject g text properties subject) :
    Labelled g text subject := by
  obtain ⟨-, before, after, hsplit, -⟩ := h
  rw [Labelled, hsplit]
  exact List.mem_append_right _ List.mem_cons_self

/-! ### The values of a subject -/

theorem value?_eq_some_iff :
    g.value? subject property = some value ↔ FirstValue g subject property value := by
  unfold Graph.value? FirstValue
  rw [Option.map_eq_some_iff]
  constructor
  · rintro ⟨⟨s, p, o⟩, hfind, rfl⟩
    obtain ⟨hsame, before, after, hsplit, hbefore⟩ := List.find?_eq_some_iff_append.1 hfind
    obtain ⟨rfl, rfl⟩ := of_decide_eq_true hsame
    refine ⟨before, after, hsplit, fun other hother => ?_⟩
    simpa using hbefore _ hother
  · rintro ⟨before, after, hsplit, hbefore⟩
    refine ⟨⟨subject, property, value⟩, List.find?_eq_some_iff_append.2 ⟨by simp, before, after,
      hsplit, fun t ht => ?_⟩, rfl⟩
    obtain ⟨s, p, o⟩ := t
    rw [Bool.not_eq_true', decide_eq_false_iff_not]
    rintro ⟨rfl, rfl⟩
    exact hbefore o ht

theorem value?_eq_none_iff :
    g.value? subject property = none ↔ ∀ value, ⟨subject, property, value⟩ ∉ g.triples := by
  unfold Graph.value?
  rw [Option.map_eq_none_iff, List.find?_eq_none]
  constructor
  · intro h value hmem
    simpa using h _ hmem
  · rintro h ⟨s, p, o⟩ hmem hsame
    obtain ⟨rfl, rfl⟩ := of_decide_eq_true hsame
    exact h o hmem

/-- The values of a subject are the texts of the first ones, property by property. -/
theorem values?_eq_some_iff {row : List String} :
    values? g subject properties = some row
      ↔ List.Forall₂ (fun p text => ∃ value, FirstValue g subject p value ∧ value.text = text)
        properties row := by
  unfold values?
  induction properties generalizing row with
  | nil =>
    rw [List.mapM_nil, List.forall₂_nil_left_iff]
    exact ⟨fun h => (Option.some.inj h).symm, fun h => congrArg some h.symm⟩
  | cons p rest ih =>
    rw [List.mapM_cons, List.forall₂_cons_left_iff]
    constructor
    · intro h
      obtain ⟨text, htext, h⟩ := Option.bind_eq_some_iff.1 h
      obtain ⟨texts, htexts, h⟩ := Option.bind_eq_some_iff.1 h
      obtain ⟨value, hvalue, hsame⟩ := Option.map_eq_some_iff.1 htext
      exact ⟨text, texts, ⟨value, value?_eq_some_iff.1 hvalue, hsame⟩, ih.1 htexts,
        (Option.some.inj h).symm⟩
    · rintro ⟨text, texts, ⟨value, hvalue, hsame⟩, htexts, rfl⟩
      have htext : (g.value? subject p).map Term.text = some text :=
        Option.map_eq_some_iff.2 ⟨value, value?_eq_some_iff.2 hvalue, hsame⟩
      rw [htext, ih.2 htexts]
      rfl

theorem values?_eq_none_iff :
    values? g subject properties = none ↔ ¬ HasAll g properties subject := by
  unfold values? HasAll
  induction properties with
  | nil =>
    rw [List.mapM_nil]
    refine iff_of_false (fun h => ?_) fun h => h fun p hp => ?_
    · cases h
    · cases hp
  | cons p rest ih =>
    rw [List.mapM_cons, List.forall_mem_cons]
    cases hvalue : g.value? subject p with
    | none =>
      refine iff_of_true rfl ?_
      rintro ⟨⟨value, hmem⟩, -⟩
      exact value?_eq_none_iff.1 hvalue value hmem
    | some value =>
      have hmem := (value?_eq_some_iff.1 hvalue).mem
      rw [not_and_or, ← ih]
      constructor
      · intro h
        cases hrest : rest.mapM fun p => (g.value? subject p).map Term.text with
        | none => exact .inr rfl
        | some texts =>
          rw [hrest] at h
          cases h
      · rintro (hnone | hrest)
        · exact absurd ⟨value, hmem⟩ hnone
        · rw [hrest]
          rfl

/-! ### The values for a label -/

theorem findSome?_filter {α β : Type} (p : α → Bool) (f : α → Option β) (xs : List α) :
    (xs.filter p).findSome? f = xs.findSome? fun x => if p x then f x else none := by
  induction xs with
  | nil => rfl
  | cons x xs ih =>
    rw [List.filter_cons, List.findSome?_cons]
    by_cases hx : p x = true
    · rw [if_pos hx, if_pos hx, List.findSome?_cons, ih]
    · rw [if_neg hx, if_neg hx, ih]

/-- Subjects are looked through in the order in which their triples were stated. -/
theorem findSome?_subjects {α : Type} (g : Graph) (predicate object : Term)
    (f : Term → Option α) : (g.subjects predicate object).findSome? f
      = g.triples.findSome? fun t =>
        if t.predicate = predicate ∧ t.object = object then f t.subject else none := by
  unfold Graph.subjects
  rw [List.findSome?_map, findSome?_filter]
  simp only [decide_eq_true_eq, Function.comp_apply]

/-- **The values for a label** are those of the subject that the label stands for. -/
theorem rowOf?_eq_some_iff {row : List String} :
    rowOf? g properties text = some row
      ↔ ∃ subject, FirstSubject g text properties subject
        ∧ values? g subject properties = some row := by
  unfold rowOf?
  rw [findSome?_subjects, List.findSome?_eq_some_iff]
  constructor
  · rintro ⟨before, ⟨s, p, o⟩, after, hsplit, hrow, hbefore⟩
    obtain ⟨⟨rfl, rfl⟩, hrow⟩ := Option.ite_none_right_eq_some.1 hrow
    have hall : HasAll g properties s := by
      by_contra hnone
      rw [values?_eq_none_iff.2 hnone] at hrow
      cases hrow
    refine ⟨s, ⟨hall, before, after, hsplit, fun other hother => ?_⟩, hrow⟩
    have hnone := hbefore _ hother
    rw [if_pos ⟨rfl, rfl⟩] at hnone
    exact values?_eq_none_iff.1 hnone
  · rintro ⟨s, ⟨-, before, after, hsplit, hbefore⟩, hrow⟩
    refine ⟨before, _, after, hsplit, (if_pos ⟨rfl, rfl⟩).trans hrow, ?_⟩
    rintro ⟨other, p, o⟩ hother
    refine ite_eq_right_iff.2 ?_
    rintro ⟨rfl, rfl⟩
    exact values?_eq_none_iff.2 (hbefore other hother)

/-- **There are no values for a label** if no subject with it has all properties. -/
theorem rowOf?_eq_none_iff :
    rowOf? g properties text = none ↔ Unknown g text properties := by
  unfold rowOf? Unknown Labelled
  rw [findSome?_subjects, List.findSome?_eq_none_iff]
  constructor
  · intro h subject hlabel
    have hnone := h _ hlabel
    rw [if_pos ⟨rfl, rfl⟩] at hnone
    exact values?_eq_none_iff.1 hnone
  · rintro h ⟨subject, p, o⟩ hmem
    refine ite_eq_right_iff.2 ?_
    rintro ⟨rfl, rfl⟩
    exact values?_eq_none_iff.2 (h subject hmem)

/-- Two values for a label, each told by its property. -/
theorem rowOf?_pair {p q : Term} {row : List String} :
    rowOf? g [p, q] text = some row ↔ ∃ subject a b, FirstSubject g text [p, q] subject
      ∧ FirstValue g subject p a ∧ FirstValue g subject q b ∧ row = [a.text, b.text] := by
  simp only [rowOf?_eq_some_iff, values?_eq_some_iff, List.forall₂_cons_left_iff,
    List.forall₂_nil_left_iff]
  constructor
  · rintro ⟨s, hs, _, _, ⟨a, ha, rfl⟩, ⟨_, _, ⟨b, hb, rfl⟩, rfl, rfl⟩, rfl⟩
    exact ⟨s, a, b, hs, ha, hb, rfl⟩
  · rintro ⟨s, a, b, hs, ha, hb, rfl⟩
    exact ⟨s, hs, _, _, ⟨a, ha, rfl⟩, ⟨_, _, ⟨b, hb, rfl⟩, rfl, rfl⟩, rfl⟩

/-- Three values for a label, each told by its property. -/
theorem rowOf?_triple {p q r : Term} {row : List String} :
    rowOf? g [p, q, r] text = some row ↔ ∃ subject a b c, FirstSubject g text [p, q, r] subject
      ∧ FirstValue g subject p a ∧ FirstValue g subject q b ∧ FirstValue g subject r c
      ∧ row = [a.text, b.text, c.text] := by
  simp only [rowOf?_eq_some_iff, values?_eq_some_iff, List.forall₂_cons_left_iff,
    List.forall₂_nil_left_iff]
  constructor
  · rintro ⟨s, hs, _, _, ⟨a, ha, rfl⟩, ⟨_, _, ⟨b, hb, rfl⟩, ⟨_, _, ⟨c, hc, rfl⟩, rfl, rfl⟩, rfl⟩,
      rfl⟩
    exact ⟨s, a, b, c, hs, ha, hb, hc, rfl⟩
  · rintro ⟨s, a, b, c, hs, ha, hb, hc, rfl⟩
    exact ⟨s, hs, _, _, ⟨a, ha, rfl⟩, ⟨_, _, ⟨b, hb, rfl⟩, ⟨_, _, ⟨c, hc, rfl⟩, rfl, rfl⟩, rfl⟩,
      rfl⟩

/-! ### Mappings -/

/-- What is asked of a target. -/
def targetProperties : List Term := [mapsToField, identifierArgument]

/-- What is asked of a sub-entity. -/
def subEntityProperties : List Term := [mapsToField, mapsToType]

/-- What is asked of a constraint. -/
def orderingProperties : List Term := [mapsToArgumentField, mapsToOrderingField, defaultDirection]

/-- The mapping of a target label, as the triples tell it. -/
inductive MapsTarget (g : Graph) (text : String) : TargetMapping → Prop where
  | known {subject field argument : Term} (first : FirstSubject g text targetProperties subject)
      (hfield : FirstValue g subject mapsToField field)
      (hargument : FirstValue g subject identifierArgument argument) :
    MapsTarget g text ⟨field.text, argument.text⟩
  | unknown (h : Unknown g text targetProperties) : MapsTarget g text {}

/-- The ordering that a constraint asks for, if there is a constraint: argument, field and
direction, as the triples tell them. -/
inductive Orders (g : Graph) : Option String → String × String × String → Prop where
  | unasked : Orders g none ("", "", "")
  | known {text : String} {subject argument field direction : Term}
      (first : FirstSubject g text orderingProperties subject)
      (hargument : FirstValue g subject mapsToArgumentField argument)
      (hfield : FirstValue g subject mapsToOrderingField field)
      (hdirection : FirstValue g subject defaultDirection direction) :
    Orders g (some text) (argument.text, field.text, direction.text)
  | unknown {text : String} (h : Unknown g text orderingProperties) :
    Orders g (some text) ("", "", "")

/-- The mapping of a sub-entity label, joined with the ordering of a constraint, as the triples
tell it. -/
inductive MapsSubEntity (g : Graph) (text : String) (constraint : Option String) :
    SubEntityMapping → Prop where
  | known {subject field type : Term} {argument ordering direction : String}
      (first : FirstSubject g text subEntityProperties subject)
      (hfield : FirstValue g subject mapsToField field)
      (htype : FirstValue g subject mapsToType type)
      (hordering : Orders g constraint (argument, ordering, direction)) :
    MapsSubEntity g text constraint ⟨field.text, type.text, argument, ordering, direction⟩
  | unknown (h : Unknown g text subEntityProperties) : MapsSubEntity g text constraint {}

theorem resolveTarget_eq_iff {m : TargetMapping} :
    resolveTarget g text = m ↔ MapsTarget g text m := by
  constructor
  · rintro rfl
    unfold resolveTarget
    cases hrow : rowOf? g [mapsToField, identifierArgument] text with
    | none => exact .unknown (rowOf?_eq_none_iff.1 hrow)
    | some row =>
      obtain ⟨s, field, argument, hs, hfield, hargument, rfl⟩ := rowOf?_pair.1 hrow
      exact .known hs hfield hargument
  · intro h
    unfold resolveTarget
    cases h with
    | known hs hfield hargument =>
      rw [rowOf?_pair.2 ⟨_, _, _, hs, hfield, hargument, rfl⟩]
    | unknown h =>
      have hnone : rowOf? g [mapsToField, identifierArgument] text = none :=
        rowOf?_eq_none_iff.2 h
      rw [hnone]

/-- The ordering of a constraint, if there is one. -/
def orderingOf (g : Graph) (constraint : Option String) : String × String × String :=
  match constraint with
  | none => ("", "", "")
  | some c => resolveConstraint g c

theorem orderingOf_eq_iff {constraint : Option String} {ordering : String × String × String} :
    orderingOf g constraint = ordering ↔ Orders g constraint ordering := by
  constructor
  · rintro rfl
    cases constraint with
    | none => exact .unasked
    | some c =>
      unfold orderingOf resolveConstraint
      dsimp only
      cases hrow : rowOf? g [mapsToArgumentField, mapsToOrderingField, defaultDirection] c with
      | none => exact .unknown (rowOf?_eq_none_iff.1 hrow)
      | some row =>
        obtain ⟨s, argument, field, direction, hs, hargument, hfield, hdirection, rfl⟩ :=
          rowOf?_triple.1 hrow
        exact .known hs hargument hfield hdirection
  · intro h
    unfold orderingOf resolveConstraint
    cases h with
    | unasked => rfl
    | known hs hargument hfield hdirection =>
      dsimp only
      rw [rowOf?_triple.2 ⟨_, _, _, _, hs, hargument, hfield, hdirection, rfl⟩]
    | @unknown c h =>
      have hnone : rowOf? g [mapsToArgumentField, mapsToOrderingField, defaultDirection] c = none :=
        rowOf?_eq_none_iff.2 h
      dsimp only
      rw [hnone]

theorem resolveSubEntity_eq (g : Graph) (text : String) (constraint : Option String) :
    resolveSubEntity g text constraint = match rowOf? g [mapsToField, mapsToType] text with
      | some [field, type] => ⟨field, type, (orderingOf g constraint).1,
          (orderingOf g constraint).2.1, (orderingOf g constraint).2.2⟩
      | _ => {} := by
  cases constraint <;> rfl

theorem resolveSubEntity_eq_iff {constraint : Option String} {m : SubEntityMapping} :
    resolveSubEntity g text constraint = m ↔ MapsSubEntity g text constraint m := by
  rw [resolveSubEntity_eq]
  constructor
  · rintro rfl
    cases hrow : rowOf? g [mapsToField, mapsToType] text with
    | none => exact .unknown (rowOf?_eq_none_iff.1 hrow)
    | some row =>
      obtain ⟨s, field, type, hs, hfield, htype, rfl⟩ := rowOf?_pair.1 hrow
      exact .known hs hfield htype (orderingOf_eq_iff.1 rfl)
  · intro h
    cases h with
    | known hs hfield htype hordering =>
      rw [rowOf?_pair.2 ⟨_, _, _, hs, hfield, htype, rfl⟩, orderingOf_eq_iff.2 hordering]
    | unknown h =>
      have hnone : rowOf? g [mapsToField, mapsToType] text = none := rowOf?_eq_none_iff.2 h
      rw [hnone]

/-- A target has the mapping of an unknown one if it is unknown, or if its own values are empty. -/
theorem resolveTarget_eq_empty_iff :
    resolveTarget g text = {} ↔
      Unknown g text targetProperties ∨ Blank g text targetProperties := by
  rw [resolveTarget_eq_iff]
  constructor
  · intro h
    generalize hm : ({} : TargetMapping) = m at h
    cases h with
    | known hs hfield hargument =>
      obtain ⟨hempty, hempty'⟩ := TargetMapping.mk.inj hm
      exact .inr ⟨_, hs, List.forall_mem_cons.2 ⟨⟨_, hfield, hempty.symm⟩,
        List.forall_mem_singleton.2 ⟨_, hargument, hempty'.symm⟩⟩⟩
    | unknown h => exact .inl h
  · rintro (h | ⟨s, hs, hblank⟩)
    · exact .unknown h
    · obtain ⟨field, hfield, hempty⟩ := hblank mapsToField (by simp [targetProperties])
      obtain ⟨argument, hargument, hempty'⟩ :=
        hblank identifierArgument (by simp [targetProperties])
      have h := MapsTarget.known hs hfield hargument
      rwa [hempty, hempty'] at h

/-- A sub-entity has the mapping of an unknown one if it is unknown, or if its own values and the
ordering are empty. -/
theorem resolveSubEntity_eq_empty_iff {constraint : Option String} :
    resolveSubEntity g text constraint = {} ↔ Unknown g text subEntityProperties
      ∨ Blank g text subEntityProperties ∧ Orders g constraint ("", "", "") := by
  rw [resolveSubEntity_eq_iff]
  constructor
  · intro h
    generalize hm : ({} : SubEntityMapping) = m at h
    cases h with
    | known hs hfield htype hordering =>
      obtain ⟨hempty, hempty', rfl, rfl, rfl⟩ := SubEntityMapping.mk.inj hm
      exact .inr ⟨⟨_, hs, List.forall_mem_cons.2 ⟨⟨_, hfield, hempty.symm⟩,
        List.forall_mem_singleton.2 ⟨_, htype, hempty'.symm⟩⟩⟩, hordering⟩
    | unknown h => exact .inl h
  · rintro (h | ⟨⟨s, hs, hblank⟩, hordering⟩)
    · exact .unknown h
    · obtain ⟨field, hfield, hempty⟩ := hblank mapsToField (by simp [subEntityProperties])
      obtain ⟨type, htype, hempty'⟩ := hblank mapsToType (by simp [subEntityProperties])
      have h := MapsSubEntity.known hs hfield htype hordering
      rwa [hempty, hempty'] at h

/-- The ordering of a constraint has no say in what the sub-entity is called. -/
theorem resolveSubEntity_names (g : Graph) (text : String)
    (constraint constraint' : Option String) :
    (resolveSubEntity g text constraint).field = (resolveSubEntity g text constraint').field
      ∧ (resolveSubEntity g text constraint).graphqlType
        = (resolveSubEntity g text constraint').graphqlType := by
  rw [resolveSubEntity_eq, resolveSubEntity_eq]
  split <;> exact ⟨rfl, rfl⟩

/-- **A label is mapped to what its first subject states first.** In every graph, the mapping of a
target or sub-entity label has the values of a single subject: the first one that has this very text
as a plain label and all properties asked for; a label without such a subject has empty texts for a
mapping, and so has one whose first subject states empty texts. The ordering of a sub-entity comes
from a single subject of the constraint in the same way, or is empty, and has no say in the field
and the type. -/
theorem maps_first_subject (g : Graph) (text : String) :
    (∀ m, resolveTarget g text = m ↔ MapsTarget g text m)
      ∧ (resolveTarget g text = {}
        ↔ Unknown g text targetProperties ∨ Blank g text targetProperties)
      ∧ ∀ constraint,
        (∀ m, resolveSubEntity g text constraint = m ↔ MapsSubEntity g text constraint m)
          ∧ (resolveSubEntity g text constraint = {} ↔ Unknown g text subEntityProperties
            ∨ Blank g text subEntityProperties ∧ Orders g constraint ("", "", ""))
          ∧ ∀ other, (resolveSubEntity g text other).field
              = (resolveSubEntity g text constraint).field
            ∧ (resolveSubEntity g text other).graphqlType
              = (resolveSubEntity g text constraint).graphqlType :=
  ⟨fun _ => resolveTarget_eq_iff, resolveTarget_eq_empty_iff, fun constraint =>
    ⟨fun _ => resolveSubEntity_eq_iff, resolveSubEntity_eq_empty_iff,
      fun other => resolveSubEntity_names g text other constraint⟩⟩

/-- Two concepts of one label, the first of which is mapped to empty texts: the label has the
mapping of an unknown one. -/
theorem maps_to_nothing :
    ¬ ∀ (g : Graph) (text : String),
      resolveTarget g text = {} ↔ Unknown g text targetProperties := by
  intro h
  let blank := concept "Blank"
  let user := concept "User"
  let g := Graph.empty.addAll [⟨blank, label, .plain "user"⟩, ⟨blank, mapsToField, .plain ""⟩,
    ⟨blank, identifierArgument, .plain ""⟩, ⟨user, label, .plain "user"⟩,
    ⟨user, mapsToField, .plain "user"⟩, ⟨user, identifierArgument, .plain "login"⟩]
  have hempty : resolveTarget g "user" = {} := by decide
  have hall : HasAll g targetProperties user := by
    unfold HasAll
    exact List.forall_mem_cons.2 ⟨⟨.plain "user", by decide⟩,
      List.forall_mem_singleton.2 ⟨.plain "login", by decide⟩⟩
  have hlabel : Labelled g "user" user := by
    unfold Labelled
    decide
  exact (h g "user").1 hempty user hlabel hall

end ConceptQuery.Ontology
