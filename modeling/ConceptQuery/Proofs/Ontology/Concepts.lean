import ConceptQuery.Proofs.Ontology.Resolver
import ConceptQuery.Proofs.Rdf.Graph
import ConceptQuery.Proofs.Turtle.Names
import ConceptQuery.Proofs.Turtle.Statements
import ConceptQuery.Proofs.Turtle.Strings
import Mathlib.Data.List.Nodup

/-!
# Tables of concepts

What a mapping document is written for: a table with a row for every concept, which says what the
concept is called in the schema of an API.

* `Ontology.Name`, `Ontology.Quoted` — names and texts together with how they are written;
* `Ontology.Property`, `Ontology.Row`, `Ontology.Concept`, `Ontology.ConceptTable` — tables;
* `Row.targetMapping`, `Row.ordering`, `Row.subEntityMapping` — what a row says in each role;
* `ConceptTable.Lacks`, `ConceptTable.Orders` — labels of no row, and what constraints ask for;
* `ConceptTable.graph` — the triples of a table;
* `value?_graph`, `rowOf?_of_mem`, `rowOf?_of_lacks` — the values of a row, with no other row in the
  way;
* `resolveTarget_of_mem`, `resolveSubEntity_of_mem`, `resolveTarget_of_lacks`,
  `resolveSubEntity_of_lacks` — the triples of a table say what its rows do.
-/

namespace ConceptQuery.Ontology

open Rdf

/-! ### Tables -/

/-- A local name, and how it is written. -/
structure Name where
  written : List Char
  name : String
  spelled : Turtle.LocalName written name.toList

/-- A text, and how it is written between its quotes. -/
structure Quoted where
  inside : List Char
  text : String
  spelled : Turtle.StringText inside text.toList

/-- The properties that are looked up. -/
inductive Property where
  | field
  | argument
  | type
  | argumentField
  | orderingField
  | direction
deriving Repr, DecidableEq

/-- The local name of a property. -/
def Property.name : Property → String
  | .field => "mapsToField"
  | .argument => "identifierArgument"
  | .type => "mapsToGraphQLType"
  | .argumentField => "mapsToArgumentField"
  | .orderingField => "mapsToOrderingField"
  | .direction => "defaultDirection"

/-- A property as a term. -/
def Property.term (p : Property) : Term :=
  concept p.name

/-- What a concept is mapped to. -/
inductive Row where
  | target (field argument : Quoted)
  | subEntity (field type : Quoted)
  | both (field argument type : Quoted)
  | constraint (argumentField orderingField direction : Quoted)

namespace Row

/-- The properties of a row in the order in which they are written, with their values. -/
def properties : Row → List (Property × Quoted)
  | target field argument => [(.field, field), (.argument, argument)]
  | subEntity field type => [(.field, field), (.type, type)]
  | both field argument type => [(.field, field), (.argument, argument), (.type, type)]
  | constraint argumentField orderingField direction =>
    [(.argumentField, argumentField), (.orderingField, orderingField), (.direction, direction)]

/-- The text of a property. -/
def value? (row : Row) (p : Property) : Option String :=
  (row.properties.find? (·.1 = p)).map (·.2.text)

/-- The mapping of a row as a target. -/
def targetMapping : Row → TargetMapping
  | target field argument | both field argument _ => ⟨field.text, argument.text⟩
  | _ => {}

/-- The ordering of a row as a constraint: argument, field and direction. -/
def ordering : Row → String × String × String
  | constraint argument field direction => (argument.text, field.text, direction.text)
  | _ => ("", "", "")

/-- The mapping of a row as a sub-entity, with the parts of an ordering. -/
def subEntityMapping (parts : String × String × String) : Row → SubEntityMapping
  | subEntity field type | both field _ type =>
    ⟨field.text, type.text, parts.1, parts.2.1, parts.2.2⟩
  | _ => {}

end Row

/-- A concept: its local name, the classes it is stated to be in, its label, and its row. -/
structure Concept where
  name : Name
  classes : List Name
  label : Quoted
  row : Row

/-- Concepts with local names and labels of their own. -/
structure ConceptTable where
  concepts : List Concept
  names_nodup : (concepts.map (·.name.name)).Nodup
  labels_nodup : (concepts.map (·.label.text)).Nodup

namespace ConceptTable

/-- A text is the label of no concept. -/
def Lacks (table : ConceptTable) (text : String) : Prop :=
  ∀ c ∈ table.concepts, c.label.text ≠ text

/-- The ordering that a constraint asks for: the one of its row, or none. -/
inductive Orders (table : ConceptTable) : Option String → String × String × String → Prop where
  | unasked : Orders table none ("", "", "")
  | known {c : Concept} (hc : c ∈ table.concepts) : Orders table (some c.label.text) c.row.ordering
  | unknown {text : String} (h : table.Lacks text) : Orders table (some text) ("", "", "")

end ConceptTable

variable {table : ConceptTable} {c c' : Concept} {p : Property} {text : String} {node s : Term}
  {constraint : Option String}

/-! ### The triples of a table -/

/-- The resource of a concept. -/
def Concept.subject (c : Concept) : Term :=
  concept c.name.name

/-- What is stated of a concept. -/
def Concept.pairs (c : Concept) : List (Term × Term) :=
  c.classes.map (fun n => (Turtle.rdfName "type", concept n.name))
    ++ (Ontology.label, .plain c.label.text)
      :: c.row.properties.map fun v => (v.1.term, .plain v.2.text)

/-- The triples of a concept. -/
def Concept.triples (c : Concept) : List Triple :=
  Turtle.about c.subject c.pairs

/-- The graph of a table. -/
def ConceptTable.graph (table : ConceptTable) : Graph :=
  Graph.empty.addAll (table.concepts.flatMap Concept.triples)

theorem concept_injective : Function.Injective concept := by
  intro a b h
  have hsame := congrArg String.toList (Term.iri.inj h)
  rw [String.toList_append, String.toList_append] at hsame
  exact String.toList_injective (List.append_cancel_left hsame)

theorem subject_injOn (hc : c ∈ table.concepts) (hc' : c' ∈ table.concepts)
    (h : c.subject = c'.subject) : c = c' :=
  List.inj_on_of_nodup_map table.names_nodup hc hc' (concept_injective h)

theorem mem_graph {predicate object : Term} : ⟨s, predicate, object⟩ ∈ table.graph.triples
    ↔ ∃ c ∈ table.concepts, s = c.subject ∧ (predicate, object) ∈ c.pairs := by
  unfold ConceptTable.graph
  have hempty : ⟨s, predicate, object⟩ ∉ Graph.empty.triples := List.not_mem_nil
  rw [Graph.mem_triples_addAll, or_iff_left hempty, List.mem_flatMap]
  refine exists_congr fun c => and_congr_right fun _ => ?_
  unfold Concept.triples Turtle.about
  rw [List.mem_map]
  constructor
  · rintro ⟨pair, hpair, hsame⟩
    obtain ⟨rfl, rfl, rfl⟩ := Triple.mk.inj hsame
    exact ⟨rfl, hpair⟩
  · rintro ⟨rfl, hpair⟩
    exact ⟨_, hpair, rfl⟩

/-! ### Looking up -/

theorem Property.term_injective : Function.Injective Property.term := by
  intro p q h
  have hname := concept_injective h
  cases p <;> cases q <;> first | rfl | exact absurd hname (by decide)

theorem Property.term_ne (p : Property) : p.term ≠ label ∧ p.term ≠ Turtle.rdfName "type" := by
  cases p <;> decide

/-- Entries with keys of their own are found by them. -/
theorem find?_key_eq_some_iff {α κ : Type} [DecidableEq κ] {key : α → κ} {xs : List α}
    (hnodup : (xs.map key).Nodup) {k : κ} {x : α} :
    xs.find? (fun y => key y = k) = some x ↔ x ∈ xs ∧ key x = k := by
  constructor
  · intro h
    exact ⟨List.mem_of_find?_eq_some h, by simpa using List.find?_some h⟩
  · rintro ⟨hx, rfl⟩
    have hfound : (xs.find? fun y => key y = key x).isSome :=
      List.find?_isSome.2 ⟨x, hx, decide_eq_true rfl⟩
    obtain ⟨y, hy⟩ := Option.isSome_iff_exists.1 hfound
    have hkey : key y = key x := by simpa using List.find?_some hy
    rw [hy, List.inj_on_of_nodup_map hnodup (List.mem_of_find?_eq_some hy) hx hkey]

theorem Row.properties_nodup (row : Row) : (row.properties.map (·.1)).Nodup := by
  cases row <;> simp [Row.properties]

/-- A property has one value in a row. -/
theorem Row.value?_eq_some_iff {row : Row} :
    row.value? p = some text ↔ ∃ q, (p, q) ∈ row.properties ∧ q.text = text := by
  unfold Row.value?
  simp only [Option.map_eq_some_iff, find?_key_eq_some_iff row.properties_nodup]
  constructor
  · rintro ⟨⟨_, q⟩, ⟨hq, rfl⟩, rfl⟩
    exact ⟨q, hq, rfl⟩
  · rintro ⟨q, hq, rfl⟩
    exact ⟨_, ⟨hq, rfl⟩, rfl⟩

theorem property_mem_pairs :
    (p.term, node) ∈ c.pairs ↔ ∃ text, c.row.value? p = some text ∧ node = .plain text := by
  unfold Concept.pairs
  simp only [Row.value?_eq_some_iff, List.mem_append, List.mem_cons, List.mem_map, Prod.mk.injEq]
  constructor
  · rintro (⟨_, -, htype, -⟩ | ⟨hlabel, -⟩ | ⟨⟨p', q⟩, hq, hterm, rfl⟩)
    · exact absurd htype.symm p.term_ne.2
    · exact absurd hlabel p.term_ne.1
    · obtain rfl := Property.term_injective hterm
      exact ⟨_, ⟨q, hq, rfl⟩, rfl⟩
  · rintro ⟨_, ⟨q, hq, rfl⟩, rfl⟩
    exact .inr (.inr ⟨_, hq, rfl, rfl⟩)

theorem label_mem_pairs : (label, node) ∈ c.pairs ↔ node = .plain c.label.text := by
  unfold Concept.pairs
  simp only [List.mem_append, List.mem_cons, List.mem_map, Prod.mk.injEq, true_and]
  constructor
  · rintro (⟨_, -, htype, -⟩ | hnode | ⟨v, -, hterm, -⟩)
    · exact absurd htype (by decide)
    · exact hnode
    · exact absurd hterm v.1.term_ne.1
  · exact fun hnode => .inr (.inl hnode)

/-- A value that is the only one for a property of a subject is the first one. -/
theorem FirstValue.of_unique {g : Graph} {property value : Term}
    (hmem : ⟨s, property, value⟩ ∈ g.triples)
    (h : ∀ other, ⟨s, property, other⟩ ∈ g.triples → other = value) :
    FirstValue g s property value := by
  obtain ⟨before, after, hsplit⟩ := List.append_of_mem hmem
  refine ⟨before, after, hsplit, fun other hother => ?_⟩
  obtain rfl := h other (hsplit ▸ List.mem_append_left _ hother)
  have hnodup := g.nodup
  rw [hsplit] at hnodup
  exact (List.nodup_append.1 hnodup).2.2 _ hother _ List.mem_cons_self rfl

/-- **The value of a property is that of the row**: no other row states one of this concept. -/
theorem value?_graph (hc : c ∈ table.concepts) (p : Property) :
    table.graph.value? c.subject p.term = (c.row.value? p).map Term.plain := by
  have hmem (node : Term) : ⟨c.subject, p.term, node⟩ ∈ table.graph.triples
      ↔ ∃ text, c.row.value? p = some text ∧ node = .plain text := by
    rw [mem_graph, ← property_mem_pairs]
    constructor
    · rintro ⟨c', hc', hsubject, hpair⟩
      rwa [subject_injOn hc hc' hsubject]
    · exact fun hpair => ⟨c, hc, rfl, hpair⟩
  cases hvalue : c.row.value? p with
  | none =>
    refine value?_eq_none_iff.2 fun node hnode => ?_
    obtain ⟨text, htext, -⟩ := (hmem node).1 hnode
    rw [hvalue] at htext
    cases htext
  | some text =>
    refine value?_eq_some_iff.2 (.of_unique ((hmem _).2 ⟨text, hvalue, rfl⟩) fun node hnode => ?_)
    obtain ⟨text', htext', rfl⟩ := (hmem node).1 hnode
    rw [hvalue] at htext'
    rw [Option.some.inj htext']

theorem values?_graph (hc : c ∈ table.concepts) (ps : List Property) :
    values? table.graph c.subject (ps.map Property.term) = ps.mapM c.row.value? := by
  unfold values?
  rw [List.mapM_map]
  congr 1
  funext p
  rw [Function.comp_apply, value?_graph hc, Option.map_map]
  exact Option.map_id'

theorem mem_subjects {g : Graph} {predicate object : Term} :
    s ∈ g.subjects predicate object ↔ ⟨s, predicate, object⟩ ∈ g.triples := by
  unfold Graph.subjects
  simp only [List.mem_map, List.mem_filter, decide_eq_true_eq]
  constructor
  · rintro ⟨⟨_, _, _⟩, ⟨hmem, rfl, rfl⟩, rfl⟩
    exact hmem
  · exact fun hmem => ⟨_, ⟨hmem, rfl, rfl⟩, rfl⟩

/-- The subjects with a label are the concept with this label, and nothing else. -/
theorem mem_subjects_graph : s ∈ table.graph.subjects label (.plain text)
    ↔ ∃ c ∈ table.concepts, c.label.text = text ∧ s = c.subject := by
  rw [mem_subjects, mem_graph]
  refine exists_congr fun c => and_congr_right fun hc => ?_
  rw [label_mem_pairs, and_comm]
  refine and_congr_left fun _ => ⟨fun h => ?_, fun h => by rw [h]⟩
  exact (Literal.mk.inj (Term.literal.inj h)).1.symm

/-- **The values for a label are those of its row.** -/
theorem rowOf?_of_mem (hc : c ∈ table.concepts) (ps : List Property) :
    rowOf? table.graph (ps.map Property.term) c.label.text = ps.mapM c.row.value? := by
  have hall : ∀ s ∈ table.graph.subjects label (.plain c.label.text), s = c.subject := by
    intro s hs
    obtain ⟨c', hc', hlabel, rfl⟩ := mem_subjects_graph.1 hs
    rw [List.inj_on_of_nodup_map table.labels_nodup hc' hc hlabel]
  have hmem : c.subject ∈ table.graph.subjects label (.plain c.label.text) :=
    mem_subjects_graph.2 ⟨c, hc, rfl, rfl⟩
  rw [rowOf?, List.eq_replicate_of_mem hall,
    List.findSome?_replicate_of_pos (List.length_pos_of_mem hmem), values?_graph hc]

/-- There are no values for any other label. -/
theorem rowOf?_of_lacks (h : table.Lacks text) (properties : List Term) :
    rowOf? table.graph properties text = none := by
  refine List.findSome?_eq_none_iff.2 fun s hs => ?_
  obtain ⟨c, hc, hlabel, -⟩ := mem_subjects_graph.1 hs
  exact absurd hlabel (h c hc)

/-! ### The triples say what the rows do -/

/-- A target is mapped to the values of its row, or to nothing if the row is not one of a target. -/
theorem resolveTarget_of_mem (hc : c ∈ table.concepts) :
    resolveTarget table.graph c.label.text = c.row.targetMapping := by
  have hrow : rowOf? table.graph [mapsToField, identifierArgument] c.label.text
      = [.field, .argument].mapM c.row.value? := rowOf?_of_mem hc [.field, .argument]
  rw [resolveTarget, hrow]
  cases c.row <;> rfl

theorem resolveTarget_of_lacks (h : table.Lacks text) : resolveTarget table.graph text = {} := by
  rw [resolveTarget, rowOf?_of_lacks h]

theorem orderingOf_graph {parts : String × String × String} (h : table.Orders constraint parts) :
    orderingOf table.graph constraint = parts := by
  cases h with
  | unasked => rfl
  | @known c hc =>
    have hrow : rowOf? table.graph [mapsToArgumentField, mapsToOrderingField, defaultDirection]
        c.label.text = [.argumentField, .orderingField, .direction].mapM c.row.value? :=
      rowOf?_of_mem hc [.argumentField, .orderingField, .direction]
    rw [orderingOf, resolveConstraint, hrow]
    cases c.row <;> rfl
  | unknown h => rw [orderingOf, resolveConstraint, rowOf?_of_lacks h]

/-- A sub-entity is mapped to the values of its row and the ordering of the constraint, or to
nothing if the row is not one of a sub-entity. -/
theorem resolveSubEntity_of_mem (hc : c ∈ table.concepts) {parts : String × String × String}
    (h : table.Orders constraint parts) :
    resolveSubEntity table.graph c.label.text constraint = c.row.subEntityMapping parts := by
  have hrow : rowOf? table.graph [mapsToField, mapsToType] c.label.text
      = [.field, .type].mapM c.row.value? := rowOf?_of_mem hc [.field, .type]
  rw [resolveSubEntity_eq, hrow, orderingOf_graph h]
  cases c.row <;> rfl

theorem resolveSubEntity_of_lacks (h : table.Lacks text) (constraint : Option String) :
    resolveSubEntity table.graph text constraint = {} := by
  rw [resolveSubEntity_eq, rowOf?_of_lacks h]

end ConceptQuery.Ontology
