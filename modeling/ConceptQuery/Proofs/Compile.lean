import ConceptQuery.Compile
import ConceptQuery.Proofs.GraphQL.Rendering
import ConceptQuery.Proofs.Intent.Validation
import ConceptQuery.Proofs.Variant.Registry

/-!
# Compiled queries

The text of a compiled query is read back as one anonymous query whose tree is told by the variant,
the intent and the mappings alone.

* `TargetMapping.Named`, `SubEntityMapping.Named` — mappings whose texts are empty or names;
* `queryTree` — the tree of a query: a concept without a name leaves its place to what is inside;
* `spliceAll_selections`, `allRenderable_selections` — the document of a template has this tree and
  can be written;
* `read_compile` — a compiled query is read back as its tree.
-/

namespace ConceptQuery

open GraphQL

/-! ### Mappings and the trees they give -/

/-- A text that is empty or a name. -/
def IsNameOrEmpty (s : String) : Prop :=
  s = "" ∨ Intent.isFieldName s = true

/-- A mapping whose texts are empty or names. -/
structure TargetMapping.Named (t : TargetMapping) : Prop where
  field : IsNameOrEmpty t.field
  identifierArgument : IsNameOrEmpty t.identifierArgument

/-- A mapping whose texts are empty or names; those that are written as enumeration values are not
reserved for other values. -/
structure SubEntityMapping.Named (s : SubEntityMapping) : Prop where
  field : IsNameOrEmpty s.field
  argumentField : IsNameOrEmpty s.argumentField
  orderingField : IsNameOrEmpty s.orderingField
  defaultDirection : IsNameOrEmpty s.defaultDirection
  orderingField_free : s.orderingField ∉ reservedNames
  defaultDirection_free : s.defaultDirection ∉ reservedNames

/-- A field around selections, or these selections alone if the field has no name. -/
def fieldAround (name : String) (arguments : List (Argument Int)) (inner : List (Selection Int)) :
    List (Selection Int) :=
  if name = "" then inner else [.field name arguments inner]

/-- The argument that finds the entity, if it has a name. -/
def identifierArguments (t : TargetMapping) (identifier : String) : List (Argument Int) :=
  if t.identifierArgument = "" then [] else [⟨t.identifierArgument, .string identifier⟩]

/-- The page size, and the ordering exactly if none of its parts is empty. -/
def pageArguments (s : SubEntityMapping) (limit : Int) : List (Argument Int) :=
  ⟨"first", .int limit⟩ ::
    if s.argumentField = "" ∨ s.orderingField = "" ∨ s.defaultDirection = "" then []
    else [⟨s.argumentField, .object [("field", .enum s.orderingField),
      ("direction", .enum s.defaultDirection)]⟩]

/-- The tree of the query of an intent with its mappings. -/
def queryTree (template : Template) (i : Intent) (t : TargetMapping) (s : SubEntityMapping) :
    List (Selection Int) :=
  let leaves := i.fields.map fun name => .field name [] []
  fieldAround t.field (identifierArguments t i.identifier)
    (match template with
    | .simple => fieldAround s.field [] leaves
    | .paginated => fieldAround s.field (pageArguments s i.limit) [.field "nodes" [] leaves])

/-! ### The arguments of a template -/

theorem wellNamed_identifierArguments {t : TargetMapping} (ht : t.Named) (identifier : String) :
    ∀ a ∈ identifierArguments t identifier, a.WellNamed := by
  intro a ha
  unfold identifierArguments at ha
  by_cases hempty : t.identifierArgument = ""
  · rw [if_pos hempty] at ha
    cases ha
  · rw [if_neg hempty] at ha
    obtain rfl := List.mem_singleton.1 ha
    exact ⟨ht.identifierArgument.resolve_left hempty, trivial⟩

theorem connectionArguments_eq (s : SubEntityMapping) (limit : Int) :
    s.connectionArguments limit = pageArguments s limit := by
  unfold SubEntityMapping.connectionArguments pageArguments
  by_cases hempty : s.argumentField = "" ∨ s.orderingField = "" ∨ s.defaultDirection = ""
  · have hordering : s.hasOrdering = false := by
      rcases hempty with h | h | h <;> simp [SubEntityMapping.hasOrdering, h]
    rw [if_pos hempty, hordering, if_neg Bool.false_ne_true]
  · have hordering : s.hasOrdering = true := by
      rw [not_or, not_or] at hempty
      simpa [SubEntityMapping.hasOrdering, and_assoc] using hempty
    rw [if_neg hempty, if_pos hordering]

theorem wellNamed_pageArguments {s : SubEntityMapping} (hs : s.Named) (limit : Int) :
    ∀ a ∈ pageArguments s limit, a.WellNamed := by
  intro a ha
  unfold pageArguments at ha
  have hfirst : Intent.isFieldName "first" = true := by decide
  rcases List.mem_cons.1 ha with rfl | ha
  · exact ⟨hfirst, trivial⟩
  by_cases hempty : s.argumentField = "" ∨ s.orderingField = "" ∨ s.defaultDirection = ""
  · rw [if_pos hempty] at ha
    cases ha
  · rw [if_neg hempty] at ha
    obtain rfl := List.mem_singleton.1 ha
    rw [not_or, not_or] at hempty
    obtain ⟨hargument, hfield, hdirection⟩ := hempty
    refine ⟨hs.argumentField.resolve_left hargument, by decide, ?_, by decide, ?_, trivial⟩
    · exact ⟨hs.orderingField.resolve_left hfield, hs.orderingField_free⟩
    · exact ⟨hs.defaultDirection.resolve_left hdirection, hs.defaultDirection_free⟩

/-! ### The document of a template -/

theorem spliceAll_field (name : String) (arguments : List (Argument Int))
    (children : List (Selection Int)) :
    spliceAll [.field name arguments children]
      = fieldAround name arguments (spliceAll children) := by
  rw [spliceAll, Selection.splice, spliceAll, List.append_nil]
  simp only [fieldAround, String.isEmpty_iff]

theorem fieldAround_ne_nil {name : String} {arguments : List (Argument Int)}
    {inner : List (Selection Int)} (h : inner ≠ []) : fieldAround name arguments inner ≠ [] := by
  unfold fieldAround
  split
  · exact h
  · exact List.cons_ne_nil _ _

theorem allRenderable_field {name : String} {arguments : List (Argument Int)}
    {children : List (Selection Int)} (hname : IsNameOrEmpty name)
    (ha : ∀ a ∈ arguments, a.WellNamed) (hc : AllRenderable children)
    (hne : spliceAll children ≠ []) : AllRenderable [.field name arguments children] :=
  ⟨⟨fun h => ⟨hname.resolve_left h, ha, fun _ => hne⟩, hc⟩, trivial⟩

theorem ne_empty_of_isFieldName {name : String} (h : Intent.isFieldName name = true) :
    name ≠ "" := by
  rintro rfl
  revert h
  decide

/-- Leaves with names stay as they are. -/
theorem spliceAll_leaves {names : List String}
    (h : ∀ name ∈ names, Intent.isFieldName name = true) :
    spliceAll (names.map fun name => (.field name [] [] : Selection Int))
      = names.map fun name => .field name [] [] := by
  induction names with
  | nil => rfl
  | cons name more ih =>
    have hname := ne_empty_of_isFieldName (h name List.mem_cons_self)
    rw [List.map_cons, spliceAll, ih fun n hn => h n (List.mem_cons_of_mem name hn)]
    simp [Selection.splice, spliceAll, hname]

theorem allRenderable_leaves {names : List String}
    (h : ∀ name ∈ names, Intent.isFieldName name = true) :
    AllRenderable (names.map fun name => .field name [] []) := by
  induction names with
  | nil => trivial
  | cons name more ih =>
    have hname := h name List.mem_cons_self
    refine ⟨⟨fun _ => ⟨hname, ?_, fun hne => absurd rfl hne⟩, trivial⟩, ?_⟩
    · intro a ha
      cases ha
    · exact ih fun n hn => h n (List.mem_cons_of_mem name hn)

theorem Intent.Valid.spliceAll_leaves_ne_nil {i : Intent} (hi : i.Valid) :
    spliceAll i.leaves ≠ [] := by
  rw [Intent.leaves, spliceAll_leaves hi.fields_names]
  simpa using hi.fields_ne

/-- The document of a template has the tree of the query. -/
theorem spliceAll_selections (template : Template) {i : Intent} (hi : i.Valid) (t : TargetMapping)
    (s : SubEntityMapping) :
    spliceAll (template.selections i t s) = queryTree template i t s := by
  have hleaves := spliceAll_leaves hi.fields_names
  have hidentifier : (if t.identifierArgument.isEmpty then []
      else [⟨t.identifierArgument, .string i.identifier⟩])
        = identifierArguments t i.identifier := by
    simp only [identifierArguments, String.isEmpty_iff]
  cases template with
  | simple =>
    rw [Template.selections, TargetMapping.around, spliceAll_field, spliceAll_field, hidentifier,
      Intent.leaves, hleaves]
    rfl
  | paginated =>
    rw [Template.selections, TargetMapping.around, spliceAll_field, spliceAll_field,
      spliceAll_field, hidentifier, connectionArguments_eq, Intent.leaves, hleaves]
    rfl

/-- The document of a template can be written: no pair of braces is left empty, since there is a
projected field. -/
theorem allRenderable_selections (template : Template) {i : Intent} (hi : i.Valid)
    {t : TargetMapping} (ht : t.Named) {s : SubEntityMapping} (hs : s.Named) :
    AllRenderable (template.selections i t s) := by
  have hleaves : AllRenderable i.leaves := allRenderable_leaves hi.fields_names
  have hne : spliceAll i.leaves ≠ [] := hi.spliceAll_leaves_ne_nil
  have around {child : Selection Int} (hc : AllRenderable [child]) (hn : spliceAll [child] ≠ []) :
      AllRenderable [t.around i.identifier child] := by
    refine allRenderable_field ht.field ?_ hc hn
    have ha := wellNamed_identifierArguments ht i.identifier
    simpa only [identifierArguments, String.isEmpty_iff] using ha
  cases template with
  | simple =>
    apply around
    · exact allRenderable_field hs.field (by simp) hleaves hne
    · rw [spliceAll_field]
      exact fieldAround_ne_nil hne
  | paginated =>
    have hnodes : AllRenderable [.field "nodes" [] i.leaves] :=
      allRenderable_field (.inr (by decide)) (by simp) hleaves hne
    have hnodesNe : spliceAll [.field "nodes" [] i.leaves] ≠ [] := by
      rw [spliceAll_field]
      exact fieldAround_ne_nil hne
    apply around
    · rw [connectionArguments_eq]
      exact allRenderable_field hs.field (wellNamed_pageArguments hs i.limit) hnodes hnodesNe
    · rw [spliceAll_field]
      exact fieldAround_ne_nil hnodesNe

/-! ### The query as text -/

theorem queryTree_ne_nil (template : Template) {i : Intent} (hi : i.Valid) (t : TargetMapping)
    (s : SubEntityMapping) : queryTree template i t s ≠ [] := by
  have hleaves : (i.fields.map fun name => (.field name [] [] : Selection Int)) ≠ [] := by
    simpa using hi.fields_ne
  apply fieldAround_ne_nil
  cases template with
  | simple => exact fieldAround_ne_nil hleaves
  | paginated => exact fieldAround_ne_nil (List.cons_ne_nil _ _)

/-- **A compiled query is read back as its tree.** An intent that was read from a text is compiled
for any registered variant and any mappings of names, and its text is one anonymous query with just
the tree of the query. -/
theorem read_compile {raw : String} {i : Intent} {variants : Registry} {v : Variant}
    {t : TargetMapping} {s : SubEntityMapping} (hi : Intent.ofText raw = .ok i)
    (hv : variants.get (some i.api) = .ok v) (ht : t.Named) (hs : s.Named) :
    ∃ text, compile variants i t s = .ok text
      ∧ GraphQL.read text = some (queryTree v.template i t s) := by
  have hvalid := Intent.valid_of_ofText hi
  have htree := spliceAll_selections v.template hvalid t s
  refine ⟨render (v.template.selections i t s), ?_, ?_⟩
  · rw [compile, hv]
    rfl
  · rw [← htree]
    apply read_render
    · exact allRenderable_selections v.template hvalid ht hs
    · rw [htree]
      exact queryTree_ne_nil v.template hvalid t s

/-- A paged query with an ordering, for an identifier with a quote, a brace, a line end and a
backslash. -/
theorem read_compile_paginated :
    ∃ text, compile (Registry.empty.insert ⟨"GIT", .paginated, "git.ttl", "http://git", none⟩)
        ⟨"QUERY", "Owner", "a\"\x7b\n\\", "Repository", 10, [], ["name", "url", "name"], "git"⟩
        ⟨"user", "login"⟩ ⟨"repositories", "", "orderBy", "STARGAZERS", "DESC"⟩ = .ok text
      ∧ GraphQL.read text = some [.field "user" [⟨"login", .string "a\"\x7b\n\\"⟩]
          [.field "repositories"
            [⟨"first", .int 10⟩, ⟨"orderBy", .object [("field", .enum "STARGAZERS"),
              ("direction", .enum "DESC")]⟩]
            [.field "nodes" []
              [.field "name" [] [], .field "url" [] [], .field "name" [] []]]]] := by
  have hi : Intent.ofText
      ("\x7b\"target\": \"Owner\", \"identifier\": \"a\\\"\x7b\\n\\\\\", "
        ++ "\"subEntity\": \"Repository\", \"limit\": 10, "
        ++ "\"fields\": [\"name\", \"url\", \"name\"], \"api\": \"git\"\x7d")
      = .ok ⟨"QUERY", "Owner", "a\"\x7b\n\\", "Repository", 10, [], ["name", "url", "name"],
          "git"⟩ := Except.eq_ok_of_toOption (by decide +kernel)
  have hv : (Registry.empty.insert ⟨"GIT", .paginated, "git.ttl", "http://git", none⟩).get
      (some "git") = .ok ⟨"GIT", .paginated, "git.ttl", "http://git", none⟩ :=
    Registry.get_insert _ (by decide +kernel)
  have ht : TargetMapping.Named ⟨"user", "login"⟩ := ⟨.inr (by decide), .inr (by decide)⟩
  have hs : SubEntityMapping.Named ⟨"repositories", "", "orderBy", "STARGAZERS", "DESC"⟩ :=
    ⟨.inr (by decide), .inr (by decide), .inr (by decide), .inr (by decide), by decide, by decide⟩
  exact read_compile hi hv ht hs

end ConceptQuery
