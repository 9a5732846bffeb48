import ConceptQuery.Proofs.Rdf.Graph
import ConceptQuery.Proofs.Sparql.Grammar
import Mathlib.Data.List.Nodup

/-!
# What SPARQL queries and updates do

* `Sparql.Solution` — values of some variables;
* `Pattern.match?`, `solutions` — the solutions by which patterns are triples of a graph;
* `Operation.apply` — an operation on a graph;
* `Query.rows`, `Query.limited` — the solutions of a query, in no particular order, and those up to
  its limit;
* `Pattern.triple?_of_match?`, `mem_instances_singleton` — a pattern that was made a triple becomes
  this triple;
* `mem_triples_without` — the triples that are left when some are taken away;
* `solutions_of_only`, `solutions_of_absent` — a pattern that is one triple of a graph, or none.
-/

namespace ConceptQuery.Sparql

open Rdf

/-! ### Solutions -/

/-- Values of some variables. -/
def Solution := String → Option Term

/-- No variable has a value. -/
def Solution.empty : Solution := fun _ => none

/-- Gives a value to one more variable. -/
def Solution.bind (μ : Solution) (name : String) (value : Term) : Solution :=
  fun other => if other = name then some value else μ other

/-- Makes a node the given term: a term must be this one, and so must the value of a variable that
has one. -/
def Node.match? (n : Node) (t : Term) (μ : Solution) : Option Solution :=
  match n with
  | .term u => if u = t then some μ else none
  | .var name =>
    match μ name with
    | some u => if u = t then some μ else none
    | none => some (μ.bind name t)

/-- Makes a pattern the given triple. -/
def Pattern.match? (p : Pattern) (t : Triple) (μ : Solution) : Option Solution := do
  p.object.match? t.object (← p.predicate.match? t.predicate (← p.subject.match? t.subject μ))

/-- The ways to extend a solution so that all patterns are triples of a graph. -/
def solutions (g : Graph) : List Pattern → Solution → List Solution
  | [], μ => [μ]
  | p :: rest, μ => (g.triples.filterMap fun t => p.match? t μ).flatMap (solutions g rest)

/-- The ways to extend a solution, or the solution itself if there is none. -/
def optionally (g : Graph) (patterns : List Pattern) (μ : Solution) : List Solution :=
  match solutions g patterns μ with
  | [] => [μ]
  | extended => extended

/-! ### Updates -/

/-- The term of a node. -/
def Node.value? (n : Node) (μ : Solution) : Option Term :=
  match n with
  | .term t => some t
  | .var name => μ name

/-- The triple of a pattern. -/
def Pattern.triple? (p : Pattern) (μ : Solution) : Option Triple := do
  return ⟨← p.subject.value? μ, ← p.predicate.value? μ, ← p.object.value? μ⟩

/-- The triples that patterns become. -/
def instances (g : Graph) (patterns : List Pattern) : List Triple :=
  (solutions g patterns .empty).flatMap fun μ => patterns.filterMap (·.triple? μ)

/-- The graph without some triples. -/
def without (g : Graph) (ts : List Triple) : Graph :=
  ⟨g.triples.filter (!ts.contains ·), g.nodup.filter _⟩

/-- What an operation makes of a graph. -/
def Operation.apply (o : Operation) (g : Graph) : Graph :=
  match o with
  | .deleteWhere patterns => without g (instances g patterns)
  | .insertData triples => g.addAll triples

/-- What operations make of a graph, one after the other. -/
def update (os : List Operation) (g : Graph) : Graph :=
  os.foldl (fun g o => o.apply g) g

/-! ### Queries -/

/-- The variables that a query gives values to. -/
def Selection.names : Selection → List String
  | .values names => names
  | .count _ name => [name]

/-- The solutions of the patterns of a query. -/
def Query.matches (q : Query) (g : Graph) : List Solution :=
  let μs := solutions g q.required .empty
  match q.optional with
  | none => μs
  | some patterns => μs.flatMap (optionally g patterns)

/-- The solutions of a query, in no particular order and before its limit. -/
def Query.rows (q : Query) (g : Graph) : List Solution :=
  match q.selection with
  | .values _ => q.matches g
  | .count counted name =>
    let n := (q.matches g).countP fun μ => (μ counted).isSome
    [Solution.empty.bind name (.literal ⟨toString n, .datatype (xsd "integer")⟩)]

/-- Solutions up to the limit of a query. -/
def Query.limited (q : Query) (rows : List Solution) : List Solution :=
  match q.limit with
  | none => rows
  | some n => rows.take n

/-! ### Matching -/

variable {μ μ' : Solution} {g : Graph} {t : Triple} {name : String}

/-- A solution that has the values of another one, and maybe more. -/
def Solution.Extends (μ' μ : Solution) : Prop :=
  ∀ name value, μ name = some value → μ' name = some value

theorem Solution.Extends.trans {μ'' : Solution} (h' : μ''.Extends μ') (h : μ'.Extends μ) :
    μ''.Extends μ :=
  fun name value hvalue => h' name value (h name value hvalue)

@[simp] theorem Solution.bind_self (μ : Solution) (name : String) (value : Term) :
    μ.bind name value name = some value := if_pos rfl

@[simp] theorem Solution.bind_of_ne {other : String} (μ : Solution) (value : Term)
    (h : other ≠ name) : μ.bind name value other = μ other := if_neg h

theorem Solution.extends_bind (h : μ name = none) (value : Term) :
    (μ.bind name value).Extends μ := by
  intro other u hu
  have hne : other ≠ name := by
    rintro rfl
    rw [h] at hu
    cases hu
  rw [Solution.bind_of_ne μ value hne, hu]

theorem Node.match?_term {u v : Term} :
    Node.match? (.term u) v μ = if u = v then some μ else none := rfl

theorem Node.match?_var (h : μ name = none) (u : Term) :
    Node.match? (.var name) u μ = some (μ.bind name u) := by
  rw [Node.match?, h]

/-- A node that was made a term has this value, and keeps it. -/
theorem Node.value?_of_match? {n : Node} {u : Term} (h : n.match? u μ = some μ') :
    n.value? μ' = some u ∧ μ'.Extends μ := by
  cases n with
  | term v =>
    rw [Node.match?_term] at h
    split at h
    · next hv =>
      obtain rfl := Option.some.inj h
      exact ⟨congrArg some hv, fun _ _ hvalue => hvalue⟩
    · cases h
  | var name =>
    cases hname : μ name with
    | some v =>
      rw [Node.match?, hname] at h
      dsimp only at h
      split at h
      · next hv =>
        obtain rfl := Option.some.inj h
        exact ⟨hv ▸ hname, fun _ _ hvalue => hvalue⟩
      · cases h
    | none =>
      rw [Node.match?_var hname] at h
      obtain rfl := Option.some.inj h
      exact ⟨Solution.bind_self μ name u, Solution.extends_bind hname u⟩

theorem Node.value?_extends {n : Node} {u : Term} (h : μ'.Extends μ) (hn : n.value? μ = some u) :
    n.value? μ' = some u := by
  cases n with
  | term v => exact hn
  | var name => exact h name u hn

/-- **A pattern that was made a triple becomes this triple.** -/
theorem Pattern.triple?_of_match? {p : Pattern} (h : p.match? t μ = some μ') :
    p.triple? μ' = some t := by
  simp only [Pattern.match?, Option.bind_eq_bind, Option.bind_eq_some_iff] at h
  obtain ⟨μ₁, hsubject, μ₂, hpredicate, hobject⟩ := h
  obtain ⟨hs, -⟩ := Node.value?_of_match? hsubject
  obtain ⟨hp, hext₂⟩ := Node.value?_of_match? hpredicate
  obtain ⟨ho, hext₃⟩ := Node.value?_of_match? hobject
  have hs' := Node.value?_extends (hext₃.trans hext₂) hs
  have hp' := Node.value?_extends hext₃ hp
  simp only [Pattern.triple?, hs', hp', ho, Option.bind_eq_bind, Option.bind_some]
  rfl

/-! ### Operations -/

theorem mem_triples_without {ts : List Triple} :
    t ∈ (without g ts).triples ↔ t ∈ g.triples ∧ t ∉ ts := by
  simp [without]

theorem solutions_singleton (p : Pattern) (μ : Solution) :
    solutions g [p] μ = g.triples.filterMap fun t => p.match? t μ := by
  have hone : solutions g [] = fun μ => [μ] := by
    funext ν
    rfl
  rw [solutions, hone, List.flatMap_singleton']

/-- One pattern becomes the triples that it can be made. -/
theorem mem_instances_singleton {p : Pattern} :
    t ∈ instances g [p] ↔ t ∈ g.triples ∧ (p.match? t .empty).isSome = true := by
  simp only [instances, solutions_singleton, List.mem_flatMap, List.mem_filterMap,
    List.mem_singleton, exists_eq_left, Option.isSome_iff_exists]
  constructor
  · rintro ⟨μ, ⟨u, hu, hmatch⟩, htriple⟩
    rw [Pattern.triple?_of_match? hmatch] at htriple
    obtain rfl := Option.some.inj htriple
    exact ⟨hu, μ, hmatch⟩
  · rintro ⟨ht, μ, hmatch⟩
    exact ⟨μ, ⟨t, ht, hmatch⟩, Pattern.triple?_of_match? hmatch⟩

/-! ### Patterns that are one triple, or none -/

theorem filterMap_eq_singleton {α β : Type} {f : α → Option β} {l : List α} {a : α} {b : β}
    (hnodup : l.Nodup) (ha : a ∈ l) (hb : f a = some b) (honly : ∀ x ∈ l, x ≠ a → f x = none) :
    l.filterMap f = [b] := by
  obtain ⟨before, after, rfl⟩ := List.append_of_mem ha
  have hapart := List.nodup_middle.1 hnodup
  rw [List.nodup_cons, List.mem_append, not_or] at hapart
  have hbefore : before.filterMap f = [] := by
    rw [List.filterMap_eq_nil_iff]
    intro x hx
    exact honly x (List.mem_append_left _ hx) fun h => hapart.1.1 (h ▸ hx)
  have hafter : after.filterMap f = [] := by
    rw [List.filterMap_eq_nil_iff]
    intro x hx
    exact honly x (List.mem_append_right _ (List.mem_cons_of_mem a hx)) fun h => hapart.1.2 (h ▸ hx)
  rw [List.filterMap_append, List.filterMap_cons_some hb, hbefore, hafter]
  rfl

/-- A subject has one object for a predicate. -/
structure Only (g : Graph) (s p o : Term) : Prop where
  mem : ⟨s, p, o⟩ ∈ g.triples
  eq_of_mem : ∀ o', ⟨s, p, o'⟩ ∈ g.triples → o' = o

/-- The object of a pattern whose subject and predicate are given. -/
theorem Pattern.match?_object {s p : Term} {n : Node} :
    Pattern.match? ⟨.term s, .term p, n⟩ t μ
      = if s = t.subject ∧ p = t.predicate then n.match? t.object μ else none := by
  rw [Pattern.match?]
  simp only [Node.match?_term]
  by_cases hs : s = t.subject
  · by_cases hp : p = t.predicate
    · simp [hs, hp]
    · simp [hs, hp]
  · simp [hs]

/-- A pattern that only one triple can be made. -/
theorem solutions_of_only {s p o : Term} {n : Node} (h : Only g s p o)
    (hn : n.match? o μ = some μ') (rest : List Pattern) :
    solutions g (⟨.term s, .term p, n⟩ :: rest) μ = solutions g rest μ' := by
  have hmatch : Pattern.match? ⟨.term s, .term p, n⟩ ⟨s, p, o⟩ μ = some μ' := by
    rw [Pattern.match?_object, if_pos ⟨rfl, rfl⟩, hn]
  have honly : ∀ t ∈ g.triples, t ≠ ⟨s, p, o⟩ →
      Pattern.match? ⟨.term s, .term p, n⟩ t μ = none := by
    intro t ht hne
    rw [Pattern.match?_object, if_neg]
    rintro ⟨rfl, rfl⟩
    have ho := h.eq_of_mem t.object ht
    exact hne (by rw [← ho])
  rw [solutions, filterMap_eq_singleton g.nodup h.mem hmatch honly, List.flatMap_singleton]

/-- A pattern that no triple can be made. -/
theorem solutions_of_absent {s p : Term} {n : Node} (h : ∀ o, ⟨s, p, o⟩ ∉ g.triples)
    (rest : List Pattern) : solutions g (⟨.term s, .term p, n⟩ :: rest) μ = [] := by
  have hnone : g.triples.filterMap (fun t => Pattern.match? ⟨.term s, .term p, n⟩ t μ) = [] := by
    rw [List.filterMap_eq_nil_iff]
    intro t ht
    rw [Pattern.match?_object, if_neg]
    rintro ⟨rfl, rfl⟩
    exact h t.object ht
  rw [solutions, hnone, List.flatMap_nil]

end ConceptQuery.Sparql
