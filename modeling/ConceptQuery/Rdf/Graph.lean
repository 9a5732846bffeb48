import ConceptQuery.Rdf.Term

/-!
# Graphs

A graph holds every triple once, in the order in which triples were first stated.

* `Rdf.Graph` — triples without repetition;
* `Rdf.Graph.add`, `Rdf.Graph.addAll` — stating triples;
* `Rdf.Graph.subjects`, `Rdf.Graph.value?` — looking triples up in the order of statement.
-/

namespace ConceptQuery.Rdf

/-- Triples without repetition. -/
structure Graph where
  triples : List Triple
  nodup : triples.Nodup

namespace Graph

/-- The graph without triples. -/
def empty : Graph := ⟨[], List.nodup_nil⟩

instance : Inhabited Graph := ⟨empty⟩

/-- States a triple; one that is there already keeps its place. -/
def add (g : Graph) (t : Triple) : Graph :=
  if h : t ∈ g.triples then g
  else ⟨g.triples ++ [t], by
    rw [List.nodup_append]
    exact ⟨g.nodup, by simp, by
      intro a ha b hb
      rw [List.mem_singleton] at hb
      rintro rfl
      exact h (hb ▸ ha)⟩⟩

/-- States triples one after the other. -/
def addAll (g : Graph) (ts : List Triple) : Graph :=
  ts.foldl add g

/-- The subjects that have an object for a predicate. -/
def subjects (g : Graph) (predicate object : Term) : List Term :=
  (g.triples.filter fun t => t.predicate = predicate ∧ t.object = object).map (·.subject)

/-- The first object that a subject has for a predicate. -/
def value? (g : Graph) (subject predicate : Term) : Option Term :=
  (g.triples.find? fun t => t.subject = subject ∧ t.predicate = predicate).map (·.object)

end Graph

end ConceptQuery.Rdf
