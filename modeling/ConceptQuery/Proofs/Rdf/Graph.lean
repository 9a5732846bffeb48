import ConceptQuery.Rdf.Graph

/-!
# Stating triples

* `Graph.add_of_mem`, `Graph.addAll_append` — stating again and stating in two goes;
* `Graph.addAll_again` — a triple that was stated before may be left out;
* `Graph.mem_triples_add`, `Graph.mem_triples_addAll` — the triples of a graph behind a statement.
-/

namespace ConceptQuery.Rdf.Graph

variable {g : Graph} {t u : Triple} {ts : List Triple}

theorem add_of_mem (h : t ∈ g.triples) : g.add t = g :=
  dif_pos h

theorem triples_add_of_notMem (h : t ∉ g.triples) : (g.add t).triples = g.triples ++ [t] := by
  rw [add, dif_neg h]

theorem mem_triples_add : u ∈ (g.add t).triples ↔ u = t ∨ u ∈ g.triples := by
  by_cases hmem : t ∈ g.triples
  · rw [add_of_mem hmem]
    constructor
    · exact .inr
    · rintro (rfl | hu)
      · exact hmem
      · exact hu
  · rw [triples_add_of_notMem hmem, List.mem_append, List.mem_singleton, or_comm]

theorem addAll_append (g : Graph) (ts us : List Triple) :
    g.addAll (ts ++ us) = (g.addAll ts).addAll us :=
  List.foldl_append

theorem mem_triples_addAll : t ∈ (g.addAll ts).triples ↔ t ∈ ts ∨ t ∈ g.triples := by
  unfold addAll
  induction ts generalizing g with
  | nil => simp
  | cons u ts ih =>
    rw [List.foldl_cons, ih, mem_triples_add, List.mem_cons, or_left_comm, or_assoc]

/-- A triple that was stated before may be left out. -/
theorem addAll_again {before : List Triple} (h : t ∈ before) (g : Graph) (after : List Triple) :
    g.addAll (before ++ t :: after) = g.addAll (before ++ after) := by
  have hsame : (g.addAll before).add t = g.addAll before :=
    add_of_mem (mem_triples_addAll.2 (.inl h))
  rw [addAll_append, addAll_append]
  show ((g.addAll before).add t).addAll after = _
  rw [hsame]

end ConceptQuery.Rdf.Graph
