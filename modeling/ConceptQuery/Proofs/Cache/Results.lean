import ConceptQuery.Cache.Blazegraph
import ConceptQuery.Proofs.Cache.Stored
import ConceptQuery.Proofs.Except
import ConceptQuery.Proofs.Number.Numeral
import ConceptQuery.Proofs.Sparql.Endpoint
import ConceptQuery.Proofs.Time.Reading

/-!
# Results are read back

The backend reads from the results of its queries what they describe.

* `bindings_of_describes` — the rows of results;
* `restored`, `recordOf_singleton` — the record that a row describes;
* `countOf_singleton` — the number that a row describes.
-/

namespace ConceptQuery

/-- The same moment on a clock without offset. -/
theorem Timestamp.of_toUtc {t u : Timestamp} (h : t.toUtc = .ok u) :
    u.offset = 0 ∧ u.instant = t.instant := by
  unfold toUtc ofClock ofClock? at h
  split at h
  · next v hv =>
    split at hv
    · obtain rfl := Option.some.inj hv
      obtain rfl := Except.ok.inj h
      exact ⟨rfl, Int.sub_zero _⟩
    · cases hv
  · cases h

end ConceptQuery

namespace ConceptQuery.Cache.Blazegraph

open Http Rdf Sparql Statement

variable {names : List String} {name : String} {row : Json} {μ : Solution} {t : Term}

/-! ### Rows -/

theorem bindings_of_describes {response : Response} {document : List Char}
    {members : List (String × Json)} {μs : List Solution}
    (hbody : response.body = Json.utf8Bytes document)
    (htext : Json.TextOf response.limits document (.object members))
    (h : Describes (.object members) names μs) :
    ∃ rows, bindings response = .ok (.array rows) ∧ List.Forall₂ (RowOf names) rows μs := by
  obtain ⟨inner, rows, hinner, hrows, hdescribes⟩ := h
  refine ⟨rows, ?_, hdescribes⟩
  unfold bindings
  rw [Response.json, hbody, Json.ofDocument_of_object htext]
  show (do (← Json.item _ "results").item "bindings" : Except Failure Json).mapError _ = _
  rw [Json.item_of_member? hinner]
  show (inner.item "bindings").mapError _ = _
  rw [Json.item_of_member? hrows]
  rfl

theorem cell_of_row (h : RowOf names row μ) (hname : name ∈ names) (hμ : μ name = some t) :
    cell row name = .ok (.string t.text) := by
  have hcell := h.cells name hname
  rw [hμ] at hcell
  generalize hmember : row.member? name = member at hcell
  cases hcell with
  | bound hvalue =>
    unfold cell
    rw [Json.item_of_member? hmember]
    exact Json.item_of_member? hvalue

theorem member?_of_row (h : RowOf names row μ) (hname : name ∈ names) :
    (row.member? name).isSome = (μ name).isSome := by
  have hcell := h.cells name hname
  generalize row.member? name = member, μ name = value at hcell ⊢
  cases hcell with
  | unbound => rfl
  | bound hvalue => rfl

/-! ### Records -/

/-- A record as it is read back: with JSON values for its texts, and its time in universal time. -/
def restored (r : Record String) (time : Timestamp) : Record Json :=
  { r.map .string with createdAt := time }

variable {r : Record String} {time : Timestamp}

/-- The values of the properties that every record has. -/
theorem solutionOf_required (r : Record String) (time : Timestamp) :
    solutionOf r time "prompt" = some (.plain r.prompt)
      ∧ solutionOf r time "intent" = some (.plain r.intentText)
      ∧ solutionOf r time "query" = some (.plain r.query)
      ∧ solutionOf r time "createdAt" = some (timeTerm time) := by
  unfold solutionOf
  cases r.result <;> simp [requiredSolution, Solution.bind]

theorem solutionOf_result : solutionOf r time "result" = r.result.map .plain := by
  unfold solutionOf
  cases r.result <;> simp [requiredSolution, Solution.bind, Solution.empty]

/-- A row is read by its cells; the one of the result may be missing. -/
theorem recordOfRow_of_cells (key : String) {prompt intentText query created : Json}
    {result : Option Json} {time : Timestamp} (hprompt : cell row "prompt" = .ok prompt)
    (hintent : cell row "intent" = .ok intentText) (hquery : cell row "query" = .ok query)
    (hresult : ∀ v ∈ result, cell row "result" = .ok v ∧ v ≠ .null)
    (hmember : (row.member? "result").isSome = result.isSome)
    (hcreated : cell row "createdAt" = .ok created) (htime : timeOf created = .ok time) :
    recordOfRow key row = .ok ⟨key, prompt, intentText, query, result, time⟩ := by
  unfold recordOfRow
  rw [Except.mapError_eq_ok]
  refine Except.bind_eq_ok.2 ⟨prompt, hprompt, Except.bind_eq_ok.2 ⟨intentText, hintent,
    Except.bind_eq_ok.2 ⟨query, hquery, ?_⟩⟩⟩
  dsimp only
  rw [hmember]
  cases result with
  | none =>
    exact Except.bind_eq_ok.2 ⟨.null, rfl, Except.bind_eq_ok.2 ⟨created, hcreated,
      Except.bind_eq_ok.2 ⟨time, htime, rfl⟩⟩⟩
  | some v =>
    obtain ⟨hcell, hnull⟩ := hresult v rfl
    have hpresent : v.present? = some v := by
      cases v with
      | null => exact absurd rfl hnull
      | _ => rfl
    refine Except.bind_eq_ok.2 ⟨v, hcell, Except.bind_eq_ok.2 ⟨created, hcreated,
      Except.bind_eq_ok.2 ⟨time, htime, ?_⟩⟩⟩
    rw [hpresent]
    rfl

/-- **The row of a record is read as this record.** -/
theorem recordOfRow_eq {key : String} (h : RowOf recordNames row (solutionOf r time))
    (htime : r.createdAt.toUtc = .ok time) (hkey : r.key = key) :
    recordOfRow key row = .ok (restored r time) := by
  obtain ⟨hprompt, hintent, hquery, hcreated⟩ := solutionOf_required r time
  have hread : timeOf (.string (timeTerm time).text) = .ok time := by
    rw [timeTerm, Term.text, timeOf, Timestamp.readUtc_toText (Timestamp.of_toUtc htime).1]
  have hmember : (row.member? "result").isSome = (r.result.map Json.string).isSome := by
    rw [member?_of_row h (by decide), solutionOf_result, Option.isSome_map, Option.isSome_map]
  have hresult : ∀ v ∈ r.result.map Json.string, cell row "result" = .ok v ∧ v ≠ .null := by
    intro v hv
    obtain ⟨s, hs, rfl⟩ := Option.map_eq_some_iff.1 hv
    have hvalue : solutionOf r time "result" = some (.plain s) := by
      rw [solutionOf_result, hs, Option.map_some]
    exact ⟨cell_of_row h (by decide) hvalue, by simp⟩
  rw [recordOfRow_of_cells key (cell_of_row h (by decide) hprompt)
    (cell_of_row h (by decide) hintent) (cell_of_row h (by decide) hquery) hresult hmember
    (cell_of_row h (by decide) hcreated) hread, ← hkey]
  rfl

theorem recordOf_singleton {key : String} (h : RowOf recordNames row (solutionOf r time))
    (htime : r.createdAt.toUtc = .ok time) (hkey : r.key = key) :
    recordOf key (.array [row]) = .ok (some (restored r time)) := by
  show (do return some (← recordOfRow key row) : Except Failure _) = _
  rw [recordOfRow_eq h htime hkey]
  rfl

/-! ### Numbers -/

theorem countOf_singleton {n : Nat} {type : String}
    (h : RowOf totalQuery.selection.names row
      (Solution.empty.bind "total" (.literal ⟨toString n, .datatype type⟩)))
    (hlimit : (Nat.toDigits 10 n).length ≤ digitLimit) : countOf (.array [row]) = .ok n := by
  have hcell := cell_of_row h (by decide) (Solution.bind_self _ _ _)
  have hwhole : Json.toWhole (.string (toString n)) = .ok n := by
    rw [Json.toWhole, readInt_toString hlimit]
    rfl
  exact Except.bind_eq_ok.2 ⟨row, rfl, Except.bind_eq_ok.2 ⟨_, hcell, hwhole⟩⟩

end ConceptQuery.Cache.Blazegraph
