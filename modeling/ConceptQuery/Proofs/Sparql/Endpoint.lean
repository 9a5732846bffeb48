import ConceptQuery.Http.Content
import ConceptQuery.Http.Network
import ConceptQuery.Proofs.Json.Document
import ConceptQuery.Proofs.Json.Printing
import ConceptQuery.Proofs.Sparql.Evaluation
import ConceptQuery.Proofs.Text.FormEncoding

/-!
# Endpoints

An endpoint holds a graph.  It carries out the updates that are posted to it, and answers queries by
documents that describe their solutions.

* `Sparql.formField?` — the field of a posted form;
* `Sparql.Describes` — a JSON value as the results of a query;
* `Sparql.Reports` — a response that reports the solutions of a query;
* `Sparql.Serves` — what an endpoint may reply to a request, and the graph that it holds then;
* `Sparql.Conversation` — requests and replies, one after the other;
* `Http.Network.exchanges` — what was sent on a network, with the replies that it held;
* `fieldOf?_formBody` — a form is read back;
* `serves_update_iff`, `serves_query_iff` — what is replied to updates and to queries;
* `Sparql.report`, `reports_report` — the results as they are usually spelled.
-/

namespace ConceptQuery.Sparql

open Http Rdf

/-! ### Forms -/

/-- The name and the value of the only field of a form. -/
def fieldOf? (body : List Char) : Option (String × String) :=
  if '&' ∈ body then none
  else do
    let name ← Text.formDecode? (.ofList (body.takeWhile (· != '=')))
    let value ← Text.formDecode? (.ofList ((body.dropWhile (· != '=')).drop 1))
    return (name, value)

/-- The field of a posted form that has only one. -/
def formField? (r : Request) : Option (String × String) :=
  if r.contentType = "application/x-www-form-urlencoded" then fieldOf? r.body.toList else none

/-! ### Results -/

/-- What the results say about a variable: nothing if it has no value, else what its value says. -/
inductive CellOf : Option Json → Option Term → Prop where
  | unbound : CellOf none none
  | bound {cell : Json} {t : Term} (h : cell.member? "value" = some (.string t.text)) :
    CellOf (some cell) (some t)

/-- A row of the results, and the solution that it describes. -/
structure RowOf (names : List String) (row : Json) (μ : Solution) : Prop where
  isObject : ∃ members, row = .object members
  cells : ∀ name ∈ names, CellOf (row.member? name) (μ name)

/-- The results of a query as a JSON value: one row for each solution, in order. -/
def Describes (results : Json) (names : List String) (μs : List Solution) : Prop :=
  ∃ inner rows, results.member? "results" = some inner
    ∧ inner.member? "bindings" = some (.array rows) ∧ List.Forall₂ (RowOf names) rows μs

/-- What queries accept as answers. -/
def resultsType : String := "application/sparql-results+json"

/-! ### Requests and replies -/

/-- A response that reports the solutions of a query in some order, up to its limit: a JSON document
in UTF-8, spelled in any way within the limits of its client. -/
def Reports (q : Query) (g : Graph) (response : Response) : Prop :=
  response.isSuccess = true ∧ ∃ document members μs, response.body = Json.utf8Bytes document
    ∧ Json.TextOf response.limits document (.object members)
    ∧ μs.Perm (q.rows g) ∧ Describes (.object members) q.selection.names (q.limited μs)

/-- What an endpoint at an address may reply to a request, and the graph that it holds then:
updates are carried out, and queries are answered by reports. -/
structure Serves (url : String) (g : Graph) (request : Request) (reply : Reply) (g' : Graph) :
    Prop where
  update : ∀ text os, request.url = url → formField? request = some ("update", text) →
    readUpdate? text = some os →
    g' = Sparql.update os g ∧ ∃ response, reply = .response response ∧ response.isSuccess = true
  query : ∀ text q, request.url = url → request.accept = resultsType →
    formField? request = some ("query", text) → readQuery? text = some q →
    g' = g ∧ ∃ response, reply = .response response ∧ Reports q g response

/-- Requests and replies in the order in which they were exchanged, from the graph that the endpoint
held before to the graph that it holds after them. -/
inductive Conversation (url : String) : Graph → List (Request × Reply) → Graph → Prop where
  | nil {g : Graph} : Conversation url g [] g
  | cons {g g' g'' : Graph} {request : Request} {reply : Reply} {rest : List (Request × Reply)}
    (h : Serves url g request reply g') (hrest : Conversation url g' rest g'') :
    Conversation url g ((request, reply) :: rest) g''

/-! ### Requests that carry statements -/

/-- A name that stands for itself in a form. -/
structure IsFieldName (name : String) : Prop where
  encode_eq : Text.formEncode name = name
  not_mem : '=' ∉ name.toList

theorem isFieldName_update : IsFieldName "update" := ⟨by decide, by decide⟩

theorem isFieldName_query : IsFieldName "query" := ⟨by decide, by decide⟩

theorem not_mem_formEncode (text : String) : '&' ∉ (Text.formEncode text).toList := by
  intro h
  rcases Text.mem_formEncode h with h | h | h <;> exact absurd h (by decide)

/-- **A form with one field is read back.** -/
theorem fieldOf?_formBody {name : String} (hname : IsFieldName name) (text : String) :
    fieldOf? (Text.formBody name text).toList = some (name, text) := by
  have hbody : (Text.formBody name text).toList
      = name.toList ++ '=' :: (Text.formEncode text).toList := by
    simp [Text.formBody]
  have hand : '&' ∉ name.toList ++ '=' :: (Text.formEncode text).toList := by
    have hplain := not_mem_formEncode name
    rw [hname.encode_eq] at hplain
    simp [hplain, not_mem_formEncode text]
  have hplain : ∀ c ∈ name.toList, (c != '=') = true := by
    intro c hc
    rw [bne_iff_ne]
    rintro rfl
    exact hname.not_mem hc
  have hbefore : (name.toList ++ '=' :: (Text.formEncode text).toList).takeWhile (· != '=')
      = name.toList := by
    rw [List.takeWhile_append_of_pos hplain]
    simp
  have hafter : ((name.toList ++ '=' :: (Text.formEncode text).toList).dropWhile (· != '=')).drop 1
      = (Text.formEncode text).toList := by
    rw [List.dropWhile_append_of_pos hplain]
    simp
  have hdecode : Text.formDecode? name = some name := by
    have h := Text.formDecode?_encode name
    rw [hname.encode_eq] at h
    exact h
  rw [hbody, fieldOf?, if_neg hand, hbefore, hafter, String.ofList_toList, String.ofList_toList,
    hdecode, Text.formDecode?_encode]
  rfl

theorem formField?_form (url accept body : String) :
    formField? (.form url accept body) = fieldOf? body.toList :=
  if_pos rfl

/-- The field of a form. -/
theorem formField?_formBody {name : String} (hname : IsFieldName name) (url accept text : String) :
    formField? (.form url accept (Text.formBody name text)) = some (name, text) :=
  (formField?_form url accept _).trans (fieldOf?_formBody hname text)

variable {url accept text : String} {g g' : Graph} {reply : Reply}

/-- **What becomes of an update.** -/
theorem serves_update_iff {os : List Operation} (hread : readUpdate? text = some os) :
    Serves url g (.form url accept (Text.formBody "update" text)) reply g' ↔
      g' = Sparql.update os g
        ∧ ∃ response, reply = .response response ∧ response.isSuccess = true := by
  have hfield := formField?_formBody isFieldName_update url accept text
  constructor
  · exact fun h => h.update text os rfl hfield hread
  · intro h
    constructor
    · intro text' os' _ hfield' hread'
      obtain ⟨-, rfl⟩ := Prod.mk.inj (Option.some.inj (hfield.symm.trans hfield'))
      obtain rfl := Option.some.inj (hread.symm.trans hread')
      exact h
    · intro text' q _ _ hfield' _
      exact absurd (Prod.mk.inj (Option.some.inj (hfield.symm.trans hfield'))).1 (by decide)

/-- **What becomes of a query.** -/
theorem serves_query_iff {q : Query} (hread : readQuery? text = some q) :
    Serves url g (.form url resultsType (Text.formBody "query" text)) reply g' ↔
      g' = g ∧ ∃ response, reply = .response response ∧ Reports q g response := by
  have hfield := formField?_formBody isFieldName_query url resultsType text
  constructor
  · exact fun h => h.query text q rfl rfl hfield hread
  · intro h
    constructor
    · intro text' os _ hfield' _
      exact absurd (Prod.mk.inj (Option.some.inj (hfield.symm.trans hfield'))).1 (by decide)
    · intro text' q' _ _ hfield' hread'
      obtain ⟨-, rfl⟩ := Prod.mk.inj (Option.some.inj (hfield.symm.trans hfield'))
      obtain rfl := Option.some.inj (hread.symm.trans hread')
      exact h

/-! ### The usual report -/

/-- The kinds of terms in results. -/
def kindOf : Term → String
  | .iri _ => "uri"
  | .labelled _ => "bnode"
  | .fresh _ => "bnode"
  | .literal _ => "literal"

/-- What the results usually say about a value. -/
def cellOf (t : Term) : Json :=
  .object [("type", .string (kindOf t)), ("value", .string t.text)]

/-- The usual row of a solution: the variables that have no value are left out. -/
def rowOf (names : List String) (μ : Solution) : Json :=
  .object (names.filterMap fun name => (μ name).map fun t => (name, cellOf t))

/-- The usual results of a query. -/
def resultsOf (names : List String) (μs : List Solution) : Json :=
  .object [("head", .object [("vars", .array (names.map .string))]),
    ("results", .object [("bindings", .array (μs.map (rowOf names)))])]

/-- The usual report of a query. -/
def report (q : Query) (g : Graph) : Response :=
  let results := resultsOf q.selection.names (q.limited (q.rows g))
  { status := 200, headers := [("content-type", resultsType)],
    body := Json.utf8Bytes (Json.print .compact results).toList }

theorem rowOf_rowOf (names : List String) (μ : Solution) : RowOf names (rowOf names μ) μ := by
  refine ⟨⟨_, rfl⟩, fun name hname => ?_⟩
  show CellOf (Json.lookup _ name) (μ name)
  unfold Json.lookup
  generalize hfound : (List.reverse _).find? _ = found
  cases found with
  | none =>
    rw [List.find?_eq_none] at hfound
    cases hvalue : μ name with
    | none => exact .unbound
    | some t =>
      have hmem : (name, cellOf t) ∈ names.filterMap fun name =>
          (μ name).map fun t => (name, cellOf t) :=
        List.mem_filterMap.2 ⟨name, hname, by rw [hvalue]; rfl⟩
      exact absurd (beq_self_eq_true name) (hfound _ (List.mem_reverse.2 hmem))
  | some member =>
    have hmem := List.mem_reverse.1 (List.mem_of_find?_eq_some hfound)
    obtain ⟨other, -, hmember⟩ := List.mem_filterMap.1 hmem
    obtain ⟨t, hvalue, rfl⟩ := Option.map_eq_some_iff.1 hmember
    have hsame := List.find?_some hfound
    rw [← beq_iff_eq.1 hsame, hvalue]
    exact .bound rfl

theorem writable_rowOf (names : List String) (μ : Solution) : (rowOf names μ).Writable := by
  refine .object fun m hm => ?_
  obtain ⟨name, -, hm⟩ := List.mem_filterMap.1 hm
  obtain ⟨t, -, rfl⟩ := Option.map_eq_some_iff.1 hm
  exact .object (List.forall_mem_cons.2 ⟨.string _, List.forall_mem_singleton.2 (.string _)⟩)

theorem writable_resultsOf (names : List String) (μs : List Solution) :
    (resultsOf names μs).Writable := by
  have hnames : (Json.array (names.map .string)).Writable := by
    refine .array fun v hv => ?_
    obtain ⟨name, -, rfl⟩ := List.mem_map.1 hv
    exact .string name
  have hrows : (Json.array (μs.map (rowOf names))).Writable := by
    refine .array fun v hv => ?_
    obtain ⟨μ, -, rfl⟩ := List.mem_map.1 hv
    exact writable_rowOf names μ
  exact .object (List.forall_mem_cons.2 ⟨.object (List.forall_mem_singleton.2 hnames),
    List.forall_mem_singleton.2 (.object (List.forall_mem_singleton.2 hrows))⟩)

theorem describes_resultsOf (names : List String) (μs : List Solution) :
    Describes (resultsOf names μs) names μs := by
  refine ⟨_, _, rfl, rfl, ?_⟩
  induction μs with
  | nil => exact .nil
  | cons μ μs ih => exact .cons (rowOf_rowOf names μ) ih

/-- **The usual report is a report.** -/
theorem reports_report (q : Query) (g : Graph) : Reports q g (report q g) :=
  ⟨rfl, _, _, q.rows g, rfl, Json.textOf_print Json.lawful_compact (writable_resultsOf _ _),
    .refl _, describes_resultsOf _ _⟩

end ConceptQuery.Sparql

namespace ConceptQuery.Http

/-- The next replies, given those to come and the one for all that follow. -/
def nextReplies (otherwise : Reply) : List Reply → Nat → List Reply
  | _, 0 => []
  | pending, count + 1 => pending.headD otherwise :: nextReplies otherwise pending.tail count

theorem mem_nextReplies {otherwise reply : Reply} {pending : List Reply} {count : Nat}
    (h : reply ∈ nextReplies otherwise pending count) : reply ∈ pending ∨ reply = otherwise := by
  induction count generalizing pending with
  | zero => cases h
  | succ count ih =>
    cases pending with
    | nil =>
      rcases List.mem_cons.1 h with hnext | hlater
      · exact .inr hnext
      · exact ih hlater
    | cons first rest =>
      rcases List.mem_cons.1 h with hnext | hlater
      · exact .inl (List.mem_cons.2 (.inl hnext))
      · exact (ih hlater).imp_left (List.mem_cons_of_mem first)

namespace Network

/-- What was sent between two states of a network, with the replies that it held. -/
def exchanges (n n' : Network) : List (Request × Reply) :=
  let requests := n'.sent.drop n.sent.length
  requests.zip (nextReplies n.otherwise n.pending requests.length)

variable {n n' : Network}

theorem exchanges_of_sent_eq (h : n'.sent = n.sent) : n.exchanges n' = [] := by
  rw [exchanges, h, List.drop_length]
  rfl

/-- A reply in an exchange is one that the network held. -/
theorem reply_of_mem_exchanges {r : Request} {reply : Reply} (h : (r, reply) ∈ n.exchanges n') :
    reply ∈ n.pending ∨ reply = n.otherwise :=
  mem_nextReplies (List.of_mem_zip h).2

/-- One request, and what was sent after it. -/
theorem exchanges_exchange {r : Request} {more : List Request}
    (h : n'.sent = (n.exchange r).2.sent ++ more) :
    n.exchanges n' = (r, n.next) :: (n.exchange r).2.exchanges n' := by
  have hfirst : n'.sent.drop n.sent.length = r :: more := by
    rw [h, exchange_sent, List.append_assoc, List.drop_left]
    rfl
  have hrest : n'.sent.drop (n.exchange r).2.sent.length = more := by
    rw [h, List.drop_left]
  rw [exchanges, exchanges, hfirst, hrest]
  rfl

/-- What is exchanged by one request. -/
theorem exchanges_once (n : Network) (r : Request) :
    n.exchanges (n.exchange r).2 = [(r, n.next)] := by
  rw [exchanges_exchange (List.append_nil _).symm, exchanges_of_sent_eq rfl]

end Network

end ConceptQuery.Http
