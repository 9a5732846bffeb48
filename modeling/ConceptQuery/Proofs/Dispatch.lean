import ConceptQuery.Dispatch
import ConceptQuery.Proofs.Http.Content
import ConceptQuery.Proofs.Json.Ascii
import ConceptQuery.Proofs.Sparql.Endpoint
import ConceptQuery.Proofs.Variant.History

/-!
# What dispatching does

A query goes to the variant that is registered under its tag at that moment, with the address and
the token of this one variant, and comes back as what its endpoint replied.

* `Http.Request.Carries`, `carries_request` — requests that carry a query to a variant;
* `Variant.Answers`, `answers_outcome` — what a reply is answered with;
* `Dispatcher`, `Dispatcher.Step`, `Dispatcher.run` — a registry and a network, and what can be done
  with them;
* `mem_exchanges_run_iff` — what is sent in a run, and the replies to it;
* `Http.Request.Fit`, `Http.Takes`, `fit_of_carries` — requests that a client does not refuse to
  send;
* `Dispatcher.Sends`, `sends_of_reflects` — what becomes of one query;
* `Dispatcher.Settles`, `settles_run` — what becomes of every query of a run;
* `refusal_untold` — a response whose codec gives up.
-/

namespace ConceptQuery

open Http Registry

/-! ### Requests and replies -/

/-- A request carries a query to a variant: it goes to its endpoint, its body is a document of the
query alone, and it has the authorisation of the variant's token if there is one that is not
empty. -/
structure Http.Request.Carries (r : Request) (v : Variant) (query : String) : Prop where
  url_eq : r.url = v.endpoint
  contentType_eq : r.contentType = jsonType
  reads : Json.ofDocument .lenient (Json.utf8Bytes r.body.toList)
    = .ok (.object [("query", .string query)])
  authorization_iff : ∀ value, r.authorization = some value
    ↔ ∃ token, v.token = some token ∧ token ≠ "" ∧ value = "Bearer " ++ token

theorem bearer?_eq_some_iff {v : Variant} {value : String} : v.bearer? = some value
    ↔ ∃ token, v.token = some token ∧ token ≠ "" ∧ value = "Bearer " ++ token := by
  unfold Variant.bearer?
  cases v.token with
  | none => simp
  | some token =>
    simp only [String.isEmpty_iff, Option.some.injEq, exists_eq_left']
    split
    · next hempty => exact ⟨nofun, fun h => absurd hempty h.1⟩
    · next hne =>
      exact ⟨fun h => ⟨hne, (Option.some.inj h).symm⟩, fun h => congrArg some h.2.symm⟩

theorem carries_request (v : Variant) (query : String) :
    (v.request (.string query)).Carries v query where
  url_eq := rfl
  contentType_eq := rfl
  reads := by
    have hwritable : (queryDocument (.string query)).Writable :=
      .object (List.forall_mem_singleton.2 (.string query))
    exact Json.ofDocument_of_object (Json.textOf_print Json.lawful_compact hwritable)
  authorization_iff := fun _ => bearer?_eq_some_iff

/-- What a reply from a variant is answered with: the text of a success, and a failure of the API
for any other response, redirections included, and for a broken exchange. A response of either kind
whose codec gives up is answered with what the codec reports. -/
inductive Variant.Answers (v : Variant) : Reply → Except Failure String → Prop where
  | success {r : Response} {text : String} (h : 200 ≤ r.status ∧ r.status ≤ 299)
    (hread : r.Reads (.ok text)) : Answers v (.response r) (.ok text)
  | refusal {r : Response} {text : String} (h : ¬ (200 ≤ r.status ∧ r.status ≤ 299))
    (hread : r.Reads (.ok text)) :
    Answers v (.response r)
      (.error (.apiFailed (.string v.name) (.integer r.status) (.string text)))
  | unreadable {r : Response} {report : String} (hread : r.Reads (.error report)) :
    Answers v (.response r) (.error (.undecodable report))
  | broken (reason : String) :
    Answers v (.failed reason) (.error (.apiFailed (.string v.name) .null (.string reason)))

theorem answers_outcome (v : Variant) {reply : Reply} (h : ∀ reason, reply ≠ .invalidUrl reason) :
    v.Answers reply (v.outcome reply) := by
  cases reply with
  | response r =>
    have hsuccess : r.isSuccess = true ↔ 200 ≤ r.status ∧ r.status ≤ 299 := by
      simp [Response.isSuccess, Nat.lt_succ_iff]
    cases htext : r.text with
    | error f =>
      obtain ⟨report, hread, rfl⟩ := Response.text_eq_error_iff.1 htext
      rw [Variant.outcome_of_text_error htext]
      exact .unreadable hread
    | ok text =>
      have hread := Response.text_eq_ok_iff.1 htext
      rw [Variant.outcome_of_text htext]
      by_cases hstatus : 200 ≤ r.status ∧ r.status ≤ 299
      · rw [if_pos (hsuccess.2 hstatus)]
        exact .success hstatus hread
      · rw [if_neg (hstatus ∘ hsuccess.1)]
        exact .refusal hstatus hread
  | failed reason => exact .broken reason
  | invalidUrl reason => exact absurd rfl (h reason)

/-! ### Runs -/

/-- A registry, and the network over which its variants are reached. -/
structure Dispatcher where
  variants : Registry
  network : Network

namespace Dispatcher

/-- What can be done. -/
inductive Step where
  /-- A description is offered to the registry. -/
  | register (d : Variant.Description)
  /-- A query is sent to the variant under a tag. -/
  | send (query tag : String)

/-- The descriptions that are offered. -/
def offered (steps : List Step) : List Variant.Description :=
  steps.filterMap fun
    | .register d => some d
    | .send _ _ => none

/-- The answer to a query. -/
def answer (s : Dispatcher) (query tag : String) : Except Failure String :=
  (dispatch s.variants (.string query) (some tag) s.network).1

/-- What a step leaves behind. -/
def step (s : Dispatcher) : Step → Dispatcher
  | .register d => { s with variants := s.variants.offer d }
  | .send query tag =>
    { s with network := (dispatch s.variants (.string query) (some tag) s.network).2 }

/-- What steps leave behind, one after the other. -/
def run (s : Dispatcher) (steps : List Step) : Dispatcher :=
  steps.foldl step s

variable {s : Dispatcher} {steps : List Step} {tag : String} {v : Variant} {f : Failure}
  {r : Request} {reply : Reply}

theorem send_of_get_eq_ok (query : String) (h : s.variants.get (some tag) = .ok v) :
    s.answer query tag = v.outcome s.network.next
      ∧ (s.step (.send query tag)).network
        = (s.network.exchange (v.request (.string query))).2 := by
  have hdispatch : dispatch s.variants (.string query) (some tag) s.network
      = (v.outcome s.network.next, (s.network.exchange (v.request (.string query))).2) := by
    unfold dispatch
    rw [h]
    rfl
  exact Prod.ext_iff.1 hdispatch

theorem send_of_get_eq_error (query : String) (h : s.variants.get (some tag) = .error f) :
    s.answer query tag = .error f ∧ (s.step (.send query tag)).network = s.network := by
  have hdispatch : dispatch s.variants (.string query) (some tag) s.network
      = (.error f, s.network) := by
    unfold dispatch
    rw [h]
  exact Prod.ext_iff.1 hdispatch

/-- The registry is told by the descriptions that were offered; queries leave it alone. -/
theorem variants_run (s : Dispatcher) (steps : List Step) :
    (s.run steps).variants = s.variants.offerAll (offered steps) := by
  induction steps generalizing s with
  | nil => rfl
  | cons step rest ih =>
    cases step with
    | register d => exact ih (s.step (.register d))
    | send query tag => exact ih (s.step (.send query tag))

/-- What was sent stays sent. -/
theorem sent_run (s : Dispatcher) (steps : List Step) :
    ∃ more, (s.run steps).network.sent = s.network.sent ++ more := by
  induction steps generalizing s with
  | nil => exact ⟨[], (List.append_nil _).symm⟩
  | cons step rest ih =>
    obtain ⟨more, hmore⟩ := ih (s.step step)
    cases step with
    | register d => exact ⟨more, hmore⟩
    | send query tag =>
      cases hget : s.variants.get (some tag) with
      | ok v =>
        rw [(send_of_get_eq_ok query hget).2, Network.exchange_sent, List.append_assoc] at hmore
        exact ⟨_, hmore⟩
      | error f =>
        rw [(send_of_get_eq_error query hget).2] at hmore
        exact ⟨more, hmore⟩

/-- A query of a run is sent to a variant, and replied to, with what came before it. -/
def SentIn (s : Dispatcher) (steps : List Step) (r : Request) (reply : Reply) : Prop :=
  ∃ earlier query tag later v, steps = earlier ++ .send query tag :: later
    ∧ (s.run earlier).variants.get (some tag) = .ok v
    ∧ r = v.request (.string query) ∧ reply = (s.run earlier).network.next

theorem sentIn_cons_iff {first : Step} {rest : List Step} : s.SentIn (first :: rest) r reply
    ↔ (∃ query tag v, first = .send query tag ∧ s.variants.get (some tag) = .ok v
        ∧ r = v.request (.string query) ∧ reply = s.network.next)
      ∨ (s.step first).SentIn rest r reply := by
  constructor
  · rintro ⟨earlier, query, tag, later, v, heq, hsent⟩
    cases earlier with
    | nil => exact .inl ⟨query, tag, v, (List.cons.inj heq).1, hsent⟩
    | cons step earlier =>
      obtain ⟨rfl, rfl⟩ := List.cons.inj heq
      exact .inr ⟨earlier, query, tag, later, v, rfl, hsent⟩
  · rintro (⟨query, tag, v, rfl, hsent⟩ | ⟨earlier, query, tag, later, v, rfl, hsent⟩)
    · exact ⟨[], query, tag, rest, v, rfl, hsent⟩
    · exact ⟨first :: earlier, query, tag, later, v, rfl, hsent⟩

/-- **What is sent in a run** are its queries, each to the variant that its tag stood for at that
moment, with the reply that was next. -/
theorem mem_exchanges_run_iff :
    (r, reply) ∈ s.network.exchanges (s.run steps).network ↔ s.SentIn steps r reply := by
  induction steps generalizing s with
  | nil =>
    have hnone : s.network.exchanges (s.run []).network = [] := Network.exchanges_of_sent_eq rfl
    rw [hnone]
    constructor
    · nofun
    · rintro ⟨earlier, query, tag, later, v, heq, -⟩
      simp at heq
  | cons step rest ih =>
    have hrest := ih (s := s.step step)
    rw [sentIn_cons_iff, ← hrest]
    show _ ∈ s.network.exchanges ((s.step step).run rest).network ↔ _
    cases step with
    | register d => simp [step]
    | send query tag =>
      cases hget : s.variants.get (some tag) with
      | ok v =>
        obtain ⟨more, hmore⟩ := sent_run (s.step (.send query tag)) rest
        rw [(send_of_get_eq_ok query hget).2] at hmore ⊢
        rw [Network.exchanges_exchange hmore]
        simp [hget]
      | error f =>
        rw [(send_of_get_eq_error query hget).2]
        simp [hget]

end Dispatcher

/-! ### Clients -/

/-- A request as a client sends it: its address is one that the client takes, and its authorisation
can stand in a header. -/
structure Http.Request.Fit (isAddress : String → Prop) (r : Request) : Prop where
  address : isAddress r.url
  printable : ∀ value, r.authorization = some value → Json.Printable value.toList

/-- A description of a variant to which requests can be sent. -/
structure Variant.Description.Fit (isAddress : String → Prop) (d : Variant.Description) : Prop where
  address : isAddress d.endpoint
  printable : ∀ token, d.token = some token → Json.Printable token.toList

/-- A client refuses only requests that it cannot send. Which texts it takes as addresses is left
to it. -/
def Http.Takes (isAddress : String → Prop) (exchanges : List (Request × Reply)) : Prop :=
  ∀ r reply, (r, reply) ∈ exchanges → r.Fit isAddress → ∀ reason, reply ≠ .invalidUrl reason

theorem fit_of_carries {isAddress : String → Prop} {r : Request} {v : Variant} {query : String}
    (h : r.Carries v query) (hv : v.description.Fit isAddress) : r.Fit isAddress where
  address := by
    rw [h.url_eq]
    exact hv.address
  printable := by
    intro value hvalue
    obtain ⟨token, htoken, -, rfl⟩ := (h.authorization_iff value).1 hvalue
    rw [String.toList_append]
    exact Json.Printable.append (by decide) (hv.printable token htoken)

namespace Dispatcher

/-- A network, and a registry without variants. -/
def start (network : Network) : Dispatcher :=
  ⟨.empty, network⟩

/-- What becomes of a query for a tag, after some variants were accepted: without a variant of this
name nothing is sent, and with one a single request to the last such variant. -/
inductive Sends (s : Dispatcher) (vs : List Variant) (query tag : String) : Prop where
  | unsupported (h : NoneNamed vs tag) (hget : s.variants.contains tag = false)
    (hnetwork : (s.step (.send query tag)).network = s.network)
    (hanswer : s.answer query tag = .error (.unsupportedApi (.string tag))) : Sends s vs query tag
  | posted {v : Variant} {r : Request} (h : LastNamed vs tag v)
    (hget : s.variants.get (some tag) = .ok v) (hcarries : r.Carries v query)
    (hnetwork : (s.step (.send query tag)).network = (s.network.exchange r).2)
    (hanswer : v.Answers s.network.next (s.answer query tag)) : Sends s vs query tag

/-- One query, unless the client refuses to send its request. -/
theorem sends_of_reflects {s : Dispatcher} {vs : List Variant} {tag : String} (query : String)
    (hreflects : Reflects vs s.variants) (htaken : ∀ v, s.variants.get (some tag) = .ok v →
      ∀ reason, s.network.next ≠ .invalidUrl reason) : s.Sends vs query tag := by
  cases hget : s.variants.get (some tag) with
  | error f =>
    obtain ⟨rfl, hnone⟩ := hreflects.get_eq_error_iff.1 hget
    obtain ⟨hanswer, hnetwork⟩ := send_of_get_eq_error query hget
    have hcontains : s.variants.contains tag = false := by
      rw [Bool.eq_false_iff]
      intro hcontains
      obtain ⟨v, hv⟩ := Table.contains_iff.1 hcontains
      exact absurd (hget.symm.trans (get_eq_ok.2 hv)) nofun
    exact .unsupported hnone hcontains hnetwork hanswer
  | ok v =>
    obtain ⟨hanswer, hnetwork⟩ := send_of_get_eq_ok query hget
    refine .posted (hreflects.get_eq_ok_iff.1 hget) hget (carries_request v query) hnetwork ?_
    rw [hanswer]
    exact answers_outcome v (htaken v hget)

/-- A run from the start, in which every query is answered by the variant that was last accepted
under its tag. -/
structure Settles (network : Network) (steps : List Step) : Prop where
  sends : ∀ earlier query tag later, steps = earlier ++ .send query tag :: later →
    ((start network).run earlier).Sends (accepted (offered earlier)) query tag
  /-- Nothing else is sent: every request goes to the endpoint of one variant that was registered
  at that moment, with the token of this same variant. -/
  paired : ∀ r reply, (r, reply) ∈ network.exchanges ((start network).run steps).network →
    ∃ earlier query tag later v, steps = earlier ++ .send query tag :: later
      ∧ LastNamed (accepted (offered earlier)) tag v ∧ r.Carries v query

/-- After every run the registry is told by what it accepted. -/
theorem reflects_run (network : Network) (steps : List Step) :
    Reflects (accepted (offered steps)) ((start network).run steps).variants := by
  rw [variants_run]
  exact reflects_offerAll _

/-- A text that begins as an address and names no user. -/
def LooksLikeAddress (url : String) : Prop :=
  ("http://".toList <+: url.toList ∨ "https://".toList <+: url.toList) ∧ '@' ∉ url.toList

instance (url : String) : Decidable (LooksLikeAddress url) :=
  inferInstanceAs (Decidable (_ ∧ _))

/-- A variant is replaced between two queries, and a third one has a tag without a variant. -/
def replacing : List Step :=
  [.register ⟨"GitHub", "paginated", "a.ttl", "https://a.test/graphql", some "secret"⟩,
    .send "\"viewer\"\n" "github",
    .register ⟨"GITHUB", "simple", "b.ttl", "http://b.test/", none⟩,
    .send "é" "gitHub",
    .send "é" "gitlab"]

/-- A network that redirects the first request, and breaks off all others. -/
def redirecting : Network :=
  ⟨[.response ⟨302, [("location", "https://c.test/")], [], {}⟩], .failed "refused", []⟩

/-- A response without success, in units of two bytes whose order is told nowhere. -/
def unmarked : Response :=
  ⟨500, [("content-type", "application/json; charset=utf-16")], [0x7B, 0x00, 0x7D, 0x00], {}⟩

end Dispatcher

end ConceptQuery
