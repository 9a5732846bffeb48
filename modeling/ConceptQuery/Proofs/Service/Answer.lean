import ConceptQuery.Proofs.Intent.Validation
import ConceptQuery.Proofs.Service.Request
import ConceptQuery.Proofs.Service.Transparency

/-!
# What a request can be answered with

* `failure_of_answered` — what an answer can fail with, once the intent was read;
* `extract_of_staged_outage` — an outage is never one of the cache;
* `cacheHit_staged_none` — what was not found is no hit;
* `dispatch_registered`, `sent_staged` — what is sent, which is at most one request.
-/

namespace ConceptQuery

open Cache Http Ontology

variable {prompt api : String} {s : Service} {i : Intent} {sends : Bool}

/-! ### Failures -/

/-- No variant is registered under a tag: nothing else fails the search for it. -/
theorem isFormulation_get {variants : Registry} {tag : Option String} {f : Failure}
    (h : variants.get tag = .error f) : f.isFormulation = true := by
  unfold Registry.get at h
  split at h
  · cases h
  · obtain rfl := Except.error.inj h
    rfl

theorem isFormulation_graph {stores : Stores} {tag : Option String} {f : Failure}
    (h : (stores.get tag).1 = .error f) : f.isFormulation = true := by
  unfold Stores.get at h
  split at h
  · unfold Stores.graphOf at h
    split at h
    · cases h
    · split at h
      · cases h
      · obtain rfl := Except.error.inj h
        rfl
  · next hget =>
    obtain rfl := Except.error.inj h
    exact isFormulation_get hget

/-- Formulating an intent fails by its API or by a document. -/
theorem isFormulation_formulate {stores : Stores} {f : Failure}
    (h : (i.formulate stores).1 = .error f) : f.isFormulation = true := by
  unfold Intent.formulate at h
  split at h
  · next hread =>
    obtain rfl := Except.error.inj h
    exact isFormulation_graph (Except.map_eq_error.1 (congrArg Prod.fst hread))
  · split at h
    · next hread =>
      obtain rfl := Except.error.inj h
      exact isFormulation_graph (Except.map_eq_error.1 (congrArg Prod.fst hread))
    · exact isFormulation_get (Except.map_eq_error.1 (Except.map_eq_error.1 h))

/-- Sending a text fails by its API or by the exchange. -/
theorem failure_of_dispatch {variants : Registry} {query : String} {tag : Option String}
    {network : Network} {f : Failure}
    (h : (dispatch variants (.string query) tag network).1 = .error f) :
    f.isFormulation = true ∨ f.isUpstream = true := by
  unfold dispatch at h
  split at h
  · next hget =>
    obtain rfl := Except.error.inj h
    exact .inl (isFormulation_get hget)
  · exact .inr (Pipeline.isUpstream_outcome _ _ f h)

theorem failure_of_exchanged {variants : Registry} {query api : String} {network : Network}
    {f : Failure} (h : (Service.exchanged sends variants query api network).1 = .error f) :
    f.isFormulation = true ∨ f.isUpstream = true := by
  cases sends with
  | false => cases h
  | true => exact failure_of_dispatch (Except.map_eq_error.1 h)

/-- **What an answer can fail with**: an API that nobody registered, a document that cannot be read,
or the exchange. The cases are what was found. -/
theorem failure_of_answered {found : Option (Record String)} {stores : Stores} {network : Network}
    {f : Failure} (h : (s.answered sends prompt i found stores network).1 = .error f) :
    f.isFormulation = true ∨ f.isUpstream = true := by
  unfold Service.answered at h
  cases found with
  | some r =>
    dsimp only at h
    split at h
    · cases h
    · exact failure_of_exchanged (Except.map_eq_error.1 h)
  | none =>
    dsimp only at h
    split at h
    · next hformulate =>
      obtain rfl := Except.error.inj h
      exact .inl (isFormulation_formulate hformulate)
    · exact failure_of_exchanged (Except.map_eq_error.1 h)

/-- An outage that keeps a prompt from being read is one that the extractor reported. -/
theorem extract_of_unread_outage {reason : String}
    (h : s.intentOf prompt api = .error (.cacheUnavailable reason)) :
    s.extract prompt api = .error (.cacheUnavailable reason) := by
  rcases intentOf_eq_error.1 h with hextract | ⟨text, -, hmalformed⟩
  · exact hextract
  · obtain ⟨issues, -, hissues⟩ := Intent.malformed_of_ofText hmalformed
    cases hissues

/-- An outage that a request reports is one that the extractor reported. -/
theorem extract_of_staged_outage {found : Option (Record String)} {stores : Stores}
    {network : Network} {reason : String}
    (h : (s.staged sends prompt api found stores network).1 = .error (.cacheUnavailable reason)) :
    s.extract prompt api = .error (.cacheUnavailable reason) := by
  unfold Service.staged at h
  cases hread : s.intentOf prompt api with
  | ok it =>
    rw [hread] at h
    rcases failure_of_answered h with hf | hf <;> cases hf
  | error f =>
    rw [hread] at h
    obtain rfl := Except.error.inj h
    exact extract_of_unread_outage hread

/-! ### Successes and requests -/

/-- What is not found is answered with no hit. -/
theorem cacheHit_staged_none {stores : Stores} {network : Network} {o : Outcome}
    (h : (s.staged sends prompt api none stores network).1 = .ok o) : o.cacheHit = false := by
  unfold Service.staged at h
  split at h
  · cases h
  · unfold Service.answered at h
    dsimp only at h
    split at h
    · cases h
    · obtain ⟨text, -, rfl⟩ := Except.map_eq_ok.1 h
      rfl

/-- A query that is a text is sent if a variant is registered for it. -/
theorem dispatch_registered {variants : Registry} {tag : Option String} {v : Variant}
    {network : Network} (h : variants.get tag = .ok v) (query : String) :
    dispatch variants (.string query) tag network = (v.outcome network.next,
      (network.exchange (v.request (.string query))).2) := by
  rw [dispatch, h]
  rfl

/-- What is sent carries the query to the variant of the tag. -/
theorem sent_dispatch (variants : Registry) (query : Json) (tag : Option String)
    (network : Network) : ∃ r : Option Request,
      (dispatch variants query tag network).2.sent = network.sent ++ r.toList
        ∧ ∀ r' ∈ r, ∃ v, variants.get tag = .ok v ∧ r' = v.request query := by
  have hnone : ∀ r' ∈ (none : Option Request), ∃ v, variants.get tag = .ok v
      ∧ r' = v.request query := fun _ hr => (by cases hr)
  unfold dispatch
  split
  · exact ⟨none, (List.append_nil _).symm, hnone⟩
  · next v hget =>
    split
    · exact ⟨some _, rfl, fun r' hr => ⟨v, hget, (Option.some.inj hr).symm⟩⟩
    · exact ⟨none, (List.append_nil _).symm, hnone⟩

theorem sent_exchanged (sends : Bool) (variants : Registry) (query api : String)
    (network : Network) : ∃ r : Option Request,
      (Service.exchanged sends variants query api network).2.sent = network.sent ++ r.toList
        ∧ (sends = false → r = none) := by
  cases sends with
  | true =>
    obtain ⟨r, hsent, -⟩ := sent_dispatch variants (.string query) (some api) network
    exact ⟨r, hsent, fun h => (by cases h)⟩
  | false => exact ⟨none, (List.append_nil _).symm, fun _ => rfl⟩

/-- **At most one request** is sent, whatever was found. -/
theorem sent_staged (s : Service) (sends : Bool) (prompt api : String)
    (found : Option (Record String)) (stores : Stores) (network : Network) :
    ∃ r : Option Request, (s.staged sends prompt api found stores network).2.sent
      = network.sent ++ r.toList ∧ (sends = false → r = none) := by
  have hsilent : ∃ r : Option Request, network.sent = network.sent ++ r.toList
      ∧ (sends = false → r = none) := ⟨none, (List.append_nil _).symm, fun _ => rfl⟩
  unfold Service.staged
  split
  · exact hsilent
  · next i _ _ =>
    unfold Service.answered
    cases found with
    | some r =>
      dsimp only
      split
      · exact hsilent
      · exact sent_exchanged sends stores.variants r.query i.api network
    | none =>
      dsimp only
      split
      · exact hsilent
      · next g _ => exact sent_exchanged sends stores.variants g.query i.api network

end ConceptQuery
