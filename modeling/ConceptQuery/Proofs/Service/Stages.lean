import ConceptQuery.Proofs.Service.Answer
import ConceptQuery.Proofs.Web.Reporting

/-!
# A request fails at its first failing stage

The stages of a request are the extraction of an intent text, its reading, the formulation of the
query unless one is cached, and the exchange with the API. With the cache in order, a request that
fails has left behind what the stages before that failure may leave, and nothing else.

* `Service.FailsFirst` — the failure of the first stage that fails;
* `staged_eq_error` — this is what a request is answered with;
* `Service.Staged`, `staged_request` — what a request sends and leaves behind;
* `fails_at_first_stage` — the same for every request, and what clients see of it.
-/

namespace ConceptQuery

open Cache Http Ontology

variable {course : Nat → Moment} {stage : Stage} {records : Table (Record String)}
  {prompt api : String} {s : Service} {i : Intent} {sends : Bool} {live : Option (Record String)}
  {stores : Stores} {network : Network} {f : Failure}

/-! ### The first stage that fails -/

/-- The query that is sent for a prompt: the cached one unless its result can be given instead, or
the one that is formulated for its intent if none is cached. -/
inductive Service.Sends (s : Service) (live : Option (Record String)) (i : Intent)
    (stores : Stores) : String → Prop where
  | cached (r : Record String) (hlive : live = some r)
    (hresult : ¬ (s.storeResults = true ∧ r.result.isSome = true)) : s.Sends live i stores r.query
  | formulated (g : Formulation) (hmiss : live = none) (hg : (i.formulate stores).1 = .ok g) :
    s.Sends live i stores g.query

/-- The failure of the first stage of a request that fails, from the live record of its prompt and
from how stores and network are at its beginning. -/
inductive Service.FailsFirst (s : Service) (sends : Bool) (prompt api : String)
    (live : Option (Record String)) (stores : Stores) (network : Network) : Failure → Prop where
  | extraction {f : Failure} (h : s.extract prompt api = .error f) :
    s.FailsFirst sends prompt api live stores network f
  | reading {text : String} {f : Failure} (htext : s.extract prompt api = .ok text)
    (h : Intent.ofText text = .error f) : s.FailsFirst sends prompt api live stores network f
  | formulation {i : Intent} {text : String} {f : Failure}
    (hread : s.intentOf prompt api = .ok (i, text)) (hmiss : live = none)
    (h : (i.formulate stores).1 = .error f) : s.FailsFirst sends prompt api live stores network f
  | exchange {i : Intent} {text query : String} {f : Failure}
    (hread : s.intentOf prompt api = .ok (i, text)) (hsends : sends = true)
    (hquery : s.Sends live i stores query)
    (h : (dispatch stores.variants (.string query) (some i.api) network).1 = .error f) :
    s.FailsFirst sends prompt api live stores network f

theorem exchanged_eq_error {variants : Registry} {query api : String} :
    (Service.exchanged sends variants query api network).1 = .error f
      ↔ sends = true ∧ (dispatch variants (.string query) (some api) network).1 = .error f := by
  cases sends with
  | false => exact ⟨fun h => (by cases h), fun h => (by cases h.1)⟩
  | true => exact Except.map_eq_error.trans (and_iff_right rfl).symm

theorem sends_some_iff {r : Record String} {query : String} : s.Sends (some r) i stores query ↔
    query = r.query ∧ ¬ (s.storeResults = true ∧ r.result.isSome = true) := by
  constructor
  · intro h
    cases h with
    | cached r' hlive hresult =>
      obtain rfl := Option.some.inj hlive
      exact ⟨rfl, hresult⟩
    | formulated g hmiss => cases hmiss
  · rintro ⟨rfl, hresult⟩
    exact .cached r rfl hresult

theorem sends_none_iff {query : String} : s.Sends none i stores query ↔
    ∃ g, (i.formulate stores).1 = .ok g ∧ query = g.query := by
  constructor
  · intro h
    cases h with
    | cached r hlive => cases hlive
    | formulated g _ hg => exact ⟨g, hg, rfl⟩
  · rintro ⟨g, hg, rfl⟩
    exact .formulated g rfl hg

/-- An answer from a record fails at the exchange, if there is one. -/
theorem answered_some_eq_error {r : Record String} :
    (s.answered sends prompt i (some r) stores network).1 = .error f
      ↔ sends = true ∧ ∃ query, s.Sends (some r) i stores query
        ∧ (dispatch stores.variants (.string query) (some i.api) network).1 = .error f := by
  simp only [sends_some_iff, and_assoc, exists_eq_left]
  by_cases hgiven : (sends && s.storeResults) = true ∧ r.result.isSome = true
  · obtain ⟨hstore, hsome⟩ := hgiven
    obtain ⟨result, hresult⟩ := Option.isSome_iff_exists.1 hsome
    rw [answered_given hstore hresult]
    refine ⟨fun h => (by cases h), ?_⟩
    rintro ⟨-, hkept, -⟩
    exact absurd ⟨(Bool.and_eq_true_iff.1 hstore).2, hsome⟩ hkept
  · rw [answered_hit hgiven]
    refine Except.map_eq_error.trans (exchanged_eq_error.trans ?_)
    refine and_congr_right fun hsends => ?_
    rw [hsends, Bool.true_and] at hgiven
    exact (and_iff_right hgiven).symm

/-- An answer without a record fails at the formulation or at the exchange. -/
theorem answered_none_eq_error : (s.answered sends prompt i none stores network).1 = .error f
    ↔ (i.formulate stores).1 = .error f
      ∨ sends = true ∧ ∃ query, s.Sends none i stores query
        ∧ (dispatch stores.variants (.string query) (some i.api) network).1 = .error f := by
  simp only [sends_none_iff]
  unfold Service.answered
  cases hg : (i.formulate stores).1 with
  | error f' => simp
  | ok g =>
    simp only [reduceCtorEq, Except.ok.injEq, exists_eq_left', false_or]
    refine Except.map_eq_error.trans (exchanged_eq_error.trans ?_)
    simp

/-- An answer fails at the formulation or at the exchange. -/
theorem answered_eq_error : (s.answered sends prompt i live stores network).1 = .error f
    ↔ (live = none ∧ (i.formulate stores).1 = .error f)
      ∨ sends = true ∧ ∃ query, s.Sends live i stores query
        ∧ (dispatch stores.variants (.string query) (some i.api) network).1 = .error f := by
  cases live with
  | some r =>
    rw [answered_some_eq_error]
    simp
  | none =>
    rw [answered_none_eq_error]
    simp

/-- **A request is answered with the failure of its first failing stage.** -/
theorem staged_eq_error : (s.staged sends prompt api live stores network).1 = .error f
    ↔ s.FailsFirst sends prompt api live stores network f := by
  unfold Service.staged
  cases hread : s.intentOf prompt api with
  | error f' =>
    have hfirst := intentOf_eq_error.1 hread
    constructor
    · intro h
      obtain rfl := Except.error.inj h
      rcases hfirst with hextract | ⟨text, htext, hmalformed⟩
      · exact .extraction hextract
      · exact .reading htext hmalformed
    · intro h
      have hagain : s.intentOf prompt api = .error f := by
        cases h with
        | extraction h => exact intentOf_eq_error.2 (.inl h)
        | reading htext h => exact intentOf_eq_error.2 (.inr ⟨_, htext, h⟩)
        | formulation hread' => rw [hread] at hread'; cases hread'
        | exchange hread' => rw [hread] at hread'; cases hread'
      rw [hread] at hagain
      rw [Except.error.inj hagain]
  | ok it =>
    obtain ⟨i, text⟩ := it
    refine answered_eq_error.trans ⟨?_, ?_⟩
    · rintro (⟨hmiss, h⟩ | ⟨hsends, query, hquery, h⟩)
      · exact .formulation hread hmiss h
      · exact .exchange hread hsends hquery h
    · intro h
      cases h with
      | extraction h =>
        have hagain := intentOf_eq_error.2 (.inl h)
        rw [hread] at hagain
        cases hagain
      | reading htext h =>
        have hagain := intentOf_eq_error.2 (.inr ⟨_, htext, h⟩)
        rw [hread] at hagain
        cases hagain
      | formulation hread' hmiss h =>
        rw [hread] at hread'
        obtain ⟨rfl, rfl⟩ := Prod.mk.inj (Except.ok.inj hread')
        exact .inl ⟨hmiss, h⟩
      | exchange hread' hsends hquery h =>
        rw [hread] at hread'
        obtain ⟨rfl, rfl⟩ := Prod.mk.inj (Except.ok.inj hread')
        exact .inr ⟨hsends, _, hquery, h⟩

/-! ### What a failed request leaves behind -/

/-- **A request over a memory in order**: what it sends, what it is answered with if it fails, and
what it leaves behind in each case. -/
structure Service.Staged (s : Service) (sends : Bool) (prompt api : String)
    (course : Nat → Moment) (stage : Stage) (records : Table (Record String))
    (live : Option (Record String)) (swept : Table (Record String))
    (run : Except Failure Outcome × Stage) : Prop where
  /-- At most one request is sent, and none if only the query is asked for. -/
  once : ∃ r : Option Request,
    run.2.world.network.sent = stage.world.network.sent ++ r.toList ∧ (sends = false → r = none)
  /-- A failure is that of the first stage that fails. -/
  first : ∀ f, run.1 = .error f ↔
    s.FailsFirst sends prompt api live stage.world.stores stage.world.network f
  /-- If the intent cannot be read, nothing happens at all. -/
  unread : ∀ f, s.intentOf prompt api = .error f → run = (.error f, stage)
  /-- If the query cannot be formulated, nothing is sent or cached; a record that has reached its
  lifetime is taken away. -/
  unformulated : ∀ i text f, s.intentOf prompt api = .ok (i, text) → live = none →
    (i.formulate stage.world.stores).1 = .error f →
      run.1 = .error f ∧ run.2.world.network = stage.world.network ∧ run.2.Records swept
  /-- The same holds if the API is not registered, whatever is cached. -/
  unregistered : ∀ i text f, s.intentOf prompt api = .ok (i, text) →
    stage.world.stores.variants.get (some i.api) = .error f →
      run.2.world.network = stage.world.network ∧ run.2.Records swept
  /-- If the API refuses the query, one request was sent, and the prompt has the record that was
  found or one of its query without a result. -/
  refused : ∀ i text name status body, s.intentOf prompt api = .ok (i, text) →
    run.1 = .error (.apiFailed name status body) →
      (∃ r, run.2.world.network.sent = stage.world.network.sent ++ [r])
        ∧ ((∃ r, live = some r ∧ run.2.Records records)
          ∨ live = none ∧ ∃ g n, (i.formulate stage.world.stores).1 = .ok g
            ∧ run.2.Records (swept.insert (promptKey prompt)
              (recordAt prompt g.query text none (course n).clock)))
  /-- The records of other prompts are as they were. -/
  others : ∃ records', run.2.Records records'
    ∧ ∀ key, key ≠ promptKey prompt → records'.get? key = records.get? key

theorem swept_of_live {ttl : Int} {now : Timestamp} {key : String} {r : Record String}
    (h : liveRecord ttl now records key = some r) : swept ttl now records key = records := by
  obtain ⟨hget, hlive⟩ := Option.filter_eq_some_iff.1 h
  have hkept : r.isExpired ttl now = false := by simpa using hlive
  rw [swept, hget, Option.any_some, hkept]
  rfl

theorem get?_swept {ttl : Int} {now : Timestamp} {key other : String} (h : other ≠ key) :
    (swept ttl now records key).get? other = records.get? other := by
  unfold swept
  split
  · exact Table.get?_erase_of_ne records h
  · rfl

/-- A failure of the exchange with an API comes after one request. -/
theorem sent_of_dispatch_failed {variants : Registry} {query : Json} {tag : Option String}
    {name status body : Json}
    (h : (dispatch variants query tag network).1 = .error (.apiFailed name status body)) :
    ∃ r, (dispatch variants query tag network).2.sent = network.sent ++ [r] := by
  unfold dispatch at h ⊢
  split at h
  · next hget =>
    obtain rfl := Except.error.inj h
    cases isFormulation_get hget
  · split at h
    · next hfinite =>
      rw [if_pos hfinite]
      exact ⟨_, rfl⟩
    · cases h

theorem sent_of_exchanged_failed {variants : Registry} {query api : String}
    {name status body : Json}
    (h : (Service.exchanged sends variants query api network).1
      = .error (.apiFailed name status body)) :
    ∃ r, (Service.exchanged sends variants query api network).2.sent = network.sent ++ [r] := by
  cases sends with
  | false => cases h
  | true => exact sent_of_dispatch_failed (Except.map_eq_error.1 h)

theorem sent_of_answered_failed {name status body : Json}
    (h : (s.answered sends prompt i live stores network).1 = .error (.apiFailed name status body)) :
    ∃ r, (s.answered sends prompt i live stores network).2.sent = network.sent ++ [r] := by
  unfold Service.answered at h ⊢
  cases live with
  | some r =>
    dsimp only at h ⊢
    split at h
    · cases h
    · exact sent_of_exchanged_failed (Except.map_eq_error.1 h)
  | none =>
    dsimp only at h ⊢
    split at h
    · next hf =>
      obtain rfl := Except.error.inj h
      cases isFormulation_formulate hf
    · exact sent_of_exchanged_failed (Except.map_eq_error.1 h)

/-- Nothing is sent to an API that is not registered. -/
theorem dispatch_unregistered {variants : Registry} {query : Json} {tag : Option String}
    (h : variants.get tag = .error f) :
    dispatch variants query tag network = (.error f, network) := by
  unfold dispatch
  rw [h]

/-- Nothing is formulated for an API that is not registered. -/
theorem formulate_unregistered (h : stores.variants.get (some i.api) = .error f) :
    (i.formulate stores).1 = .error f := by
  have htarget : (stores.target i.target (some i.api)).1 = .error f := by
    unfold Stores.target Stores.get
    rw [h]
    rfl
  unfold Intent.formulate
  split
  · next hread =>
    rw [hread] at htarget
    rw [Except.error.inj htarget]
  · next hread =>
    rw [hread] at htarget
    cases htarget

theorem network_answered_unregistered (h : stores.variants.get (some i.api) = .error f) :
    (s.answered sends prompt i live stores network).2 = network := by
  unfold Service.answered
  cases live with
  | some r =>
    dsimp only
    split
    · rfl
    · cases sends with
      | false => rfl
      | true =>
        unfold Service.exchanged
        rw [dispatch_unregistered h]
        rfl
  | none =>
    rw [formulate_unregistered h]

/-- What a request leaves behind over a memory in order. -/
theorem records_of_up (hs : stage.Records records) (hup : ∀ n, (course n).down = [])
    {text : String} (hread : s.intentOf prompt api = .ok (i, text)) (sends : Bool) :
    let now := (course (stage.calls + 1)).clock
    let run := (s.request sends prompt api).run (answerAt course) stage
    ∃ records', run.2.Records records' ∧ Service.Leaves prompt text i
      (liveRecord s.cache.ttl.micros now records (promptKey prompt))
      (swept s.cache.ttl.micros now records (promptKey prompt)) course stage.world.stores run.1
      records' := by
  have hends := (ends_request hs (.inr hup) hread sends).records
  rwa [found_of_up hup, looked_of_up hup] at hends

/-- What is left behind when the API refuses the query. -/
theorem Service.Leaves.of_refused {text : String} {swept records' : Table (Record String)}
    {reply : Except Failure Outcome} {name status body : Json} (hup : ∀ n, (course n).down = [])
    (h : Service.Leaves prompt text i live swept course stores reply records')
    (hreply : reply = .error (.apiFailed name status body))
    (hrefused : (s.answered sends prompt i live stores network).1
      = .error (.apiFailed name status body)) :
    (∃ r, live = some r ∧ records' = swept)
      ∨ live = none ∧ ∃ g n, (i.formulate stores).1 = .ok g
        ∧ records' = swept.insert (promptKey prompt)
          (recordAt prompt g.query text none (course n).clock) := by
  cases live with
  | some r => exact .inl ⟨r, rfl, h.hit r rfl⟩
  | none =>
    cases hg : (i.formulate stores).1 with
    | error f =>
      simp only [Service.answered, hg] at hrefused
      obtain rfl := Except.error.inj hrefused
      cases isFormulation_formulate hg
    | ok g =>
      obtain ⟨n, hn⟩ := h.formulated g rfl hg _ hreply
      rw [fails, hup] at hn
      exact .inr ⟨rfl, g, n, rfl, hn⟩

theorem staged_request (hs : stage.Records records) (hup : ∀ n, (course n).down = [])
    (sends : Bool) (prompt api : String) :
    let now := (course (stage.calls + 1)).clock
    s.Staged sends prompt api course stage records
      (liveRecord s.cache.ttl.micros now records (promptKey prompt))
      (swept s.cache.ttl.micros now records (promptKey prompt))
      ((s.request sends prompt api).run (answerAt course) stage) := by
  intro now
  generalize hrun : (s.request sends prompt api).run (answerAt course) stage = run
  generalize hlive : liveRecord s.cache.ttl.micros now records (promptKey prompt) = live
  generalize hswept : swept s.cache.ttl.micros now records (promptKey prompt) = swept
  have hshown : (run.1, run.2.world.network)
      = s.staged sends prompt api live stage.world.stores stage.world.network := by
    rw [← hlive, ← found_of_up hup, ← request_eq_staged hs (.inr hup), ← hrun]
    rfl
  have hreply : run.1 = (s.staged sends prompt api live stage.world.stores
      stage.world.network).1 := congrArg Prod.fst hshown
  have hnetwork : run.2.world.network = (s.staged sends prompt api live stage.world.stores
      stage.world.network).2 := congrArg Prod.snd hshown
  have hunread (f : Failure) (hread : s.intentOf prompt api = .error f) : run = (.error f, stage) :=
    hrun.symm.trans (run_request_unread hread)
  have hends {i : Intent} {text : String} (hread : s.intentOf prompt api = .ok (i, text)) :
      s.staged sends prompt api live stage.world.stores stage.world.network
          = s.answered sends prompt i live stage.world.stores stage.world.network
        ∧ ∃ records', run.2.Records records' ∧ Service.Leaves prompt text i live swept course
          stage.world.stores run.1 records' := by
    refine ⟨by rw [Service.staged, hread], ?_⟩
    rw [← hlive, ← hswept, ← hrun]
    exact records_of_up hs hup hread sends
  refine ⟨?_, ?_, hunread, ?_, ?_, ?_, ?_⟩
  · rw [hnetwork]
    exact sent_staged s sends prompt api live _ _
  · intro f
    rw [hreply]
    exact staged_eq_error
  · intro i text f hread hmiss hf
    obtain ⟨hstaged, records', hrecords, hleaves⟩ := hends hread
    rw [hstaged, hmiss] at hreply hnetwork
    rw [hleaves.unformulated f hf] at hrecords
    simp only [Service.answered, hf] at hreply hnetwork
    exact ⟨hreply, hnetwork, hrecords⟩
  · intro i text f hread hf
    obtain ⟨hstaged, records', hrecords, hleaves⟩ := hends hread
    rw [hleaves.unformulated f (formulate_unregistered hf)] at hrecords
    rw [hnetwork, hstaged]
    exact ⟨network_answered_unregistered hf, hrecords⟩
  · intro i text name status body hread hf
    obtain ⟨hstaged, records', hrecords, hleaves⟩ := hends hread
    rw [hstaged] at hreply hnetwork
    have hrefused : (s.answered sends prompt i live stage.world.stores stage.world.network).1
        = .error (.apiFailed name status body) := hreply.symm.trans hf
    rw [hnetwork]
    refine ⟨sent_of_answered_failed hrefused, ?_⟩
    rcases hleaves.of_refused hup hf hrefused with ⟨r, hfound, rfl⟩ | ⟨hmiss, g, n, hg, rfl⟩
    · rw [← hswept, swept_of_live (hlive.trans hfound)] at hrecords
      exact .inl ⟨r, hfound, hrecords⟩
    · exact .inr ⟨hmiss, g, n, hg, hrecords⟩
  · cases hread : s.intentOf prompt api with
    | error f =>
      rw [hunread f hread]
      exact ⟨records, hs, fun _ _ => rfl⟩
    | ok it =>
      obtain ⟨-, records', hrecords, hleaves⟩ := hends hread
      refine ⟨records', hrecords, ?_⟩
      intro key hkey
      rw [hleaves.others key hkey, ← hswept]
      exact get?_swept hkey

/-! ### What clients see -/

/-- The answer to a posted request for a prompt tells the first stage that fails. -/
theorem signals_respond {r : Web.Request} {body : Option Json} {w : World}
    (hw : w.backend = .memory ⟨records, []⟩) (hmethod : r.method = "POST")
    (hroute : Web.Route.at? (Web.pathOf r.target) = some (Web.requestRoute sends))
    (hbody : Web.bodyOf r = .ok body) (hform : Web.QueryForm.ofBody body = .ok ⟨prompt, api⟩)
    (hfails : s.FailsFirst sends prompt api
      (liveRecord s.cache.ttl.micros w.clock records (promptKey prompt)) w.stores w.network f) :
    Web.Signals f (Web.respond (some s) r w).1.status := by
  have hs : Stage.Records ⟨w, 0⟩ records := ⟨[], hw⟩
  have hstaged := staged_request (s := s) hs (down_standingStillAt w.clock) sends prompt api
  obtain ⟨hperform, -⟩ := perform_eq_run (s.request sends prompt api) ⟨rfl, records, hw⟩ 0
  have hreply := (hstaged.first f).2 hfails
  rw [hperform] at hreply
  rw [(Web.respond_request hmethod hroute hbody hform hreply).1]
  exact Web.signals_status f

/-- **A request fails at its first failing stage.** With the cache in order, whatever it holds and
whichever documents were read, a request leaves behind no more than the stages before its failure
may leave, and is answered with that failure; clients see it by its status. -/
theorem fails_at_first_stage (hs : stage.Records records) (hup : ∀ n, (course n).down = [])
    (prompt api : String) :
    (∀ sends,
      let now := (course (stage.calls + 1)).clock
      s.Staged sends prompt api course stage records
        (liveRecord s.cache.ttl.micros now records (promptKey prompt))
        (swept s.cache.ttl.micros now records (promptKey prompt))
        ((s.request sends prompt api).run (answerAt course) stage))
      ∧ ∀ sends (r : Web.Request) body (w : World) records f,
        w.backend = .memory ⟨records, []⟩ → r.method = "POST" →
        Web.Route.at? (Web.pathOf r.target) = some (Web.requestRoute sends) →
        Web.bodyOf r = .ok body → Web.QueryForm.ofBody body = .ok ⟨prompt, api⟩ →
        s.FailsFirst sends prompt api
          (liveRecord s.cache.ttl.micros w.clock records (promptKey prompt)) w.stores w.network f →
        Web.Signals f (Web.respond (some s) r w).1.status := by
  refine ⟨fun sends => staged_request hs hup sends prompt api, ?_⟩
  intro sends r body w records f hw hmethod hroute hbody hform hfails
  exact signals_respond hw hmethod hroute hbody hform hfails

/-- A prompt that is no intent text, with a record that has reached its lifetime: it stays. -/
theorem fails_at_first_stage_unread :
    let s : Service := ⟨fun prompt _ => .ok prompt, ⟨.tenMinutes⟩, false, true⟩
    let record := recordAt "all" "query" "text" (some "result") Moment.first.clock
    let stage : Stage := ⟨{ Pipeline.geo.opening Moment.first.clock (.always default) with
      backend := .memory ⟨.ofList [(promptKey "all", record)], []⟩ }, 0⟩
    let later : Timestamp := (Timestamp.ofClock? 600000000 0).get (by decide)
    (s.execute "all" "geo").run (answerAt (standingStillAt later)) stage
      = (.error (.malformedIntent (Intent.summary 1) [⟨.notJson, []⟩]), stage) := by
  intro s record stage later
  have hs : stage.Records (.ofList [(promptKey "all", record)]) := ⟨[], rfl⟩
  obtain ⟨hstaged, -⟩ := fails_at_first_stage (s := s) hs (down_standingStillAt later)
    "all" "geo"
  exact (hstaged true).unread _ rfl

end ConceptQuery
