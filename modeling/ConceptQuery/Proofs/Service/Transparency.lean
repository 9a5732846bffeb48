import ConceptQuery.Proofs.Http.Content
import ConceptQuery.Proofs.Service.Pipeline
import ConceptQuery.Proofs.Service.Run

/-!
# The cache cannot be told from its answers

Whatever was cached, dropped, expired or lost in outages before, an operation gives a prompt the
query that extracting, reading, resolving and compiling it anew would give.

* `Pipeline.Holds` — surroundings in which nothing else is cached or kept;
* `Holds.answer` — every call leaves them so, and is answered as the contract promises;
* `Pipeline.Explains` — an operation is told by the pipeline alone;
* `explains_turns` — every operation of every run is.
-/

namespace ConceptQuery

open Cache Http Ontology

/-! ### Operations of the memory -/

theorem tolerable_guarded {α : Type} {bypass : Bool} {m : Memory} {o : Memory.Operation}
    {act : α × Memory} (hdown : bypass = true ∨ m.down = []) :
    Tolerable bypass (m.guarded o act).1 := by
  unfold Memory.guarded
  split
  · next hcontains =>
    rcases hdown with hbypass | hnone
    · exact ⟨hbypass, _, rfl⟩
    · rw [hnone] at hcontains
      cases hcontains
  · trivial

namespace Pipeline

/-- A request that carries the query made from scratch for a prompt to the API of its intent. -/
def Carries (k : Pipeline) (prompt : String) (r : Request) : Prop :=
  ∃ text g v, k.scratch prompt = .ok (text, g) ∧ k.variants.get (some g.intent.api) = .ok v
    ∧ r = v.request (.string g.query)

/-- Records are those made from scratch, each under its own key. -/
def Fills (k : Pipeline) (records : Table (Record String)) : Prop :=
  ∀ key r, records.get? key = some r → r.key = key ∧ ∃ prompt, k.Made prompt r

/-- Surroundings whose memory holds only what is made from scratch, and whose stores keep only what
their documents give. -/
structure Holds (k : Pipeline) (w : World) : Prop where
  stores : w.stores.Faithful k.variants k.directory
  backend : ∃ m, w.backend = .memory m ∧ k.Fills m.records

variable {k : Pipeline} {prompt : String} {bypass sends : Bool} {records : Table (Record String)}
  {w : World}

/-! ### Records -/

theorem fills_empty : k.Fills .empty := by
  intro key r h
  cases h

theorem Fills.insert (h : k.Fills records) {r : Record String} (hr : k.Made prompt r) :
    k.Fills (records.insert r.key r) := by
  intro key r' hget
  rw [Table.get?_insert] at hget
  split at hget
  · next hkey =>
    obtain rfl := Option.some.inj hget
    exact ⟨hkey.symm, prompt, hr⟩
  · exact h key r' hget

theorem Fills.erase (h : k.Fills records) (key : String) : k.Fills (records.erase key) := by
  intro key' r hget
  rw [Table.get?_erase] at hget
  split at hget
  · cases hget
  · exact h key' r hget

/-- What stands under the key of a prompt was made for this very prompt. -/
theorem Fills.made (h : k.Fills records) {r : Record String}
    (hget : records.get? (promptKey prompt) = some r) : k.Made prompt r := by
  obtain ⟨hkey, prompt', hmade⟩ := h _ r hget
  rw [hmade.key_eq, promptKey_inj] at hkey
  exact hkey ▸ hmade

/-! ### Calls -/

/-- What a call may change: the surroundings hold only what is made from scratch as before, and
requests that were sent carry the query of the prompt. -/
structure Keeps (k : Pipeline) (sends : Bool) (prompt : String) (w w' : World) : Prop where
  holds : k.Holds w'
  sent : ∃ requests, w'.network.sent = w.network.sent ++ requests
    ∧ ∀ r ∈ requests, sends = true ∧ k.Carries prompt r

theorem keeps_silent {w' : World} (hw : k.Holds w') (hnetwork : w'.network = w.network) :
    k.Keeps sends prompt w w' where
  holds := hw
  sent := by
    refine ⟨[], ?_, ?_⟩
    · rw [hnetwork, List.append_nil]
    · intro r hr
      cases hr

/-- A call on the memory is tolerable, and leaves the records as they were or as it makes them. -/
theorem Holds.guarded {α : Type} {m : Memory} {o : Memory.Operation} {act : α × Memory}
    (hw : k.Holds w) (hm : k.Fills m.records) (hact : k.Fills act.2.records) :
    k.Keeps sends prompt w { w with backend := .memory (m.guarded o act).2 } := by
  refine keeps_silent ⟨hw.stores, _, rfl, ?_⟩ rfl
  unfold Memory.guarded
  split
  · exact hm
  · exact hact

theorem Holds.at (hw : k.Holds w) (moment : Moment) : k.Holds (w.at moment) := by
  obtain ⟨hstores, m, hm, hfills⟩ := hw
  refine ⟨hstores, { m with down := moment.down }, ?_, hfills⟩
  unfold World.at
  rw [hm]

/-- An API whose variant is registered answers with a text or a failure of the exchange. -/
theorem isUpstream_outcome (v : Variant) (reply : Reply) :
    ∀ f, v.outcome reply = .error f → f.isUpstream = true := by
  intro f hf
  cases reply with
  | response r =>
    cases htext : r.text with
    | ok text =>
      rw [Variant.outcome_of_text htext] at hf
      split at hf
      · cases hf
      · obtain rfl := Except.error.inj hf
        rfl
    | error g =>
      obtain ⟨report, -, rfl⟩ := Response.text_eq_error_iff.1 htext
      obtain rfl := Except.error.inj ((Variant.outcome_of_text_error htext).symm.trans hf)
      rfl
  | failed reason =>
    obtain rfl := Except.error.inj hf
    rfl
  | invalidUrl reason =>
    obtain rfl := Except.error.inj hf
    rfl

/-- The intent of a query made from scratch names a registered variant. -/
theorem registered_of_scratch (hv : k.variants.Named) {text : String} {g : Formulation}
    (h : k.scratch prompt = .ok (text, g)) : ∃ v, k.variants.get (some g.intent.api) = .ok v := by
  obtain ⟨htext, hi⟩ := ofText_of_scratch h
  rw [scratch_of_ofText htext hi] at h
  obtain ⟨g', hg, -⟩ := Except.map_eq_ok.1 h
  obtain ⟨hformulation, -⟩ :=
    (Stores.faithful_unread k.variants k.directory).formulate_eq hv g.intent
  rw [hg] at hformulation
  obtain ⟨target, -, hrest⟩ := Except.bind_eq_ok.1 hformulation.symm
  obtain ⟨subEntity, -, hcompile⟩ := Except.bind_eq_ok.1 hrest
  obtain ⟨query, hquery, -⟩ := Except.map_eq_ok.1 hcompile
  obtain ⟨v, hget, -⟩ := Except.map_eq_ok.1 hquery
  exact ⟨v, hget⟩

theorem finds_fetch {m : Memory} (hfills : k.Fills m.records)
    (hdown : bypass = true ∨ m.down = []) :
    k.Finds bypass prompt (Backend.reported (m.fetch (promptKey prompt)).1) := by
  have htolerable : Tolerable bypass
      (m.guarded .fetch (m.records.get? (promptKey prompt), m)).1 := tolerable_guarded hdown
  unfold Memory.fetch
  revert htolerable
  unfold Memory.guarded
  split
  · intro htolerable
    exact htolerable
  · intro _
    cases hget : m.records.get? (promptKey prompt) with
    | none => trivial
    | some r => exact ⟨r, hfills.made hget, rfl⟩

/-- **Every call that the contract allows is answered as it promises**, and leaves the surroundings
as they should be. The cases are the calls. -/
theorem Holds.answer (hv : k.variants.Named) (hw : k.Holds w)
    (hdown : bypass = true ∨ ∀ m, w.backend = .memory m → m.down = []) {c : Call}
    (hc : (k.contract bypass sends prompt).allows c) :
    (k.contract bypass sends prompt).promises c (World.answer c w).1
      ∧ k.Keeps sends prompt w (World.answer c w).2 := by
  obtain ⟨clock, backend, stores, network⟩ := w
  obtain ⟨hstores, m, rfl, hfills⟩ := hw
  have hw : k.Holds ⟨clock, .memory m, stores, network⟩ := ⟨hstores, m, rfl, hfills⟩
  have hmemory : bypass = true ∨ m.down = [] := hdown.imp id fun h => h m rfl
  cases c with
  | now => exact ⟨⟨clock, rfl⟩, keeps_silent hw rfl⟩
  | fetch key =>
    obtain rfl : key = promptKey prompt := hc
    exact ⟨finds_fetch hfills hmemory, hw.guarded hfills hfills⟩
  | save r =>
    have hmade : k.Made prompt r := hc
    exact ⟨tolerable_guarded hmemory, hw.guarded hfills (hfills.insert hmade)⟩
  | remove key => exact ⟨tolerable_guarded hmemory, hw.guarded hfills (hfills.erase key)⟩
  | stats => exact absurd hc id
  | health => exact absurd hc id
  | formulate i =>
    obtain ⟨hanswer, hafter⟩ := hstores.formulate hv i
    refine ⟨?_, keeps_silent ⟨hafter, m, rfl, hfills⟩ rfl⟩
    exact congrArg (Except.map Formulation.query) hanswer
  | send query api =>
    obtain ⟨hsends, text, g, hscratch, rfl, rfl⟩ := hc
    obtain ⟨v, hget⟩ := registered_of_scratch hv hscratch
    have hdispatch : dispatch stores.variants (.string g.query) (some g.intent.api) network
        = (v.outcome network.next, (network.exchange (v.request (.string g.query))).2) := by
      rw [hstores.variants_eq, dispatch, hget]
      rfl
    have hanswer : World.answer (.send (.string g.query) g.intent.api)
        ⟨clock, .memory m, stores, network⟩ = (v.outcome network.next,
          ⟨clock, .memory m, stores, (network.exchange (v.request (.string g.query))).2⟩) := by
      simp only [World.answer, hdispatch]
    rw [hanswer]
    refine ⟨isUpstream_outcome v network.next, ⟨hstores, m, rfl, hfills⟩, ?_⟩
    refine ⟨[v.request (.string g.query)], Network.exchange_sent _ _, ?_⟩
    intro r hr
    obtain rfl := List.mem_singleton.1 hr
    exact ⟨hsends, text, g, v, hscratch, hget, rfl⟩

/-! ### Turns -/

theorem Keeps.trans {w' w'' : World} (h : k.Keeps sends prompt w w')
    (h' : k.Keeps sends prompt w' w'') : k.Keeps sends prompt w w'' := by
  obtain ⟨requests, hsent, hcarry⟩ := h.sent
  obtain ⟨requests', hsent', hcarry'⟩ := h'.sent
  refine ⟨h'.holds, requests ++ requests', ?_, ?_⟩
  · rw [hsent', hsent, List.append_assoc]
  · intro r hr
    exact (List.mem_append.1 hr).elim (hcarry r) (hcarry' r)

/-- A plan that keeps the contract, in the course of a run: it ends as agreed, and sends only the
query of its prompt. -/
theorem keeps_run {α : Type} (hv : k.variants.Named) {course : Nat → Moment}
    (hpolicy : bypass = true ∨ ∀ n, (course n).down = []) {p : Plan α}
    {post : Except Failure α → Prop} (hp : p.Meets (k.contract bypass sends prompt) post)
    {s : Stage} (hs : k.Holds s.world) :
    post (p.run (answerAt course) s).1
      ∧ k.Keeps sends prompt s.world (p.run (answerAt course) s).2.world := by
  have hanswer (c : Call) (stage : Stage) (hc : (k.contract bypass sends prompt).allows c)
      (hstage : k.Keeps sends prompt s.world stage.world) :
      (k.contract bypass sends prompt).promises c (answerAt course c stage).1
        ∧ k.Keeps sends prompt s.world (answerAt course c stage).2.world := by
    have hat := hstage.holds.at (course stage.calls)
    have hdown : bypass = true ∨ ∀ m, (stage.world.at (course stage.calls)).backend = .memory m →
        m.down = [] := by
      apply hpolicy.imp id
      intro hnone m hm
      obtain ⟨m', hm', -⟩ := hstage.holds.backend
      rw [World.at, hm'] at hm
      rw [← Backend.memory.inj hm]
      exact hnone _
    obtain ⟨hpromise, hkeeps⟩ := hat.answer hv hdown hc
    exact ⟨hpromise, hstage.trans ⟨hkeeps.holds, hkeeps.sent⟩⟩
  exact Plan.Meets.run hanswer hp (keeps_silent hs rfl)

end Pipeline

/-! ### Runs -/

/-- A failure of making a query: a bad intent, an API that nobody registered, or a document that
cannot be read. -/
def Failure.isFormulation : Failure → Bool
  | .malformedIntent _ _ => true
  | .unsupportedApi _ => true
  | .mappingLoad _ _ _ => true
  | _ => false

namespace Pipeline

variable {k : Pipeline} {prompt : String} {sends : Bool} {s : Service}

/-- The answer that a prompt gets, told from what is made of it from scratch. -/
structure Answers (k : Pipeline) (sends : Bool) (prompt : String)
    (reply : Except Failure Service.Reply) : Prop where
  /-- A success has the query made from scratch. -/
  success : ∀ o, reply = .ok (.outcome o) → ∃ text g, k.scratch prompt = .ok (text, g)
    ∧ o.prompt = prompt ∧ o.intent = g.intent ∧ o.query = .string g.query
  /-- Making the query fails exactly if it fails from scratch. -/
  failure : ∀ f, f.isFormulation = true → (reply = .error f ↔ k.scratch prompt = .error f)
  /-- If it can be made from scratch, nothing but the exchange with the API fails. -/
  complete : ∀ made, k.scratch prompt = .ok made → (∃ o, reply = .ok (.outcome o))
    ∨ sends = true ∧ ∃ f, reply = .error f ∧ f.isUpstream = true

/-- A record found for a prompt holds the prompt, its intent text and the query made from it. -/
def Shows (k : Pipeline) (prompt : String) (r : Record Json) : Prop :=
  r.prompt = .string prompt ∧ ∃ text g, k.extract prompt = .ok text
    ∧ k.scratch prompt = .ok (text, g) ∧ r.intentText = .string text ∧ r.query = .string g.query

/-- An operation is told by the pipeline alone, whatever is cached. -/
def Explains (k : Pipeline) (t : Turn Service.Operation Service.Reply) : Prop :=
  match t.operation with
  | .execute prompt _ => k.Answers true prompt t.reply ∧ ∀ r ∈ t.sent, k.Carries prompt r
  | .compileOnly prompt _ => k.Answers false prompt t.reply ∧ t.sent = []
  | .lookup prompt => (∀ r, t.reply = .ok (.found (some r)) → k.Shows prompt r) ∧ t.sent = []
  | .invalidate _ => t.sent = []

theorem answers_error {f : Failure} (h : k.scratch prompt = .error f) :
    k.Answers sends prompt (.error f) where
  success := by
    intro o ho
    cases ho
  failure := by
    intro f' _
    rw [h, Except.error.injEq, Except.error.injEq]
  complete := by
    intro made hmade
    rw [h] at hmade
    cases hmade

theorem answers_ok {text : String} {g : Formulation} {o : Outcome}
    (h : k.scratch prompt = .ok (text, g)) (hprompt : o.prompt = prompt)
    (hintent : o.intent = g.intent) (hquery : o.query = .string g.query) :
    k.Answers sends prompt (.ok (.outcome o)) where
  success := by
    intro o' ho'
    obtain rfl := Service.Reply.outcome.inj (Except.ok.inj ho')
    exact ⟨text, g, h, hprompt, hintent, hquery⟩
  failure := by
    intro f _
    rw [h]
    exact ⟨fun hf => (by cases hf), fun hf => (by cases hf)⟩
  complete := by
    intro _ _
    exact .inl ⟨o, rfl⟩

theorem answers_upstream {text : String} {g : Formulation} {f : Failure}
    (h : k.scratch prompt = .ok (text, g)) (hf : f.isUpstream = true) :
    k.Answers true prompt (.error f) where
  success := by
    intro o ho
    cases ho
  failure := by
    intro f' hf'
    rw [h]
    refine ⟨fun hsame => ?_, fun hnever => (by cases hnever)⟩
    obtain rfl := Except.error.inj hsame
    cases f <;> simp [Failure.isUpstream, Failure.isFormulation] at hf hf'
  complete := by
    intro _ _
    exact .inr ⟨rfl, f, rfl, hf⟩

theorem Gives.answers {result : Except Failure Outcome} (h : k.Gives sends prompt result) :
    k.Answers sends prompt (result.map .outcome) := by
  unfold Gives at h
  cases hscratch : k.scratch prompt with
  | error f =>
    rw [hscratch] at h
    obtain rfl : result = .error f := h
    exact answers_error hscratch
  | ok made =>
    rw [hscratch] at h
    rcases h with ⟨o, rfl, hprompt, hintent, hquery⟩ | ⟨rfl, f, rfl, hf⟩
    · exact answers_ok hscratch hprompt hintent hquery
    · exact answers_upstream hscratch hf

theorem Describes.shows {r : Record Json} (h : k.Describes prompt r) : k.Shows prompt r := by
  obtain ⟨written, ⟨-, hprompt, g, hscratch, hquery⟩, rfl⟩ := h
  obtain ⟨htext, -⟩ := ofText_of_scratch hscratch
  exact ⟨congrArg Json.string hprompt, written.intentText, g, htext, hscratch, rfl,
    congrArg Json.string hquery⟩

theorem Keeps.sent_eq {ω ρ : Type} {t : Turn ω ρ}
    (h : k.Keeps sends prompt t.before.world t.after.world) :
    ∀ r ∈ t.sent, sends = true ∧ k.Carries prompt r := by
  obtain ⟨requests, hsent, hcarry⟩ := h.sent
  have hdrop : t.sent = requests := by
    rw [Turn.sent, hsent, List.drop_left]
  rw [hdrop]
  exact hcarry

/-- What sends nothing has sent nothing. -/
theorem Keeps.sent_eq_nil {ω ρ : Type} {t : Turn ω ρ}
    (h : k.Keeps false prompt t.before.world t.after.world) : t.sent = [] := by
  rw [List.eq_nil_iff_forall_not_mem]
  intro r hr
  cases (h.sent_eq r hr).1

/-- **Every operation is told by the pipeline alone**, in surroundings that hold nothing else, and
leaves them so. -/
theorem explains_turn (hv : k.variants.Named) {course : Nat → Moment}
    (hextract : ∀ prompt api, s.extract prompt api = k.extract prompt)
    (hpolicy : s.bypass = true ∨ ∀ n, (course n).down = []) (o : Service.Operation) {stage : Stage}
    (hstage : k.Holds stage.world) :
    k.Explains (turn (Service.Operation.plan s) course o stage)
      ∧ k.Holds (turn (Service.Operation.plan s) course o stage).after.world := by
  cases o with
  | execute prompt api =>
    obtain ⟨hgives, hkeeps⟩ := keeps_run hv hpolicy (meets_execute (hextract prompt api)) hstage
    rw [Service.turn_execute]
    exact ⟨⟨hgives.answers, fun r hr => (Keeps.sent_eq hkeeps r hr).2⟩, hkeeps.holds⟩
  | compileOnly prompt api =>
    obtain ⟨hgives, hkeeps⟩ := keeps_run hv hpolicy (meets_compileOnly (hextract prompt api)) hstage
    rw [Service.turn_compileOnly]
    exact ⟨⟨hgives.answers, Keeps.sent_eq_nil hkeeps⟩, hkeeps.holds⟩
  | lookup prompt =>
    have hmeets : (s.lookup prompt).Meets (k.contract s.bypass false prompt)
        (k.Finds s.bypass prompt) := meets_lookup
    obtain ⟨hfinds, hkeeps⟩ := keeps_run hv hpolicy hmeets hstage
    rw [Service.turn_lookup]
    refine ⟨⟨?_, Keeps.sent_eq_nil hkeeps⟩, hkeeps.holds⟩
    intro r hr
    obtain ⟨found, hfound, hsome⟩ := Except.map_eq_ok.1 hr
    obtain rfl := Service.Reply.found.inj hsome
    rw [hfound] at hfinds
    exact Describes.shows hfinds
  | invalidate prompt =>
    have hmeets : (s.invalidate prompt).Meets (k.contract s.bypass false prompt)
        (Tolerable s.bypass) := meets_invalidate
    obtain ⟨-, hkeeps⟩ := keeps_run hv hpolicy hmeets hstage
    rw [Service.turn_invalidate]
    exact ⟨Keeps.sent_eq_nil hkeeps, hkeeps.holds⟩

/-- Surroundings with an empty memory in which no document was read yet. -/
def opening (k : Pipeline) (clock : Timestamp) (network : Network) : World :=
  { clock, backend := .memory {}, stores := .unread k.variants k.directory, network }

theorem holds_opening (k : Pipeline) (clock : Timestamp) (network : Network) :
    k.Holds (k.opening clock network) :=
  ⟨Stores.faithful_unread k.variants k.directory, _, rfl, fills_empty⟩

/-- A pipeline of one API, in which prompts are intent texts. -/
def geo : Pipeline where
  extract := .ok
  variants := Registry.empty.insert ⟨"geo", .simple, "geo.ttl", "http://geo", none⟩
  directory := .ofList [("geo.ttl", "<a> <b> <c> .".toUTF8.toList)]

end Pipeline

end ConceptQuery
