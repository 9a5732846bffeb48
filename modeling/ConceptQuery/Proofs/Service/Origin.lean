import ConceptQuery.Proofs.Catalogue
import ConceptQuery.Proofs.Service.Crowd

/-!
# Where queries come from

With the stand-in for extraction the intent of a request is told by its API alone, while queries are
cached by the prompt alone. A prompt that is asked for one API after another is therefore answered
with the query that was compiled for the first of them, as long as that is cached.

* `Service.intentOf_canned`, `Service.asks_canned`, `Service.ends_outcome` — requests with the
  stand-in for extraction;
* `Catalogue.MadeBy`, `Catalogue.MadeIn` — records that an operation made, and a turn of a run;
* `Catalogue.Traced`, `Catalogue.Traces` — queries that are known by the request that they were
  compiled for, and turns that post and return no others;
* `Catalogue.Shelves`, `Catalogue.Tracing` — what holds between turns, and in the middle of one;
* `traces_turn`, `tracedRun_finish` — every turn of a run is traced to the turns before it;
* `Catalogue.Owns`, `traces_turns` — a prompt that was asked for no other variant of late is
  answered with a query of its own variant;
* `posts_elsewhere`, `not_owns_shared` — a prompt that is asked for two variants.
-/

namespace ConceptQuery

open Cache Http Ontology

/-! ### Requests with canned intents -/

namespace Service

variable {s : Service} {o : Operation} {past : List Answered} {prompt api : String} {c : Call}

/-- The stand-in for extraction always gives an intent, which depends on the API alone. -/
theorem intentOf_canned (hextract : s.extract = cannedExtract) (prompt api : String) :
    s.intentOf prompt api
      = .ok (Intent.canned (some api), (Intent.canned (some api)).toText) := by
  rw [intentOf, hextract, Except.bind_eq_ok]
  refine ⟨_, rfl, ?_⟩
  rw [Intent.ofText_toText.2 (Intent.sound_canned _)]
  rfl

/-- The calls of a request for an API are those for its canned intent. -/
theorem asks_canned (hextract : s.extract = cannedExtract) (h : s.AsksFor prompt api past c) :
    s.Asks prompt (Intent.canned (some api)).toText (.canned (some api)) past c := by
  obtain ⟨i, text, hread, hasks⟩ := h
  rw [intentOf_canned hextract] at hread
  obtain ⟨rfl, rfl⟩ := Prod.mk.inj (Except.ok.inj hread)
  exact hasks

/-- A record is fetched first of all. -/
theorem asks_fetch (hextract : s.extract = cannedExtract) {key : String}
    (h : o.Asks s past (.fetch key)) : past = [] := by
  have hlooks {prompt : String}
      (h : Looks s.cache.ttl.micros (promptKey prompt) past (.fetch key)) : past = [] := by
    cases h
    rfl
  cases o with
  | execute prompt api => exact hlooks (asks_canned hextract h)
  | compileOnly prompt api => exact hlooks (asks_canned hextract h)
  | lookup prompt => exact hlooks h
  | invalidate prompt => cases h

/-- An outcome is accounted for by the canned intent of its request. -/
theorem ends_outcome (hextract : s.extract = cannedExtract) {out : Outcome}
    (h : o.Ends s past (.ok (.outcome out))) :
    ∃ api, o.asked? = some (out.prompt, api)
      ∧ s.Accounts out.prompt (.canned (some api)) past out := by
  obtain ⟨api, i, text, hasked, hread, haccounts⟩ := h.outcome
  rw [intentOf_canned hextract] at hread
  obtain ⟨rfl, rfl⟩ := Prod.mk.inj (Except.ok.inj hread)
  exact ⟨api, hasked, haccounts⟩

/-- One turn of a run of operations. -/
abbrev Turn := ConceptQuery.Turn Operation Reply

end Service

/-! ### Queries and what they were compiled for -/

namespace Catalogue

/-- Surroundings with an empty memory in which no document was read yet. -/
def opening (k : Catalogue) (clock : Timestamp) (network : Network) : Stage :=
  ⟨{ clock, backend := .memory {}, stores := .unread k.variants k.directory, network }, 0⟩

/-- A record of a prompt that an operation made at the time of one of its calls, which begin at
number `first` and end before number `last`: it has the canned intent of the API that the prompt was
asked for, and the query of this intent. -/
def MadeBy (k : Catalogue) (course : Nat → Moment) (o : Service.Operation) (first last : Nat)
    (prompt : String) (r : Record String) : Prop :=
  ∃ api n, o.asked? = some (prompt, api) ∧ k.query (.canned (some api)) = .ok r.query
    ∧ first ≤ n ∧ n < last
    ∧ r = recordAt prompt r.query (Intent.canned (some api)).toText r.result (course n).clock

/-- A record of a prompt that was made in a turn. -/
def MadeIn (k : Catalogue) (course : Nat → Moment) (t : Service.Turn) (prompt : String)
    (r : Record String) : Prop :=
  k.MadeBy course t.operation t.before.calls t.after.calls prompt r

/-- The origin of the query of a request whose look into the cache is at a time `now`: a hit was
made for the same prompt in an earlier turn and has not reached its lifetime, all else is compiled
from the intent of the request itself. -/
inductive Traced (k : Catalogue) (course : Nat → Moment) (ttl : Int) (earlier : List Service.Turn)
    (now : Timestamp) (prompt api : String) : (cacheHit : Bool) → String → Prop where
  | hit {t : Service.Turn} {r : Record String} (ht : t ∈ earlier) (h : k.MadeIn course t prompt r)
      (hlive : r.isExpired ttl now = false) :
    k.Traced course ttl earlier now prompt api true r.query
  | own {query : String} (h : k.query (.canned (some api)) = .ok query) :
    k.Traced course ttl earlier now prompt api false query

/-- What an operation may post: a query with a known origin, to the variant of its own intent. -/
def MayPost (k : Catalogue) (course : Nat → Moment) (ttl : Int) (earlier : List Service.Turn)
    (now : Timestamp) (o : Service.Operation) (r : Request) : Prop :=
  ∃ prompt api v cacheHit query, o.asked? = some (prompt, api)
    ∧ k.variants.get (some (Intent.canned (some api)).api) = .ok v
    ∧ r = v.request (.string query) ∧ k.Traced course ttl earlier now prompt api cacheHit query

/-- The time at which an operation looks at the age of the record that it found. -/
def lookAt (course : Nat → Moment) (before : Stage) : Timestamp :=
  (course (before.calls + 1)).clock

/-- **A turn whose queries are traced** to the turns before it. -/
structure Traces (k : Catalogue) (course : Nat → Moment) (ttl : Int) (earlier : List Service.Turn)
    (t : Service.Turn) : Prop where
  posted : ∀ r ∈ t.sent, k.MayPost course ttl earlier (lookAt course t.before) t.operation r
  returned : ∀ o, t.reply = .ok (.outcome o) → ∃ api query,
    t.operation.asked? = some (o.prompt, api) ∧ o.intent = .canned (some api)
      ∧ o.query = .string query
      ∧ k.Traced course ttl earlier (lookAt course t.before) o.prompt api o.cacheHit query

variable {k : Catalogue} {s : Service} {course : Nat → Moment} {ttl : Int}
  {earlier : List Service.Turn} {stage before : Stage} {o : Service.Operation}
  {past : List Answered} {prompt api : String} {P Q : String → Record String → Prop}

theorem MadeBy.mono {first last last' : Nat} {r : Record String}
    (h : k.MadeBy course o first last prompt r) (hlast : last ≤ last') :
    k.MadeBy course o first last' prompt r := by
  obtain ⟨api, n, hasked, hquery, hfirst, hn, hr⟩ := h
  exact ⟨api, n, hasked, hquery, hfirst, hn.trans_le hlast, hr⟩

/-! ### Calls -/

/-- Surroundings whose memory holds under the keys of prompts only records with a property, and
whose stores keep only what their documents give. -/
structure Shelves (k : Catalogue) (P : String → Record String → Prop) (stage : Stage) : Prop where
  stores : stage.world.stores.Faithful k.variants k.directory
  records : ∃ records, stage.Records records ∧ ∀ prompt r,
    records.get? (promptKey prompt) = some r → P prompt r

theorem shelves_opening (k : Catalogue) (P : String → Record String → Prop) (clock : Timestamp)
    (network : Network) : k.Shelves P (k.opening clock network) where
  stores := Stores.faithful_unread k.variants k.directory
  records := ⟨.empty, ⟨[], rfl⟩, fun _ _ h => (by cases h)⟩

theorem Shelves.mono (h : k.Shelves P stage) (hPQ : ∀ prompt r, P prompt r → Q prompt r) :
    k.Shelves Q stage := by
  obtain ⟨records, hrecords, hkept⟩ := h.records
  exact ⟨h.stores, records, hrecords, fun prompt r hget => hPQ prompt r (hkept prompt r hget)⟩

/-- No call makes the stores keep anything but what documents give. -/
theorem faithful_answerAt (hv : k.variants.Named) (course : Nat → Moment) (c : Call)
    (h : stage.world.stores.Faithful k.variants k.directory) :
    (answerAt course c stage).2.world.stores.Faithful k.variants k.directory := by
  cases c with
  | formulate i => exact (h.formulate hv i).2
  | _ => exact h

/-- A call leaves only records with the property, if it writes no others. -/
theorem Shelves.kept (h : k.Shelves P stage) (hv : k.variants.Named) (course : Nat → Moment)
    {c : Call} (hc : ∀ r, c = .save r → ∃ prompt, r.key = promptKey prompt ∧ P prompt r) :
    k.Shelves P (answerAt course c stage).2 := by
  obtain ⟨records, hrecords, hkept⟩ := h.records
  refine ⟨faithful_answerAt hv course c h.stores, _, (records_answerAt course c hrecords).1, ?_⟩
  intro prompt r hget
  rcases get?_reflect hget with hold | ⟨rfl, hkey, -⟩
  · exact hkept prompt r hold
  · obtain ⟨prompt', hkey', hnew⟩ := hc r rfl
    obtain rfl := promptKey_inj.1 (hkey'.symm.trans hkey)
    exact hnew

/-- What is fetched for a prompt has the property. -/
theorem Shelves.fetched (h : k.Shelves P stage) {r : Record Json}
    (hfetch : (answerAt course (.fetch (promptKey prompt)) stage).1 = .ok (some r)) :
    ∃ written, r = written.map .string ∧ P prompt written := by
  obtain ⟨records, hrecords, hkept⟩ := h.records
  obtain ⟨stage', hanswer, -⟩ := answerAt_fetch course (promptKey prompt) hrecords
  rw [hanswer] at hfetch
  dsimp only at hfetch
  split at hfetch
  · cases hfetch
  · obtain ⟨written, hget, rfl⟩ := Option.map_eq_some_iff.1 (Except.ok.inj hfetch)
    exact ⟨written, rfl, hkept prompt written hget⟩

/-- Stores that keep only what documents give formulate an intent as its query. -/
theorem Shelves.formulated (h : k.Shelves P stage) (hv : k.variants.Named)
    (course : Nat → Moment) (i : Intent) :
    (answerAt course (.formulate i) stage).1 = k.query i :=
  congrArg (Except.map Formulation.query) (h.stores.formulate hv i).1

/-- A call sends at most one request: the query that it is meant to send, to the variant of its
tag. -/
theorem Shelves.sent (h : k.Shelves P stage) (course : Nat → Moment) (c : Call) :
    ∃ r : Option Request, (answerAt course c stage).2.world.network.sent
        = stage.world.network.sent ++ r.toList
      ∧ ∀ r' ∈ r, ∃ query tag v, c = .send query tag ∧ k.variants.get (some tag) = .ok v
        ∧ r' = v.request query := by
  obtain ⟨records, hrecords, -⟩ := h.records
  have hsilent (hsame : (answerAt course c stage).2.world.network = stage.world.network) :
      ∃ r : Option Request, (answerAt course c stage).2.world.network.sent
          = stage.world.network.sent ++ r.toList
        ∧ ∀ r' ∈ r, ∃ query tag v, c = .send query tag ∧ k.variants.get (some tag) = .ok v
          ∧ r' = v.request query :=
    ⟨none, by rw [hsame]; exact (List.append_nil _).symm, fun r' hr => (by cases hr)⟩
  have houtside (hc : cacheCalls.allows c) := (answerAt_outside course hc hrecords).2
  cases c with
  | formulate i =>
    obtain ⟨stage', hanswer, -, -, hnetwork⟩ := answerAt_formulate course i hrecords
    exact hsilent (by rw [hanswer]; exact hnetwork)
  | send query tag =>
    obtain ⟨stage', hanswer, -, hnetwork⟩ := answerAt_send course query tag hrecords
    obtain ⟨r, hsent, hcarry⟩ :=
      sent_dispatch stage.world.stores.variants query (some tag) stage.world.network
    refine ⟨r, by rw [hanswer]; exact (congrArg Network.sent hnetwork).trans hsent, ?_⟩
    intro r' hr
    obtain ⟨v, hget, rfl⟩ := hcarry r' hr
    rw [h.stores.variants_eq] at hget
    exact ⟨query, tag, v, rfl, hget, rfl⟩
  | _ => exact hsilent (houtside trivial).network_eq

/-! ### Turns -/

/-- In the middle of an operation that began `before`, after earlier turns. -/
structure Tracing (k : Catalogue) (course : Nat → Moment) (ttl : Int) (earlier : List Service.Turn)
    (o : Service.Operation) (before : Stage) (past : List Answered) (stage : Stage) : Prop where
  /-- Records were made before the operation or by it. -/
  shelves : k.Shelves (fun prompt r => (∃ t ∈ earlier, k.MadeIn course t prompt r)
    ∨ k.MadeBy course o before.calls stage.calls prompt r) stage
  first : past = [] → stage = before
  calls : stage.calls = before.calls + past.length
  numbered : ∀ i a, past[i]? = some a → a.number = before.calls + i
  timed : ∀ n answer, ⟨n, .now, answer⟩ ∈ past → answer = .ok (course n).clock
  /-- What was fetched was made before the operation. -/
  fetched : ∀ n prompt r, ⟨n, .fetch (promptKey prompt), .ok (some r)⟩ ∈ past →
    ∃ written, r = written.map .string ∧ ∃ t ∈ earlier, k.MadeIn course t prompt written
  formulated : ∀ n i query, ⟨n, .formulate i, .ok query⟩ ∈ past → k.query i = .ok query
  sent : ∃ requests, stage.world.network.sent = before.world.network.sent ++ requests
    ∧ ∀ r ∈ requests, k.MayPost course ttl earlier (lookAt course before) o r

/-- The origin of a query in the middle of a request is told by what it found or formulated. -/
theorem Tracing.traced (h : k.Tracing course ttl earlier o before past stage) {cacheHit : Bool}
    {query : Json} (hs : Service.Sourced ttl (promptKey prompt) (.canned (some api)) past cacheHit
      query) : ∃ text, query = .string text
        ∧ k.Traced course ttl earlier (lookAt course before) prompt api cacheHit text := by
  cases hs with
  | found hpast hlive =>
    obtain ⟨written, rfl, t, ht, hmade⟩ := h.fetched _ prompt _ (hpast ▸ List.mem_cons_self)
    have hnumber := h.numbered 1 _ (by rw [hpast]; rfl)
    have hclock := h.timed _ _ (hpast ▸ List.mem_cons_of_mem _ List.mem_cons_self)
    dsimp only at hnumber
    rw [hnumber] at hclock
    obtain rfl := Except.ok.inj hclock
    exact ⟨written.query, rfl, .hit ht hmade hlive⟩
  | formulated hformulated => exact ⟨_, rfl, .own (h.formulated _ _ _ hformulated)⟩

/-- A record that a request composes is made by it. -/
theorem Tracing.made (h : k.Tracing course ttl earlier o before past stage)
    (ho : o.asked? = some (prompt, api)) {r : Record String}
    (hr : Service.Composes prompt (Intent.canned (some api)).toText (.canned (some api)) past r) :
    k.MadeBy course o before.calls stage.calls prompt r := by
  obtain ⟨m, hm⟩ := hr.formulated
  obtain ⟨rest, n, hpast⟩ := hr.dated
  have hnumber := h.numbered rest.length ⟨n, .now, .ok r.createdAt⟩ (by rw [hpast]; simp)
  have hclock := h.timed n (.ok r.createdAt) (by rw [hpast]; simp)
  have hcalls := h.calls
  rw [hpast, List.length_append, List.length_singleton] at hcalls
  dsimp only at hnumber
  refine ⟨api, n, ho, h.formulated m _ _ hm, by omega, by omega, ?_⟩
  rw [← Except.ok.inj hclock]
  exact hr.record_eq

/-- **One call of an operation.** -/
theorem Tracing.answered (h : k.Tracing course s.cache.ttl.micros earlier o before past stage)
    (hbefore : k.Shelves (fun prompt r => ∃ t ∈ earlier, k.MadeIn course t prompt r) before)
    (hv : k.variants.Named) (hextract : s.extract = cannedExtract) {c : Call}
    (hc : o.Asks s past c) :
    k.Tracing course s.cache.ttl.micros earlier o before
      (past ++ [⟨stage.calls, c, (answerAt course c stage).1⟩]) (answerAt course c stage).2 where
  shelves := by
    have hstep : stage.calls ≤ (answerAt course c stage).2.calls := Nat.le_succ _
    have hmade : k.Shelves (fun prompt r => (∃ t ∈ earlier, k.MadeIn course t prompt r)
        ∨ k.MadeBy course o before.calls (answerAt course c stage).2.calls prompt r) stage :=
      h.shelves.mono fun prompt r => Or.imp id fun hr => hr.mono hstep
    refine hmade.kept hv course fun r hr => ?_
    subst hr
    obtain ⟨prompt, api, ho, hfor⟩ := hc.request (.inl ⟨r, rfl⟩)
    have hcomposes : Service.Composes prompt _ (.canned (some api)) past r :=
      Service.asks_canned hextract hfor
    exact ⟨prompt, by rw [hcomposes.record_eq]; rfl, .inr ((h.made ho hcomposes).mono hstep)⟩
  first := fun hnil => absurd hnil (by simp)
  calls := by
    rw [List.length_append, List.length_singleton, ← Nat.add_assoc, ← h.calls]
    rfl
  numbered := by
    intro i a ha
    rcases Nat.lt_or_ge i past.length with hi | hi
    · rw [List.getElem?_append_left hi] at ha
      exact h.numbered i a ha
    · rw [List.getElem?_append_right hi] at ha
      obtain ⟨hlt, rfl⟩ := List.getElem?_eq_some_iff.1 ha
      rw [List.length_singleton] at hlt
      obtain rfl : i = past.length := by omega
      simpa using h.calls
  timed := by
    intro n answer ha
    rcases List.mem_append.1 ha with ha | ha
    · exact h.timed n answer ha
    · cases List.mem_singleton.1 ha
      rfl
  fetched := by
    intro n prompt r hr
    rcases List.mem_append.1 hr with hr | hr
    · exact h.fetched n prompt r hr
    · cases hanswer : answerAt course c stage with
      | mk answer stage' =>
        rw [hanswer] at hr
        cases List.mem_singleton.1 hr
        -- a fetch is the first call, so the memory is as it was before the operation
        obtain rfl := h.first (Service.asks_fetch hextract hc)
        exact hbefore.fetched (congrArg Prod.fst hanswer)
  formulated := by
    intro n i query hquery
    rcases List.mem_append.1 hquery with hquery | hquery
    · exact h.formulated n i query hquery
    · cases hanswer : answerAt course c stage with
      | mk answer stage' =>
        rw [hanswer] at hquery
        cases List.mem_singleton.1 hquery
        rw [← h.shelves.formulated hv course i, hanswer]
  sent := by
    obtain ⟨requests, hsent, hposted⟩ := h.sent
    obtain ⟨more, hmore, hcarry⟩ := h.shelves.sent course c
    refine ⟨requests ++ more.toList, by rw [hmore, hsent, List.append_assoc], fun r hr => ?_⟩
    rcases List.mem_append.1 hr with hr | hr
    · exact hposted r hr
    · obtain ⟨query, tag, v, rfl, hget, rfl⟩ := hcarry r (Option.mem_toList.1 hr)
      obtain ⟨prompt, api, ho, hfor⟩ := hc.request (.inr ⟨query, tag, rfl⟩)
      obtain ⟨rfl, cacheHit, hsourced⟩ := Service.asks_canned hextract hfor
      obtain ⟨text, rfl, htraced⟩ := h.traced hsourced
      exact ⟨prompt, api, v, cacheHit, text, ho, hget, rfl, htraced⟩

/-- **Every turn is traced**, and leaves behind only records that were made in it or before. -/
theorem traces_turn (hv : k.variants.Named) (hextract : s.extract = cannedExtract)
    (course : Nat → Moment) (o : Service.Operation)
    (hstage : k.Shelves (fun prompt r => ∃ t ∈ earlier, k.MadeIn course t prompt r) stage) :
    let t := turn (Service.Operation.plan s) course o stage
    k.Traces course s.cache.ttl.micros earlier t
      ∧ k.Shelves (fun prompt r => ∃ t' ∈ earlier ++ [t], k.MadeIn course t' prompt r)
        t.after := by
  intro t
  have hstart : k.Tracing course s.cache.ttl.micros earlier o stage [] stage :=
    ⟨hstage.mono fun _ _ => .inl, fun _ => rfl, rfl, fun _ _ h => (by cases h),
      fun _ _ h => (by cases h), fun _ _ _ h => (by cases h), fun _ _ _ h => (by cases h), [],
      (List.append_nil _).symm, fun _ h => (by cases h)⟩
  have hcall (past : List Answered) (c : Call) (stage' : Stage) (hc : o.Asks s past c)
      (h : k.Tracing course s.cache.ttl.micros earlier o stage past stage') :
      k.Tracing course s.cache.ttl.micros earlier o stage
        (past ++ [⟨stage'.calls, c, (answerAt course c stage').1⟩]) (answerAt course c stage').2 :=
    h.answered hstage hv hextract hc
  obtain ⟨past, hends, htracing⟩ := (Service.tells_operation s o).run hcall hstart
  refine ⟨⟨?_, fun out hout => ?_⟩, htracing.shelves.mono ?_⟩
  · obtain ⟨requests, hsent, hposted⟩ := htracing.sent
    have hdrop : t.sent = requests := by
      rw [Turn.sent]
      exact (congrArg (List.drop _) hsent).trans List.drop_left
    rw [hdrop]
    exact hposted
  · have hreply : ((o.plan s).run (answerAt course) stage).1 = .ok (.outcome out) := hout
    rw [hreply] at hends
    obtain ⟨api, hasked, haccounts⟩ := Service.ends_outcome hextract hends
    obtain ⟨query, hquery, htraced⟩ := htracing.traced haccounts.sourced
    exact ⟨api, query, hasked, haccounts.intent_eq, hquery, htraced⟩
  · rintro prompt r (⟨t', ht', hmade⟩ | hmade)
    · exact ⟨t', List.mem_append_left _ ht', hmade⟩
    · exact ⟨t, List.mem_append_right _ (List.mem_singleton_self _), hmade⟩

/-! ### Runs -/

theorem turn_operation {ω ρ : Type} (plan : ω → Plan ρ) (course : Nat → Moment) (o : ω)
    (stage : Stage) : (turn plan course o stage).operation = o := rfl

theorem turn_before {ω ρ : Type} (plan : ω → Plan ρ) (course : Nat → Moment) (o : ω)
    (stage : Stage) : (turn plan course o stage).before = stage := rfl

theorem turns_concat {ω ρ : Type} (plan : ω → Plan ρ) (course : Nat → Moment)
    (operations : List ω) (o : ω) (stage : Stage) :
    turns plan course (operations ++ [o]) stage
      = turns plan course operations stage
        ++ [turn plan course o (finish plan course operations stage)] := by
  induction operations generalizing stage with
  | nil => rfl
  | cons first rest ih => exact congrArg _ (ih (turn plan course first stage).after)

/-- The turns of a run are those of its operations. -/
theorem operation_mem {ω ρ : Type} {plan : ω → Plan ρ} {operations : List ω} {t : Turn ω ρ}
    (h : t ∈ turns plan course operations stage) : t.operation ∈ operations := by
  induction operations generalizing stage with
  | nil => cases h
  | cons o rest ih =>
    rcases List.mem_cons.1 h with rfl | h
    · exact List.mem_cons_self
    · exact List.mem_cons_of_mem _ (ih h)

/-- After turns each of which is traced to the turns before it. -/
structure TracedRun (k : Catalogue) (course : Nat → Moment) (ttl : Int) (ts : List Service.Turn)
    (stage : Stage) : Prop where
  shelves : k.Shelves (fun prompt r => ∃ t ∈ ts, k.MadeIn course t prompt r) stage
  traces : ∀ earlier t later, ts = earlier ++ t :: later → k.Traces course ttl earlier t

theorem tracedRun_opening (k : Catalogue) (course : Nat → Moment) (ttl : Int) (clock : Timestamp)
    (network : Network) : k.TracedRun course ttl [] (k.opening clock network) where
  shelves := shelves_opening k _ clock network
  traces := fun _ _ _ h => absurd h (by simp)

/-- One more turn: it is the last one, or one of those before. -/
theorem TracedRun.turn {ts : List Service.Turn}
    (h : k.TracedRun course s.cache.ttl.micros ts stage) (hv : k.variants.Named)
    (hextract : s.extract = cannedExtract) (o : Service.Operation) :
    let t := ConceptQuery.turn (Service.Operation.plan s) course o stage
    k.TracedRun course s.cache.ttl.micros (ts ++ [t]) t.after := by
  obtain ⟨htraced, hafter⟩ := traces_turn hv hextract course o h.shelves
  refine ⟨hafter, fun earlier t later hsplit => ?_⟩
  rcases split_concat hsplit with ⟨rfl, rfl⟩ | ⟨later', hbefore⟩
  · exact htraced
  · exact h.traces earlier t later' hbefore

/-- **What every run brings about**: each of its turns is traced to the turns before it. -/
theorem tracedRun_finish (hv : k.variants.Named) (hextract : s.extract = cannedExtract)
    (operations : List Service.Operation)
    (hstage : k.TracedRun course s.cache.ttl.micros [] stage) :
    k.TracedRun course s.cache.ttl.micros
      (turns (Service.Operation.plan s) course operations stage)
      (finish (Service.Operation.plan s) course operations stage) :=
  invariant_finish (fun _ o _ h => h.turn hv hextract o) operations hstage

/-- **A turn with queries of its own variant only**: what it posts goes to the variant of its intent
and is a query of this variant, and so is what it returns. -/
structure Owns (k : Catalogue) (t : Service.Turn) : Prop where
  posted : ∀ r ∈ t.sent, ∃ prompt api v query, t.operation.asked? = some (prompt, api)
    ∧ k.variants.get (some (Intent.canned (some api)).api) = .ok v
    ∧ r = v.request (.string query) ∧ k.QueryOf (Intent.canned (some api)).api query
  returned : ∀ o, t.reply = .ok (.outcome o) →
    ∃ query, o.query = .string query ∧ k.QueryOf o.intent.api query

/-- Within the last lifetime of records, the prompt of a turn was asked for no other variant than
that of its own intent. -/
def AskedAlike (k : Catalogue) (course : Nat → Moment) (ttl : Int) (earlier : List Service.Turn)
    (t : Service.Turn) : Prop :=
  ∀ prompt api, t.operation.asked? = some (prompt, api) → ∀ t' ∈ earlier, ∀ api' n,
    t'.operation.asked? = some (prompt, api') → t'.before.calls ≤ n → n < t'.after.calls →
      (lookAt course t.before).instant - (course n).clock.instant < ttl →
        k.variants.get (some (Intent.canned (some api')).api)
          = k.variants.get (some (Intent.canned (some api)).api)

/-- A query that is traced is one of the variant of the request, if the prompt was asked for no
other. -/
theorem Traced.queryOf (hv : k.variants.Named) {t : Service.Turn} {cacheHit : Bool}
    {query : String}
    (h : k.Traced course ttl earlier (lookAt course t.before) prompt api cacheHit query)
    (ho : t.operation.asked? = some (prompt, api)) (halike : k.AskedAlike course ttl earlier t) :
    k.QueryOf (Intent.canned (some api)).api query := by
  cases h with
  | own hquery => exact queryOf_canned hv hquery
  | hit ht hmade hlive =>
    obtain ⟨api', n, hasked, hquery, hfirst, hlast, hr⟩ := hmade
    obtain ⟨v, raw, i, hget, hread, hi, hcompile⟩ := queryOf_canned hv hquery
    rw [hr] at hlive
    have hyoung := Int.not_le.1 (of_decide_eq_false hlive)
    rw [halike prompt api ho _ ht api' n hasked hfirst hlast hyoung] at hget
    exact ⟨v, raw, i, hget, hread, hi, hcompile⟩

theorem Traces.owns {t : Service.Turn} (hv : k.variants.Named)
    (h : k.Traces course ttl earlier t) (halike : k.AskedAlike course ttl earlier t) :
    k.Owns t where
  posted := by
    intro r hr
    obtain ⟨prompt, api, v, cacheHit, query, ho, hget, rfl, htraced⟩ := h.posted r hr
    exact ⟨prompt, api, v, query, ho, hget, rfl, htraced.queryOf hv ho halike⟩
  returned := by
    intro o ho
    obtain ⟨api, query, hasked, hintent, hquery, htraced⟩ := h.returned o ho
    refine ⟨query, hquery, ?_⟩
    rw [hintent]
    exact htraced.queryOf hv hasked halike

/-- **Every query is traced to a request for its prompt.** In every run of operations from an empty
memory, with the stand-in for extraction and with any prompts and tags of APIs, outages, lifetime of
records, movement of the clock and replies of the APIs: what is posted goes to the variant of the
request's own intent, and what is posted or returned was compiled from the intent of the request
itself or, if the cache gave it, from that of an earlier request for the same prompt whose record
has not reached its lifetime. If none of those was for another variant, it is a query of the variant
that it is posted to. -/
theorem traces_turns {ds : List Variant.Description}
    (hvariants : Registry.ofDescriptions ds = .ok k.variants) (hextract : s.extract = cannedExtract)
    (course : Nat → Moment) (clock : Timestamp) (network : Network)
    (operations : List Service.Operation) {earlier later : List Service.Turn} {t : Service.Turn}
    (hturns : turns (Service.Operation.plan s) course operations (k.opening clock network)
      = earlier ++ t :: later) :
    k.Traces course s.cache.ttl.micros earlier t
      ∧ (k.AskedAlike course s.cache.ttl.micros earlier t → k.Owns t) := by
  have hv := Registry.named_ofDescriptions hvariants
  have hrun := tracedRun_finish hv hextract operations
    (tracedRun_opening k course s.cache.ttl.micros clock network)
  have htraces := hrun.traces earlier t later hturns
  exact ⟨htraces, htraces.owns hv⟩

/-- A prompt that is asked for both built-in APIs, and another one that is asked for one of them
alone, its tag in two spellings. -/
theorem traces_turns_spellings :
    let s : Service := ⟨cannedExtract, ⟨.tenMinutes⟩, true, true⟩
    let course := fun _ : Nat => Moment.first
    let stage := silent.opening Moment.first.clock (.always default)
    let operations : List Service.Operation := [.compileOnly "P" "github",
      .execute "P" "countries", .invalidate "P", .execute "Q" "GitHub"]
    let earlier := turns (Service.Operation.plan s) course operations stage
    let last := turn (Service.Operation.plan s) course (.compileOnly "Q" "github")
      (finish (Service.Operation.plan s) course operations stage)
    silent.Traces course s.cache.ttl.micros earlier last ∧ silent.Owns last := by
  intro s course stage operations earlier last
  have hvariants : Registry.ofDescriptions
      [⟨"github", "paginated", "graphql_github.ttl", Settings.standard.githubGraphqlUrl,
          Settings.standard.githubToken⟩,
        ⟨"countries", "simple", "graphql_countries.ttl", Settings.standard.countriesGraphqlUrl,
          none⟩] = .ok silent.variants := rfl
  obtain ⟨htraces, howns⟩ := traces_turns (s := s) hvariants rfl course Moment.first.clock
    (.always default) (operations ++ [.compileOnly "Q" "github"]) (turns_concat _ _ _ _ _)
  refine ⟨htraces, howns ?_⟩
  intro prompt api hlast t' ht' api' n hasked _ _ _
  rw [turn_operation] at hlast
  obtain ⟨rfl, rfl⟩ := Prod.mk.inj (Option.some.inj hlast)
  have hspelling : ∀ o ∈ operations, o.asked? = some ("Q", api') → "GitHub" = api' := by
    simp [operations, Service.Operation.asked?]
  obtain rfl := hspelling _ (operation_mem ht') hasked
  rfl

/-! ### A prompt that is asked for two APIs -/

/-- The query of a prompt is compiled over an empty memory: nothing is found for it, and it is left
there without a result. -/
theorem run_compiled {query : String} (hup : ∀ n, (course n).down = [])
    (hquery : k.query (.canned (some api)) = .ok query) (prompt : String) (clock : Timestamp)
    (network : Network) :
    ∃ found compiled records n,
      (s.cached prompt).run (answerAt course) (k.opening clock network) = (.ok none, found)
        ∧ (s.compileFresh prompt (.canned (some api)) (Intent.canned (some api)).toText).run
          (answerAt course) found = (.ok query, compiled)
        ∧ compiled.Records records ∧ records.get? (promptKey prompt)
          = some (recordAt prompt query (Intent.canned (some api)).toText none (course n).clock)
        ∧ compiled.world.stores.variants = k.variants ∧ compiled.world.network = network := by
  have hcourse : s.Endures course := .inr hup
  have hopening : (k.opening clock network).Records .empty := ⟨[], rfl⟩
  obtain ⟨g, hg, rfl⟩ := Except.map_eq_ok.1 hquery
  obtain ⟨found, hrun₁, hrecords₁, houtside₁⟩ := run_cached hopening hcourse prompt
  rw [found_of_up hup] at hrun₁
  have hg₁ : ((Intent.canned (some api)).formulate found.world.stores).1 = .ok g := by
    rw [houtside₁.stores_eq]
    exact hg
  obtain ⟨compiled, n, hrun₂, hrecords₂, hvariants₂, hnetwork₂⟩ :=
    run_compileFresh hrecords₁ hcourse prompt (Intent.canned (some api)).toText hg₁
  have hsaved : fails course (n + 1) .save = false := by
    rw [fails, hup]
    rfl
  rw [hsaved, if_neg Bool.false_ne_true] at hrecords₂
  rw [houtside₁.stores_eq] at hvariants₂
  exact ⟨found, compiled, _, n, hrun₁, hrun₂, hrecords₂, Table.get?_insert_self _ _ _, hvariants₂,
    hnetwork₂.trans houtside₁.network_eq⟩

/-- A prompt that is run up to its query over an empty memory leaves its query there. -/
theorem left_by_compileOnly {query : String} (hextract : s.extract = cannedExtract)
    (hup : ∀ n, (course n).down = []) (hquery : k.query (.canned (some api)) = .ok query)
    (prompt : String) (clock : Timestamp) (network : Network) :
    let after := (turn (Service.Operation.plan s) course (.compileOnly prompt api)
      (k.opening clock network)).after
    after.world.stores.variants = k.variants ∧ after.world.network = network
      ∧ ∃ records n, after.Records records ∧ records.get? (promptKey prompt)
        = some (recordAt prompt query (Intent.canned (some api)).toText none (course n).clock) := by
  intro after
  obtain ⟨found, compiled, records, n, hrun₁, hrun₂, hrecords, hget, hvariants, hnetwork⟩ :=
    run_compiled (s := s) hup hquery prompt clock network
  have hafter : after = compiled := by
    have hrun : (s.compileOnly prompt api).run (answerAt course) (k.opening clock network)
        = (.ok ⟨prompt, .canned (some api), .string query, false, none⟩, compiled) := by
      have hread := Service.intentOf_canned hextract prompt api
      rw [Service.compileOnly, Plan.run_bind_ok (run_read hread), Plan.run_bind_ok hrun₁]
      exact Plan.run_bind_ok hrun₂
    show (turn _ _ _ _).after = _
    rw [Service.turn_compileOnly, hrun]
  rw [hafter]
  exact ⟨hvariants, hnetwork, records, n, hrecords, hget⟩

/-- A prompt whose record is live is answered by posting the query of the record to the API of the
own intent, whatever the record was compiled for. -/
theorem posted_by_execute {records : Table (Record String)} {r : Record String} {v : Variant}
    (hextract : s.extract = cannedExtract) (hup : ∀ n, (course n).down = [])
    (hs : stage.Records records) (hget : records.get? (promptKey prompt) = some r)
    (hlive : r.isExpired s.cache.ttl.micros (course (stage.calls + 1)).clock = false)
    (hresult : r.result = none)
    (hv : stage.world.stores.variants.get (some (Intent.canned (some api)).api) = .ok v) :
    let t := turn (Service.Operation.plan s) course (.execute prompt api) stage
    t.sent = [v.request (.string r.query)]
      ∧ t.reply = (v.outcome stage.world.network.next).map fun text =>
        .outcome ⟨prompt, .canned (some api), .string r.query, true, some (.string text)⟩ := by
  intro t
  have hfound : s.found course stage.calls records prompt = some r := by
    rw [found_of_up hup, liveRecord, hget, Option.filter_some, hlive]
    rfl
  have hnone : ¬ ((true && s.storeResults) = true ∧ r.result.isSome = true) := by
    rw [hresult]
    rintro ⟨-, hsome⟩
    cases hsome
  have hdispatch : dispatch stage.world.stores.variants (.string r.query)
      (some (Intent.canned (some api)).api) stage.world.network = _ := dispatch_registered hv _
  have hread := Service.intentOf_canned hextract prompt api
  have hends := (ends_execute hs (.inr hup) hread).outcome_eq
  rw [hfound, answered_hit hnone, exchanged_true, hdispatch] at hends
  obtain ⟨hreply, hnetwork⟩ := Prod.mk.inj hends
  have ht : t = _ := Service.turn_execute
  rw [ht, Turn.sent, hreply, hnetwork]
  have hsent : (Service.exchanged true stage.world.stores.variants r.query
      (Intent.canned (some api)).api stage.world.network).2
        = (stage.world.network.exchange (v.request (.string r.query))).2 :=
    congrArg Prod.snd hdispatch
  refine ⟨by rw [hsent]; exact List.drop_left, ?_⟩
  cases v.outcome stage.world.network.next <;> rfl

/-- **A query is posted elsewhere.** A prompt was compiled for one API and is run for another one
within the lifetime of records: the query that was compiled for the first one is posted to the
second one, and returned with the intent of the second one. -/
theorem posts_elsewhere {api' query : String} {v : Variant} (hextract : s.extract = cannedExtract)
    (course : Nat → Moment) (hup : ∀ n, (course n).down = [])
    (hlive : ∀ n m, (course m).clock.instant - (course n).clock.instant < s.cache.ttl.micros)
    (hquery : k.query (.canned (some api)) = .ok query)
    (hv : k.variants.get (some (Intent.canned (some api')).api) = .ok v)
    (prompt : String) (clock : Timestamp) (network : Network) :
    let first := turn (Service.Operation.plan s) course (.compileOnly prompt api)
      (k.opening clock network)
    let second := turn (Service.Operation.plan s) course (.execute prompt api') first.after
    second.sent = [v.request (.string query)]
      ∧ second.reply = (v.outcome network.next).map fun text =>
        .outcome ⟨prompt, .canned (some api'), .string query, true, some (.string text)⟩ := by
  intro first second
  obtain ⟨hvariants, hnetwork, records, n, hrecords, hget⟩ :=
    left_by_compileOnly hextract hup hquery prompt clock network
  rw [← hvariants] at hv
  have hyoung : (recordAt prompt query (Intent.canned (some api)).toText none
      (course n).clock).isExpired s.cache.ttl.micros (course (first.after.calls + 1)).clock
        = false := by
    rw [Record.isExpired, decide_eq_false_iff_not, Int.not_le]
    exact hlive n _
  obtain ⟨hsent, hreply⟩ := posted_by_execute hextract hup hrecords hget hyoung rfl hv
  rw [hnetwork] at hreply
  exact ⟨hsent, hreply⟩

/-- A prompt that is compiled for the one API and then run for the other one: its second outcome has
a query that is none of the variant of its intent. -/
theorem not_owns_shared :
    ¬ ∀ t ∈ turns (Service.Operation.plan ⟨cannedExtract, ⟨.tenMinutes⟩, true, false⟩)
        (fun _ => Moment.first) [.compileOnly "P" "github", .execute "P" "countries"]
        (silent.opening Moment.first.clock (.always default)),
      silent.Owns t := by
  intro h
  have hquery : silent.query (.canned (some "github")) = .ok _ :=
    query_unmapped (v := Settings.standard.github) named_silent rfl rfl
  have hcountries : silent.variants.get (some (Intent.canned (some "countries")).api)
      = .ok Settings.standard.countries := rfl
  obtain ⟨-, hreply⟩ := posts_elsewhere (s := ⟨cannedExtract, ⟨.tenMinutes⟩, true, false⟩) rfl
    (fun _ => Moment.first) (fun _ => rfl) (fun _ _ => by decide) hquery hcountries "P"
    Moment.first.clock (.always default)
  obtain ⟨query, hsame, hof⟩ :=
    (h _ (List.mem_cons_of_mem _ (List.mem_singleton_self _))).returned _ hreply
  obtain rfl := Json.string.inj hsame
  exact not_queryOf_silent hquery hof

end Catalogue

end ConceptQuery
