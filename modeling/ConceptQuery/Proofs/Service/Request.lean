import ConceptQuery.Proofs.Except
import ConceptQuery.Proofs.Service.MemoryRun
import ConceptQuery.Proofs.Table

/-!
# What a request comes to

Once it is known what the cache holds for a prompt, a request is told by its intent, the mapping
stores and the network: what happens to its writes into the cache makes no difference.

* `cacheCalls`, `Plan.Within.outside` — plans that only use the cache leave stores and network
  alone;
* `Service.intentOf`, `Service.answered`, `Service.staged` — the stages of a request, each in the
  surroundings of its beginning;
* `run_look_tolerated`, `run_store_tolerated` — the two uses of the cache in a request;
* `ends_request` — a request over a memory: its answer, what it sends and what it leaves behind;
* `Service.shown`, `request_eq_staged` — what is seen of it, told by its stages.
-/

namespace ConceptQuery

open Cache Http Ontology

/-! ### Calls on the cache -/

/-- Only the clock and the cache are called upon. -/
def cacheCalls : Contract where
  allows
    | .formulate _ => False
    | .send _ _ => False
    | _ => True
  promises _ _ := True

/-- Two stages with the same mapping stores and the same network. -/
structure Stage.SameOutside (s s' : Stage) : Prop where
  stores_eq : s'.world.stores = s.world.stores
  network_eq : s'.world.network = s.world.network

variable {course : Nat → Moment} {stage : Stage} {records : Table (Record String)}
  {prompt api : String}

theorem Stage.SameOutside.trans {s s' s'' : Stage} (h : s.SameOutside s')
    (h' : s'.SameOutside s'') : s.SameOutside s'' :=
  ⟨h'.stores_eq.trans h.stores_eq, h'.network_eq.trans h.network_eq⟩

/-- A call on the cache is answered by the memory, and nothing else is touched. -/
theorem answerAt_outside (course : Nat → Moment) {c : Call} (hc : cacheCalls.allows c)
    (hs : stage.Records records) :
    (∃ records', (answerAt course c stage).2.Records records')
      ∧ stage.SameOutside (answerAt course c stage).2 := by
  obtain ⟨⟨clock, backend, stores, network⟩, n⟩ := stage
  obtain ⟨down, rfl⟩ := hs
  cases c with
  | formulate i => exact absurd hc id
  | send query api => exact absurd hc id
  | _ => exact ⟨⟨_, _, rfl⟩, rfl, rfl⟩

/-- **A plan that only uses the cache** leaves mapping stores and network as they were. -/
theorem Plan.Within.outside {α : Type} {p : Plan α} (hp : p.Within cacheCalls)
    (course : Nat → Moment) (hs : stage.Records records) :
    stage.SameOutside (p.run (answerAt course) stage).2 := by
  have hanswer (c : Call) (s : Stage) (hc : cacheCalls.allows c)
      (h : (∃ records, s.Records records) ∧ stage.SameOutside s) :
      cacheCalls.promises c (answerAt course c s).1
        ∧ (∃ records, (answerAt course c s).2.Records records)
        ∧ stage.SameOutside (answerAt course c s).2 := by
    obtain ⟨⟨records, hrecords⟩, hsame⟩ := h
    obtain ⟨hafter, houtside⟩ := answerAt_outside course hc hrecords
    exact ⟨trivial, hafter, hsame.trans houtside⟩
  exact (Plan.Meets.run hanswer hp ⟨⟨records, hs⟩, rfl, rfl⟩).2.2

/-! ### Calls outside the cache -/

theorem answerAt_formulate (course : Nat → Moment) (i : Intent) (hs : stage.Records records) :
    ∃ stage', answerAt course (.formulate i) stage
        = ((i.formulate stage.world.stores).1.map (·.query), stage')
      ∧ stage'.Records records ∧ stage'.world.stores = (i.formulate stage.world.stores).2
      ∧ stage'.world.network = stage.world.network := by
  obtain ⟨⟨clock, backend, stores, network⟩, n⟩ := stage
  obtain ⟨down, rfl⟩ := hs
  exact ⟨_, rfl, ⟨_, rfl⟩, rfl, rfl⟩

theorem answerAt_send (course : Nat → Moment) (query : Json) (api : String)
    (hs : stage.Records records) :
    let exchange := dispatch stage.world.stores.variants query (some api) stage.world.network
    ∃ stage', answerAt course (.send query api) stage = (exchange.1, stage')
      ∧ stage'.Records records ∧ stage'.world.network = exchange.2 := by
  obtain ⟨⟨clock, backend, stores, network⟩, n⟩ := stage
  obtain ⟨down, rfl⟩ := hs
  exact ⟨_, rfl, ⟨_, rfl⟩, rfl⟩

/-- No document that is read changes which variants are registered. -/
theorem variants_get (s : Stores) (tag : Option String) : (s.get tag).2.variants = s.variants := by
  unfold Stores.get Stores.graphOf
  split
  · split
    · rfl
    · split <;> rfl
  · rfl

theorem variants_formulate (i : Intent) (s : Stores) :
    (i.formulate s).2.variants = s.variants := by
  have htarget : (s.target i.target (some i.api)).2.variants = s.variants := variants_get s _
  unfold Intent.formulate
  rcases hread : s.target i.target (some i.api) with ⟨a, s₁⟩
  rw [hread] at htarget
  cases a with
  | error f => exact htarget
  | ok target =>
    have hsub : (s₁.subEntity i.subEntity i.constraint (some i.api)).2.variants = s₁.variants :=
      variants_get s₁ _
    dsimp only
    rcases hread' : s₁.subEntity i.subEntity i.constraint (some i.api) with ⟨b, s₂⟩
    rw [hread'] at hsub
    cases b with
    | error f => exact hsub.trans htarget
    | ok subEntity => exact hsub.trans htarget

/-! ### Stages -/

namespace Service

/-- The intent of a prompt, with its text. -/
def intentOf (s : Service) (prompt api : String) : Except Failure (Intent × String) := do
  let text ← s.extract prompt api
  return (← Intent.ofText text, text)

/-- A request for the answer of an API, or only for the query. -/
def request (s : Service) (sends : Bool) (prompt api : String) : Plan Outcome :=
  if sends then s.execute prompt api else s.compileOnly prompt api

/-- The last stage of a request: the query is sent, if that was asked for. -/
def exchanged (sends : Bool) (variants : Registry) (query api : String) (network : Network) :
    Except Failure (Option String) × Network :=
  if sends then
    let (result, network) := dispatch variants (.string query) (some api) network
    (result.map some, network)
  else (.ok none, network)

/-- The stages of a request after its intent was read: a record that was found gives the query and
perhaps the result; without one the query is formulated; then it is sent. Each stage is told in the
mapping stores and the network of the beginning. -/
def answered (s : Service) (sends : Bool) (prompt : String) (i : Intent)
    (found : Option (Record String)) (stores : Stores) (network : Network) :
    Except Failure Outcome × Network :=
  match found with
  | some r =>
    match sends && s.storeResults, r.result with
    | true, some result => (.ok ⟨prompt, i, .string r.query, true, some (.string result)⟩, network)
    | _, _ =>
      let (result, network) := exchanged sends stores.variants r.query i.api network
      (result.map fun text => ⟨prompt, i, .string r.query, true, text.map .string⟩, network)
  | none =>
    match (i.formulate stores).1 with
    | .error f => (.error f, network)
    | .ok g =>
      let (result, network) := exchanged sends stores.variants g.query i.api network
      (result.map fun text => ⟨prompt, i, .string g.query, false, text.map .string⟩, network)

/-- All stages of a request, the earliest failure first. -/
def staged (s : Service) (sends : Bool) (prompt api : String) (found : Option (Record String))
    (stores : Stores) (network : Network) : Except Failure Outcome × Network :=
  match s.intentOf prompt api with
  | .error f => (.error f, network)
  | .ok (i, _) => s.answered sends prompt i found stores network

/-- What is found for a prompt: nothing if the look fails. -/
def found (s : Service) (course : Nat → Moment) (n : Nat) (records : Table (Record String))
    (prompt : String) : Option (Record String) :=
  if lookFails s.cache.ttl.micros course n records (promptKey prompt) then none
  else liveRecord s.cache.ttl.micros (course (n + 1)).clock records (promptKey prompt)

/-- The records after the look for a prompt. -/
def looked (s : Service) (course : Nat → Moment) (n : Nat) (records : Table (Record String))
    (prompt : String) : Table (Record String) :=
  if lookFails s.cache.ttl.micros course n records (promptKey prompt) then records
  else swept s.cache.ttl.micros (course (n + 1)).clock records (promptKey prompt)

end Service

variable {s : Service} {i : Intent}

/-- With the memory in order, no look fails. -/
theorem lookFails_of_up (hup : ∀ n, (course n).down = []) (ttl : Int) (n : Nat)
    (records : Table (Record String)) (key : String) :
    lookFails ttl course n records key = false := by
  have hnever (n : Nat) (o : Memory.Operation) : fails course n o = false := by
    rw [fails, hup]
    rfl
  rw [lookFails, hnever, hnever, Bool.and_false, Bool.or_false]

/-- With the memory in order, a look finds the live record. -/
theorem found_of_up (hup : ∀ n, (course n).down = []) (s : Service) (n : Nat)
    (records : Table (Record String)) (prompt : String) :
    s.found course n records prompt
      = liveRecord s.cache.ttl.micros (course (n + 1)).clock records (promptKey prompt) := by
  rw [Service.found, lookFails_of_up hup]
  rfl

/-- With the memory in order, a look takes away the record if it has reached its lifetime. -/
theorem looked_of_up (hup : ∀ n, (course n).down = []) (s : Service) (n : Nat)
    (records : Table (Record String)) (prompt : String) :
    s.looked course n records prompt
      = swept s.cache.ttl.micros (course (n + 1)).clock records (promptKey prompt) := by
  rw [Service.looked, lookFails_of_up hup]
  rfl

/-! ### The cache within a request -/

/-- Outages are passed over, or there are none. -/
def Service.Endures (s : Service) (course : Nat → Moment) : Prop :=
  s.bypass = true ∨ ∀ n, (course n).down = []

theorem Service.Endures.bypass (h : s.Endures course) {n : Nat} {o : Memory.Operation}
    (hfails : fails course n o = true) : s.bypass = true := by
  rcases h with hbypass | hup
  · exact hbypass
  · rw [fails, hup] at hfails
    cases hfails

theorem run_tolerate {α σ : Type} {answer : (c : Call) → σ → Except Failure c.Answer × σ}
    {p : Plan α} {fallback : α} {x : σ} {y : Except Failure α × σ} (hp : p.run answer x = y) :
    (s.tolerate fallback p).run answer x = (match y.1 with
      | .ok a => .ok a
      | .error (.cacheUnavailable reason) =>
        if s.bypass then .ok fallback else .error (.cacheUnavailable reason)
      | .error f => .error f, y.2) := by
  unfold Service.tolerate Plan.recover
  rw [Plan.run_thenResult, hp]
  obtain ⟨a | f, x'⟩ := y
  · cases a with
    | cacheUnavailable reason =>
      dsimp only
      split <;> rfl
    | _ => rfl
  · rfl

/-- **The look for a prompt** fails a request only by an outage that is not tolerated. -/
theorem run_look_tolerated (hs : stage.Records records) (s : Service) (prompt : String) :
    let failed := lookFails s.cache.ttl.micros course stage.calls records (promptKey prompt)
    ∃ stage', (s.cached prompt).run (answerAt course) stage
        = (if failed && !s.bypass then .error Memory.isDown
          else .ok ((s.found course stage.calls records prompt).map (·.map .string)), stage')
      ∧ stage'.Records (s.looked course stage.calls records prompt)
      ∧ stage.SameOutside stage' ∧ stage.calls < stage'.calls := by
  intro failed
  obtain ⟨stage', hrun, hrecords, hcalls⟩ := run_look course s.cache prompt hs
  have houtside : stage.SameOutside stage' := by
    have hwithin : (s.cache.get prompt).Within cacheCalls :=
      s.cache.within_get trivial trivial trivial
    have h := hwithin.outside course hs
    rwa [hrun] at h
  refine ⟨stage', ?_, hrecords, houtside, hcalls⟩
  rw [Service.cached, run_tolerate hrun, Service.found]
  cases hfailed : lookFails s.cache.ttl.micros course stage.calls records (promptKey prompt) with
  | true =>
    simp only [failed, hfailed]
    cases s.bypass <;> rfl
  | false =>
    simp only [failed, hfailed]
    rfl

/-- The look for a prompt within a request never fails it, if outages are endured. -/
theorem run_cached (hs : stage.Records records) (hcourse : s.Endures course) (prompt : String) :
    ∃ stage', (s.cached prompt).run (answerAt course) stage
        = (.ok ((s.found course stage.calls records prompt).map (·.map .string)), stage')
      ∧ stage'.Records (s.looked course stage.calls records prompt)
      ∧ stage.SameOutside stage' := by
  obtain ⟨stage', hrun, hrecords, houtside, -⟩ := run_look_tolerated hs s prompt
  have hendured : (lookFails s.cache.ttl.micros course stage.calls records (promptKey prompt)
      && !s.bypass) = false := by
    rcases hcourse with hbypass | hup
    · rw [hbypass, Bool.not_true, Bool.and_false]
    · rw [lookFails_of_up hup, Bool.false_and]
  rw [hendured, if_neg Bool.false_ne_true] at hrun
  exact ⟨stage', hrun, hrecords, houtside⟩

/-- **A write** fails a request only by an outage that is not tolerated. -/
theorem run_store_tolerated (hs : stage.Records records) (s : Service)
    (prompt query intentText : String) (result : Option String) :
    let r := recordAt prompt query intentText result (course stage.calls).clock
    let failed := fails course (stage.calls + 1) .save
    ∃ stage', (s.store prompt query intentText result).run (answerAt course) stage
        = (if failed && !s.bypass then .error Memory.isDown else .ok (), stage')
      ∧ stage'.Records (if failed then records else records.insert (promptKey prompt) r)
      ∧ stage.SameOutside stage' ∧ stage'.calls = stage.calls + 2 := by
  intro r failed
  obtain ⟨stage', hrun, hrecords, hcalls⟩ := run_put course prompt query intentText result hs
  have houtside : stage.SameOutside stage' := by
    have hwithin : (PromptCache.put prompt query intentText result).Within cacheCalls :=
      PromptCache.within_put trivial fun _ _ => trivial
    have h := hwithin.outside course hs
    rwa [hrun] at h
  refine ⟨stage', ?_, hrecords, houtside, hcalls⟩
  have hput : (do let _ ← PromptCache.put prompt query intentText result : Plan Unit).run
      (answerAt course) stage = (if failed then .error Memory.isDown else .ok (), stage') := by
    show (PromptCache.put prompt query intentText result >>= fun _ => pure ()).run _ _ = _
    cases hfailed : failed with
    | true => exact Plan.run_bind_error (by rw [hrun, show fails _ _ _ = _ from hfailed]; rfl)
    | false => exact Plan.run_bind_ok (by rw [hrun, show fails _ _ _ = _ from hfailed]; rfl)
  rw [Service.store, run_tolerate hput]
  cases failed with
  | true => cases s.bypass <;> rfl
  | false => rfl

/-- A write within a request never fails it, if outages are endured. -/
theorem run_store (hs : stage.Records records) (hcourse : s.Endures course)
    (prompt query intentText : String) (result : Option String) :
    let r := recordAt prompt query intentText result (course stage.calls).clock
    ∃ stage', (s.store prompt query intentText result).run (answerAt course) stage
        = (.ok (), stage')
      ∧ stage'.Records (if fails course (stage.calls + 1) .save then records
        else records.insert (promptKey prompt) r)
      ∧ stage.SameOutside stage' := by
  intro r
  obtain ⟨stage', hrun, hrecords, houtside, -⟩ :=
    run_store_tolerated hs s prompt query intentText result
  have hendured : (fails course (stage.calls + 1) .save && !s.bypass) = false := by
    cases hfails : fails course (stage.calls + 1) .save with
    | true => rw [hcourse.bypass hfails, Bool.not_true, Bool.and_false]
    | false => rfl
  rw [hendured, if_neg Bool.false_ne_true] at hrun
  exact ⟨stage', hrun, hrecords, houtside⟩

/-! ### Requests -/

/-- What a request leaves in the cache after the look into it: nothing new if it found a record or
its query could not be formulated; the record without a result, or no record if that could not be
written, if it fails later. -/
structure Service.Leaves (prompt text : String) (i : Intent) (found : Option (Record String))
    (looked : Table (Record String)) (course : Nat → Moment) (stores : Stores)
    (reply : Except Failure Outcome) (records' : Table (Record String)) : Prop where
  hit : ∀ r, found = some r → records' = looked
  unformulated : ∀ f, (i.formulate stores).1 = .error f → records' = looked
  formulated : ∀ g, found = none → (i.formulate stores).1 = .ok g → ∀ f, reply = .error f →
    ∃ n, records' = if fails course (n + 1) .save then looked
      else looked.insert (promptKey prompt)
        (recordAt prompt g.query text none (course n).clock)
  others : ∀ key, key ≠ promptKey prompt → records'.get? key = looked.get? key

/-- A request ends as its stages tell, and leaves behind what it may. -/
structure Service.Ends (s : Service) (sends : Bool) (prompt text : String) (i : Intent)
    (course : Nat → Moment) (stage : Stage) (records : Table (Record String))
    (run : Except Failure Outcome × Stage) : Prop where
  outcome_eq : (run.1, run.2.world.network)
    = s.answered sends prompt i (s.found course stage.calls records prompt) stage.world.stores
      stage.world.network
  records : ∃ records', run.2.Records records' ∧ Service.Leaves prompt text i
    (s.found course stage.calls records prompt) (s.looked course stage.calls records prompt) course
    stage.world.stores run.1 records'

/-- A prompt is not read if its text is not found, or is malformed. -/
theorem intentOf_eq_error {f : Failure} : s.intentOf prompt api = .error f ↔
    s.extract prompt api = .error f
      ∨ ∃ text, s.extract prompt api = .ok text ∧ Intent.ofText text = .error f := by
  unfold Service.intentOf
  rw [Except.bind_eq_error]
  apply or_congr_right
  apply exists_congr
  intro text
  apply and_congr_right
  intro _
  rw [Except.bind_eq_error]
  constructor
  · rintro (hf | ⟨i, -, hi⟩)
    · exact hf
    · cases hi
  · exact .inl

theorem run_read {σ : Type} {answer : (c : Call) → σ → Except Failure c.Answer × σ} {x : σ}
    {text : String} (hread : s.intentOf prompt api = .ok (i, text)) :
    (s.read prompt api).run answer x = (.ok (i, text), x) := by
  rw [show s.read prompt api = .done (s.intentOf prompt api) from rfl, hread]
  rfl

/-- A write that may fail leaves the records of other keys as they are. -/
theorem get?_saved (failed : Bool) (records : Table (Record String)) (r : Record String)
    {key other : String} (h : other ≠ key) :
    (if failed then records else records.insert key r).get? other = records.get? other := by
  split
  · rfl
  · exact Table.get?_insert_of_ne records r h

/-- A query that is formulated anew is cached, if that succeeds. -/
theorem run_compileFresh (hs : stage.Records records) (hcourse : s.Endures course)
    (prompt text : String) {g : Formulation} (hg : (i.formulate stage.world.stores).1 = .ok g) :
    ∃ stage' n, (s.compileFresh prompt i text).run (answerAt course) stage = (.ok g.query, stage')
      ∧ stage'.Records (if fails course (n + 1) .save then records
        else records.insert (promptKey prompt)
          (recordAt prompt g.query text none (course n).clock))
      ∧ stage'.world.stores.variants = stage.world.stores.variants
      ∧ stage'.world.network = stage.world.network := by
  obtain ⟨stage₁, hrun₁, hrecords₁, hstores₁, hnetwork₁⟩ := answerAt_formulate course i hs
  rw [hg] at hrun₁
  obtain ⟨stage₂, hrun₂, hrecords₂, houtside⟩ :=
    run_store hrecords₁ hcourse prompt g.query text none
  refine ⟨stage₂, _, ?_, hrecords₂, ?_, houtside.network_eq.trans hnetwork₁⟩
  · rw [Service.compileFresh, Plan.run_call_ok hrun₁, Plan.run_bind_ok hrun₂]
    rfl
  · rw [houtside.stores_eq, hstores₁, variants_formulate]

theorem run_compileFresh_error (course : Nat → Moment) (hs : stage.Records records)
    (prompt text : String) {f : Failure} (hf : (i.formulate stage.world.stores).1 = .error f) :
    ∃ stage', (s.compileFresh prompt i text).run (answerAt course) stage = (.error f, stage')
      ∧ stage'.Records records ∧ stage'.world.network = stage.world.network := by
  obtain ⟨stage₁, hrun₁, hrecords₁, -, hnetwork₁⟩ := answerAt_formulate course i hs
  rw [hf] at hrun₁
  exact ⟨stage₁, Plan.run_call_error hrun₁, hrecords₁, hnetwork₁⟩

theorem leaves_hit {text : String} {r : Record String} {looked : Table (Record String)}
    {stores : Stores} {reply : Except Failure Outcome} :
    Service.Leaves prompt text i (some r) looked course stores reply looked where
  hit := fun _ _ => rfl
  unformulated := fun _ _ => rfl
  formulated := by
    intro g hnone
    cases hnone
  others := fun _ _ => rfl

theorem leaves_unformulated {text : String} {looked : Table (Record String)} {stores : Stores}
    {reply : Except Failure Outcome} {f : Failure} (hf : (i.formulate stores).1 = .error f) :
    Service.Leaves prompt text i none looked course stores reply looked where
  hit := by
    intro r hr
    cases hr
  unformulated := fun _ _ => rfl
  formulated := by
    intro g _ hg
    rw [hf] at hg
    cases hg
  others := fun _ _ => rfl

theorem leaves_formulated {text : String} {looked records' : Table (Record String)}
    {stores : Stores} {reply : Except Failure Outcome} {g : Formulation}
    (hg : (i.formulate stores).1 = .ok g)
    (hrecords : ∀ f, reply = .error f → ∃ n, records' = if fails course (n + 1) .save then looked
      else looked.insert (promptKey prompt)
        (recordAt prompt g.query text none (course n).clock))
    (hothers : ∀ key, key ≠ promptKey prompt → records'.get? key = looked.get? key) :
    Service.Leaves prompt text i none looked course stores reply records' where
  hit := by
    intro r hr
    cases hr
  unformulated := by
    intro f hf
    rw [hg] at hf
    cases hf
  formulated := by
    intro g' _ hg'
    rw [hg] at hg'
    obtain rfl := Except.ok.inj hg'
    exact hrecords
  others := hothers

/-- A query that is sent is answered as the registered variants and the network tell. -/
theorem run_sent (course : Nat → Moment) (hs : stage.Records records) (query api : String)
    (tell : String → Outcome) :
    let exchange := dispatch stage.world.stores.variants (.string query) (some api)
      stage.world.network
    ∃ stage', (do
        let result ← Plan.call (.send (.string query) api)
        return tell result : Plan Outcome).run (answerAt course) stage
        = (exchange.1.map tell, stage')
      ∧ stage'.Records records ∧ stage'.world.network = exchange.2 := by
  intro exchange
  obtain ⟨stage', hrun, hrecords, hnetwork⟩ :=
    answerAt_send course (.string query) api hs
  refine ⟨stage', ?_, hrecords, hnetwork⟩
  cases hresult : exchange.1 with
  | error f =>
    rw [show (dispatch _ _ _ _).1 = _ from hresult] at hrun
    exact Plan.run_call_error hrun
  | ok result =>
    rw [show (dispatch _ _ _ _).1 = _ from hresult] at hrun
    exact Plan.run_call_ok hrun

/-- What follows a look that found a record. -/
def Service.reuse (s : Service) (prompt : String) (i : Intent) (record : Record Json) :
    Plan Outcome :=
  match s.storeResults, record.result with
  | true, some result => return ⟨prompt, i, record.query, true, some result⟩
  | _, _ => do
    let result ← Plan.call (.send record.query i.api)
    return ⟨prompt, i, record.query, true, some (.string result)⟩

/-- What follows a look that found none. -/
def Service.renew (s : Service) (prompt text : String) (i : Intent) : Plan Outcome := do
  let query ← s.compileFresh prompt i text
  let result ← Plan.call (.send (.string query) i.api)
  if s.storeResults then
    s.store prompt query text (some result)
  return ⟨prompt, i, .string query, false, some (.string result)⟩

theorem exchanged_true (variants : Registry) (query api : String) (network : Network)
    (tell : Option String → Outcome) :
    (Service.exchanged true variants query api network).1.map tell
      = (dispatch variants (.string query) (some api) network).1.map
        fun text => tell (some text) := by
  unfold Service.exchanged
  rcases dispatch variants (.string query) (some api) network with ⟨a | a, network'⟩ <;> rfl

/-- A record without a result that could be given is answered by sending its query. -/
theorem answered_hit {sends : Bool} {r : Record String} {stores : Stores} {network : Network}
    (h : ¬ ((sends && s.storeResults) = true ∧ r.result.isSome = true)) :
    s.answered sends prompt i (some r) stores network
      = ((Service.exchanged sends stores.variants r.query i.api network).1.map fun text =>
          ⟨prompt, i, .string r.query, true, text.map .string⟩,
        (Service.exchanged sends stores.variants r.query i.api network).2) := by
  unfold Service.answered
  cases hstore : sends && s.storeResults with
  | false => rfl
  | true =>
    cases hresult : r.result with
    | none =>
      dsimp only
      rw [hresult]
    | some result => exact absurd ⟨hstore, by rw [hresult]; rfl⟩ h

/-- A record with a result that can be given is answered by it. -/
theorem answered_given {sends : Bool} {r : Record String} {result : String} {stores : Stores}
    {network : Network} (hstore : (sends && s.storeResults) = true)
    (hresult : r.result = some result) :
    s.answered sends prompt i (some r) stores network
      = (.ok ⟨prompt, i, .string r.query, true, some (.string result)⟩, network) := by
  simp only [Service.answered, hstore, hresult]

theorem run_reuse (course : Nat → Moment) (hs : stage.Records records) (prompt : String)
    (r : Record String) :
    let answer := s.answered true prompt i (some r) stage.world.stores stage.world.network
    ∃ stage', (s.reuse prompt i (r.map .string)).run (answerAt course) stage = (answer.1, stage')
      ∧ stage'.Records records ∧ stage'.world.network = answer.2 := by
  intro answer
  by_cases hstored : s.storeResults = true ∧ r.result.isSome = true
  · obtain ⟨hstore, hsome⟩ := hstored
    obtain ⟨result, hresult⟩ := Option.isSome_iff_exists.1 hsome
    have hplan : s.reuse prompt i (r.map .string)
        = return ⟨prompt, i, .string r.query, true, some (.string result)⟩ := by
      simp only [Service.reuse, Record.map, hstore, hresult, Option.map_some]
    have hanswer : answer = _ := answered_given (s := s) hstore hresult
    rw [hplan, hanswer]
    exact ⟨stage, rfl, hs, rfl⟩
  · obtain ⟨stage', hrun, hrecords, hnetwork⟩ := run_sent course hs r.query i.api
      fun result => ⟨prompt, i, .string r.query, true, some (.string result)⟩
    have hplan : s.reuse prompt i (r.map .string) = do
        let result ← Plan.call (.send (.string r.query) i.api)
        return ⟨prompt, i, .string r.query, true, some (.string result)⟩ := by
      cases hstore : s.storeResults <;> cases hresult : r.result <;>
        simp_all [Service.reuse, Record.map]
    have hanswer : answer = _ := answered_hit (s := s) hstored
    rw [hplan, hanswer, exchanged_true]
    exact ⟨stage', hrun, hrecords, hnetwork⟩

/-- A query that is formulated anew, cached and sent; the result is cached if that is wanted. -/
theorem run_renew (hs : stage.Records records) (hcourse : s.Endures course) (prompt text : String)
    {g : Formulation} (hg : (i.formulate stage.world.stores).1 = .ok g) :
    let answer := s.answered true prompt i none stage.world.stores stage.world.network
    ∃ stage' records', (s.renew prompt text i).run (answerAt course) stage = (answer.1, stage')
      ∧ stage'.Records records' ∧ stage'.world.network = answer.2
      ∧ (∀ f, answer.1 = .error f → ∃ n, records' = if fails course (n + 1) .save then records
        else records.insert (promptKey prompt)
          (recordAt prompt g.query text none (course n).clock))
      ∧ ∀ key, key ≠ promptKey prompt → records'.get? key = records.get? key := by
  intro answer
  obtain ⟨stage₁, n, hrun₁, hrecords₁, hvariants₁, hnetwork₁⟩ :=
    run_compileFresh hs hcourse prompt text hg
  obtain ⟨stage₂, hrun₂, hrecords₂, hnetwork₂⟩ :=
    answerAt_send course (.string g.query) i.api hrecords₁
  rw [hvariants₁, hnetwork₁] at hrun₂ hnetwork₂
  have hanswer : answer = ((dispatch stage.world.stores.variants (.string g.query) (some i.api)
      stage.world.network).1.map fun result =>
        ⟨prompt, i, .string g.query, false, some (.string result)⟩,
      (dispatch stage.world.stores.variants (.string g.query) (some i.api)
        stage.world.network).2) := by
    simp only [answer, Service.answered, hg]
    rw [exchanged_true]
    rfl
  rw [hanswer, ← hnetwork₂, Service.renew, Plan.run_bind_ok hrun₁]
  cases hresult : (dispatch stage.world.stores.variants (.string g.query) (some i.api)
    stage.world.network).1 with
  | error f =>
    rw [hresult] at hrun₂
    exact ⟨stage₂, _, Plan.run_call_error hrun₂, hrecords₂, rfl, fun _ _ => ⟨n, rfl⟩,
      fun _ hkey => get?_saved _ _ _ hkey⟩
  | ok result =>
    rw [hresult] at hrun₂
    rw [Plan.run_call_ok hrun₂]
    by_cases hstore : s.storeResults = true
    · obtain ⟨stage₃, hrun₃, hrecords₃, houtside₃⟩ :=
        run_store hrecords₂ hcourse prompt g.query text (some result)
      rw [if_pos hstore]
      refine ⟨stage₃, _, Plan.run_bind_ok hrun₃, hrecords₃, houtside₃.network_eq, ?_, ?_⟩
      · intro f hf
        cases hf
      · intro key hkey
        rw [get?_saved _ _ _ hkey, get?_saved _ _ _ hkey]
    · rw [if_neg hstore]
      refine ⟨stage₂, _, rfl, hrecords₂, rfl, ?_, fun _ hkey => get?_saved _ _ _ hkey⟩
      intro f hf
      cases hf

/-- A request that found a record ends as that record lets it. -/
theorem ends_hit {sends : Bool} {text : String} {r : Record String}
    {reply : Except Failure Outcome} {stage' : Stage}
    (hfound : s.found course stage.calls records prompt = some r)
    (hrecords : stage'.Records (s.looked course stage.calls records prompt))
    (hanswer : (reply, stage'.world.network)
      = s.answered sends prompt i (some r) stage.world.stores stage.world.network) :
    s.Ends sends prompt text i course stage records (reply, stage') where
  outcome_eq := by
    rw [hfound]
    exact hanswer
  records := by
    rw [hfound]
    exact ⟨_, hrecords, leaves_hit⟩

/-- A request whose query cannot be formulated ends with that failure. -/
theorem ends_unformulated {sends : Bool} {text : String} {f : Failure} {stage' : Stage}
    (hfound : s.found course stage.calls records prompt = none)
    (hf : (i.formulate stage.world.stores).1 = .error f)
    (hrecords : stage'.Records (s.looked course stage.calls records prompt))
    (hnetwork : stage'.world.network = stage.world.network) :
    s.Ends sends prompt text i course stage records (.error f, stage') where
  outcome_eq := by
    rw [hfound, Service.answered, hf, ← hnetwork]
  records := by
    rw [hfound]
    exact ⟨_, hrecords, leaves_unformulated hf⟩

/-- A request whose query was formulated anew ends as the exchange does. -/
theorem ends_formulated {sends : Bool} {text : String} {g : Formulation}
    {reply : Except Failure Outcome} {stage' : Stage} {records' : Table (Record String)}
    (hfound : s.found course stage.calls records prompt = none)
    (hg : (i.formulate stage.world.stores).1 = .ok g) (hrecords : stage'.Records records')
    (hanswer : (reply, stage'.world.network)
      = s.answered sends prompt i none stage.world.stores stage.world.network)
    (hleaves : ∀ f, reply = .error f → ∃ n, records' = if fails course (n + 1) .save then
        s.looked course stage.calls records prompt
      else (s.looked course stage.calls records prompt).insert (promptKey prompt)
        (recordAt prompt g.query text none (course n).clock))
    (hothers : ∀ key, key ≠ promptKey prompt →
      records'.get? key = (s.looked course stage.calls records prompt).get? key) :
    s.Ends sends prompt text i course stage records (reply, stage') where
  outcome_eq := by
    rw [hfound]
    exact hanswer
  records := by
    rw [hfound]
    exact ⟨_, hrecords, leaves_formulated hg hleaves hothers⟩

/-- **A prompt that is run from end to end** over a memory. The cases are what the cache holds and
whether the query can be formulated. -/
theorem ends_execute (hs : stage.Records records) (hcourse : s.Endures course) {text : String}
    (hread : s.intentOf prompt api = .ok (i, text)) :
    s.Ends true prompt text i course stage records
      ((s.execute prompt api).run (answerAt course) stage) := by
  obtain ⟨stage₁, hrun₁, hrecords₁, houtside₁⟩ := run_cached hs hcourse prompt
  have hrest : (s.execute prompt api).run (answerAt course) stage
      = (match s.found course stage.calls records prompt with
        | some r => s.reuse prompt i (r.map .string)
        | none => s.renew prompt text i : Plan Outcome).run (answerAt course) stage₁ := by
    rw [Service.execute, Plan.run_bind_ok (run_read hread)]
    dsimp only
    rw [Plan.run_bind_ok hrun₁]
    cases s.found course stage.calls records prompt <;> rfl
  rw [hrest]
  cases hfound : s.found course stage.calls records prompt with
  | some r =>
    obtain ⟨stage₂, hrun₂, hrecords₂, hnetwork₂⟩ :=
      run_reuse (s := s) (i := i) course hrecords₁ prompt r
    rw [houtside₁.stores_eq, houtside₁.network_eq] at hrun₂ hnetwork₂
    dsimp only
    rw [hrun₂]
    exact ends_hit hfound hrecords₂ (Prod.ext rfl hnetwork₂)
  | none =>
    dsimp only
    cases hg : (i.formulate stage.world.stores).1 with
    | error f =>
      rw [← houtside₁.stores_eq] at hg
      obtain ⟨stage₂, hrun₂, hrecords₂, hnetwork₂⟩ :=
        run_compileFresh_error (s := s) course hrecords₁ prompt text hg
      rw [houtside₁.stores_eq] at hg
      rw [Service.renew, Plan.run_bind_error hrun₂]
      exact ends_unformulated hfound hg hrecords₂ (hnetwork₂.trans houtside₁.network_eq)
    | ok g =>
      rw [← houtside₁.stores_eq] at hg
      obtain ⟨stage₂, records₂, hrun₂, hrecords₂, hnetwork₂, hleaves, hothers⟩ :=
        run_renew hrecords₁ hcourse prompt text hg
      rw [houtside₁.stores_eq, houtside₁.network_eq] at hrun₂ hnetwork₂ hleaves
      rw [houtside₁.stores_eq] at hg
      rw [hrun₂]
      exact ends_formulated hfound hg hrecords₂ (Prod.ext rfl hnetwork₂) hleaves hothers

/-- **A prompt that is run up to its query** over a memory, with the cases of `ends_execute`. -/
theorem ends_compileOnly (hs : stage.Records records) (hcourse : s.Endures course) {text : String}
    (hread : s.intentOf prompt api = .ok (i, text)) :
    s.Ends false prompt text i course stage records
      ((s.compileOnly prompt api).run (answerAt course) stage) := by
  obtain ⟨stage₁, hrun₁, hrecords₁, houtside₁⟩ := run_cached hs hcourse prompt
  have hrest : (s.compileOnly prompt api).run (answerAt course) stage
      = (match s.found course stage.calls records prompt with
        | some r => return ⟨prompt, i, .string r.query, true, none⟩
        | none => do
          let query ← s.compileFresh prompt i text
          return ⟨prompt, i, .string query, false, none⟩ : Plan Outcome).run (answerAt course)
            stage₁ := by
    rw [Service.compileOnly, Plan.run_bind_ok (run_read hread)]
    dsimp only
    rw [Plan.run_bind_ok hrun₁]
    cases s.found course stage.calls records prompt <;> rfl
  rw [hrest]
  cases hfound : s.found course stage.calls records prompt with
  | some r => exact ends_hit hfound hrecords₁ (Prod.ext rfl houtside₁.network_eq)
  | none =>
    dsimp only
    cases hg : (i.formulate stage.world.stores).1 with
    | error f =>
      rw [← houtside₁.stores_eq] at hg
      obtain ⟨stage₂, hrun₂, hrecords₂, hnetwork₂⟩ :=
        run_compileFresh_error (s := s) course hrecords₁ prompt text hg
      rw [houtside₁.stores_eq] at hg
      rw [Plan.run_bind_error hrun₂]
      exact ends_unformulated hfound hg hrecords₂ (hnetwork₂.trans houtside₁.network_eq)
    | ok g =>
      rw [← houtside₁.stores_eq] at hg
      obtain ⟨stage₂, n, hrun₂, hrecords₂, -, hnetwork₂⟩ :=
        run_compileFresh hrecords₁ hcourse prompt text hg
      rw [houtside₁.stores_eq] at hg
      rw [Plan.run_bind_ok hrun₂]
      refine ends_formulated hfound hg hrecords₂ ?_ (fun f hf => (by cases hf))
        fun _ hkey => get?_saved _ _ _ hkey
      rw [Service.answered, hg, hnetwork₂, houtside₁.network_eq]
      rfl

/-! ### What is seen of a request -/

/-- What is seen of a request from outside: its reply and the network. -/
def Service.shown (s : Service) (sends : Bool) (prompt api : String) (course : Nat → Moment)
    (stage : Stage) : Except Failure Outcome × Network :=
  let (reply, after) := (s.request sends prompt api).run (answerAt course) stage
  (reply, after.world.network)

theorem run_request_unread {σ : Type} {answer : (c : Call) → σ → Except Failure c.Answer × σ}
    {x : σ} {sends : Bool} {f : Failure} (hread : s.intentOf prompt api = .error f) :
    (s.request sends prompt api).run answer x = (.error f, x) := by
  have hrun : (s.read prompt api).run answer x = (.error f, x) := by
    rw [show s.read prompt api = .done (s.intentOf prompt api) from rfl, hread]
    rfl
  cases sends with
  | true => exact Plan.run_bind_error hrun
  | false => exact Plan.run_bind_error hrun

theorem ends_request (hs : stage.Records records) (hcourse : s.Endures course) {text : String}
    (hread : s.intentOf prompt api = .ok (i, text)) (sends : Bool) :
    s.Ends sends prompt text i course stage records
      ((s.request sends prompt api).run (answerAt course) stage) := by
  cases sends with
  | true => exact ends_execute hs hcourse hread
  | false => exact ends_compileOnly hs hcourse hread

/-- **What is seen of a request** is told by its stages, from what was found for its prompt. -/
theorem request_eq_staged (hs : stage.Records records) (hcourse : s.Endures course) (sends : Bool)
    (prompt api : String) :
    s.shown sends prompt api course stage
      = s.staged sends prompt api (s.found course stage.calls records prompt) stage.world.stores
        stage.world.network := by
  unfold Service.shown Service.staged
  cases hread : s.intentOf prompt api with
  | error f =>
    rw [run_request_unread hread]
  | ok it =>
    obtain ⟨i, text⟩ := it
    exact (ends_request hs hcourse hread sends).outcome_eq

end ConceptQuery
