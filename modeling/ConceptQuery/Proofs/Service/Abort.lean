import ConceptQuery.Proofs.Service.Delivery

/-!
# Requests that an outage aborts

A service that does not go on without its cache fails a request with the first call on the cache
that fails. Where that call stands tells what the request leaves behind: nothing was sent before
it, unless it was to keep the result of the one request that was.

* `tolerate_eq`, `Service.strict_request` — requests that are failed by every call that fails;
* `Service.Stopped` — how things stand when a request calls on the memory;
* `stopped_get`, `stopped_store`, `stopped_prepare`, `stopped_deliver` — the parts of a request;
* `Service.Aborts`, `aborts_request` — requests during an outage.
-/

namespace ConceptQuery

open Cache Http

namespace Service

variable {s : Service} {prompt api : String}

/-! ### Requests without care for outages -/

/-- A service that does not go on without its cache leaves plans as they are. -/
theorem tolerate_eq {α : Type} (hbypass : s.bypass = false) (fallback : α) (p : Plan α) :
    s.tolerate fallback p = p := by
  conv_rhs => rw [← Plan.thenResult_done p]
  show p.thenResult _ = _
  congr 1
  funext result
  cases result with
  | ok a => rfl
  | error f =>
    cases f with
    | cacheUnavailable reason =>
      show (if s.bypass then _ else _) = _
      rw [hbypass]
      rfl
    | _ => rfl

theorem cached_eq (hbypass : s.bypass = false) (prompt : String) :
    s.cached prompt = s.cache.get prompt :=
  tolerate_eq hbypass none _

theorem store_eq (hbypass : s.bypass = false) (prompt query text : String)
    (result : Option String) : s.store prompt query text result
      = (do let _ ← PromptCache.put prompt query text result : Plan Unit) :=
  tolerate_eq hbypass () _

section Strict

variable {own : Failure → Prop}

theorem strict_get (c : PromptCache) (prompt : String) : (c.get prompt).Strict own := by
  unfold PromptCache.get
  apply (Plan.strict_call _).bind
  intro found
  cases found with
  | none => exact Plan.strict_pure _
  | some record =>
    apply (Plan.strict_call _).bind
    intro now
    by_cases hexpired : record.isExpired c.ttl.micros now = true
    · rw [if_pos hexpired]
      exact (Plan.strict_call _).bind fun _ => Plan.strict_pure _
    · rw [if_neg hexpired]
      exact Plan.strict_pure _

theorem strict_store (hbypass : s.bypass = false) (prompt query text : String)
    (result : Option String) : (s.store prompt query text result).Strict own := by
  rw [store_eq hbypass]
  have hput : (PromptCache.put prompt query text result).Strict own := by
    apply (Plan.strict_call _).bind
    intro createdAt
    exact (Plan.strict_call _).bind fun _ => Plan.strict_pure _
  exact hput.bind fun _ => Plan.strict_pure _

/-- The failures that a preparation has of its own are those to read the prompt. -/
theorem strict_prepare (hbypass : s.bypass = false) (prompt api : String) :
    (s.prepare prompt api).Strict fun f => s.intentOf prompt api = .error f := by
  have hread : (s.read prompt api).Strict fun f => s.intentOf prompt api = .error f :=
    fun f hf => hf
  apply hread.bind
  intro it
  rw [cached_eq hbypass]
  apply (strict_get s.cache prompt).bind
  intro found
  cases found with
  | some record => exact Plan.strict_pure _
  | none =>
    have hfresh : (s.compileFresh prompt it.1 it.2).Strict
        fun f => s.intentOf prompt api = .error f := by
      apply (Plan.strict_call _).bind
      intro query
      exact (strict_store hbypass _ _ _ _).bind fun _ => Plan.strict_pure _
    exact hfresh.bind fun _ => Plan.strict_pure _

theorem strict_deliver (hbypass : s.bypass = false) (prompt : String) (p : Prepared) :
    (s.deliver prompt p).Strict own := by
  cases p with
  | found i record =>
    show (s.reuse prompt i record).Strict own
    unfold reuse
    split
    · exact Plan.strict_pure _
    · exact (Plan.strict_call _).bind fun _ => Plan.strict_pure _
  | renewed i text query =>
    apply (Plan.strict_call _).bind
    intro result
    by_cases hstore : s.storeResults = true
    · rw [if_pos hstore]
      exact (strict_store hbypass _ _ _ _).bind fun _ => Plan.strict_pure _
    · rw [if_neg hstore]
      exact Plan.strict_pure _

/-- A request, told by its preparation. -/
theorem request_eq (s : Service) (sends : Bool) (prompt api : String) :
    s.request sends prompt api = s.prepare prompt api >>= fun p =>
      if sends then s.deliver prompt p else pure (p.outcome prompt) := by
  cases sends with
  | true => exact execute_eq s prompt api
  | false => exact compileOnly_eq s prompt api

/-- **A request** is failed by every call that fails, and by what keeps its prompt from being
read. -/
theorem strict_request (hbypass : s.bypass = false) (sends : Bool) (prompt api : String) :
    (s.request sends prompt api).Strict fun f => s.intentOf prompt api = .error f := by
  rw [request_eq]
  apply (strict_prepare hbypass prompt api).bind
  intro p
  cases sends with
  | true => exact strict_deliver hbypass prompt p
  | false => exact Plan.strict_pure _

end Strict

/-! ### The calls on the memory -/

section Memory

variable {course : Nat → Moment} {stage : Stage} {records : Table (Record String)} {sends : Bool}

/-- How things stand when a request calls on the memory, if all calls before succeeded. Up to the
write of the query nothing was sent; before the write of the result there was one request, and the
record of the query is in place without a result. -/
inductive Stopped (s : Service) (sends : Bool) (prompt api : String) (course : Nat → Moment)
    (stage : Stage) (records : Table (Record String)) : Call → Stage → Prop where
  | fetch {x : Stage} (hnetwork : x.world.network = stage.world.network)
      (hrecords : x.Records records) :
    Stopped s sends prompt api course stage records (.fetch (promptKey prompt)) x
  | remove {x : Stage} {r : Record String} (hget : records.get? (promptKey prompt) = some r)
      (hexpired : r.isExpired s.cache.ttl.micros (course (stage.calls + 1)).clock = true)
      (hnetwork : x.world.network = stage.world.network) (hrecords : x.Records records) :
    Stopped s sends prompt api course stage records (.remove (promptKey prompt)) x
  | saveQuery {x : Stage} {i : Intent} {text query : String} {n : Nat}
      (hread : s.intentOf prompt api = .ok (i, text))
      (hquery : (i.formulate stage.world.stores).1.map (·.query) = .ok query)
      (hnetwork : x.world.network = stage.world.network)
      (hrecords : x.Records (s.looked course stage.calls records prompt)) :
    Stopped s sends prompt api course stage records
      (.save (recordAt prompt query text none (course n).clock)) x
  | saveResult {x : Stage} {i : Intent} {text query reply : String} {v : Variant} {n m : Nat}
      (hsends : sends = true) (hstore : s.storeResults = true)
      (hread : s.intentOf prompt api = .ok (i, text))
      (hquery : (i.formulate stage.world.stores).1.map (·.query) = .ok query)
      (hvariant : stage.world.stores.variants.get (some i.api) = .ok v)
      (hreply : v.outcome stage.world.network.next = .ok reply)
      (hsent : x.world.network.sent = stage.world.network.sent ++ [v.request (.string query)])
      (hrecords : x.Records ((s.looked course stage.calls records prompt).insert (promptKey prompt)
        (recordAt prompt query text none (course n).clock))) :
    Stopped s sends prompt api course stage records
      (.save (recordAt prompt query text (some reply) (course m).clock)) x

/-- A call on the memory is made when it should be. -/
def StopsAt (s : Service) (sends : Bool) (prompt api : String) (course : Nat → Moment)
    (stage : Stage) (records : Table (Record String)) (e : Call × Stage) : Prop :=
  e.1.operation?.isSome = true → s.Stopped sends prompt api course stage records e.1 e.2

theorem stopsAt_of_operation {c : Call} {x : Stage} (hc : c.operation? = none) :
    s.StopsAt sends prompt api course stage records (c, x) := by
  intro h
  rw [hc] at h
  cases h

/-- What follows a call that sends nothing and succeeds. -/
theorem after_call {c : Call} (hc : c.isSend = false) (hs : stage.Records records) {a : c.Answer}
    {after : Stage} (h : (Plan.call c).run (answerAt course) stage = (.ok a, after)) :
    after.Records (reflect course stage.calls records c)
      ∧ after.world.network = stage.world.network ∧ after.calls = stage.calls + 1 := by
  replace h : answerAt course c stage = (.ok a, after) := h
  obtain ⟨hrecords, hcalls⟩ := records_answerAt course c hs
  have hnetwork := network_answerAt course hc hs
  rw [h] at hrecords hcalls hnetwork
  exact ⟨hrecords, hnetwork, hcalls⟩

theorem found_of_fetch (hs : stage.Records records) {key : String}
    {found : Option (Record Json)} {after : Stage}
    (h : (Plan.call (.fetch key)).run (answerAt course) stage = (.ok found, after)) :
    found = (records.get? key).map (·.map .string) := by
  replace h : answerAt course (.fetch key) stage = (.ok found, after) := h
  obtain ⟨stage', hrun, -⟩ := answerAt_fetch course key hs
  rw [h] at hrun
  have hreply := congrArg Prod.fst hrun
  dsimp only at hreply
  split at hreply
  · cases hreply
  · exact Except.ok.inj hreply

theorem clock_of_now (hs : stage.Records records) {now : Timestamp} {after : Stage}
    (h : (Plan.call .now).run (answerAt course) stage = (.ok now, after)) :
    now = (course stage.calls).clock := by
  replace h : answerAt course .now stage = (.ok now, after) := h
  obtain ⟨stage', hrun, -⟩ := answerAt_now course hs
  rw [h] at hrun
  exact Except.ok.inj (congrArg Prod.fst hrun)

/-- A look for a prompt: its record is fetched first, and removed if it has reached its lifetime. -/
theorem stopped_get (hs : stage.Records records) :
    ∀ e ∈ (s.cache.get prompt).trace (answerAt course) stage,
      s.StopsAt sends prompt api course stage records e := by
  unfold PromptCache.get
  apply Plan.forall_trace_bind
  · exact Plan.forall_trace_call fun _ => .fetch rfl hs
  intro found stage₁ hfetch
  obtain ⟨hrecords₁, hnetwork₁, hcalls₁⟩ := after_call rfl hs hfetch
  have hfound := found_of_fetch hs hfetch
  cases found with
  | none => exact List.forall_mem_nil _
  | some record =>
    obtain ⟨r, hget, rfl⟩ := Option.map_eq_some_iff.1 hfound.symm
    apply Plan.forall_trace_bind
    · exact Plan.forall_trace_call (stopsAt_of_operation rfl)
    intro now stage₂ hnow
    obtain ⟨hrecords₂, hnetwork₂, -⟩ := after_call rfl hrecords₁ hnow
    have htime := clock_of_now hrecords₁ hnow
    rw [hcalls₁] at htime
    by_cases hexpired : (r.map Json.string).isExpired s.cache.ttl.micros now = true
    · rw [if_pos hexpired]
      have hexpired' : r.isExpired s.cache.ttl.micros (course (stage.calls + 1)).clock = true := by
        rw [← htime]
        exact hexpired
      apply Plan.forall_trace_map
      exact Plan.forall_trace_call fun _ =>
        .remove hget hexpired' (hnetwork₂.trans hnetwork₁) hrecords₂
    · rw [if_neg hexpired]
      exact List.forall_mem_nil _

/-- A write: the record is made at the time of the call before, and nothing is sent. -/
theorem stopped_store (hbypass : s.bypass = false) {records' : Table (Record String)} {x : Stage}
    (hx : x.Records records') {query text : String} {result : Option String}
    (hsave : ∀ y, y.Records records' → y.world.network = x.world.network →
      s.Stopped sends prompt api course stage records
        (.save (recordAt prompt query text result (course x.calls).clock)) y) :
    ∀ e ∈ (s.store prompt query text result).trace (answerAt course) x,
      s.StopsAt sends prompt api course stage records e := by
  rw [store_eq hbypass]
  apply Plan.forall_trace_map
  apply Plan.forall_trace_bind
  · exact Plan.forall_trace_call (stopsAt_of_operation rfl)
  intro createdAt y hnow
  obtain ⟨hrecords, hnetwork, -⟩ := after_call rfl hx hnow
  have hcreated := clock_of_now hx hnow
  subst hcreated
  exact Plan.forall_trace_map (Plan.forall_trace_call fun _ => hsave y hrecords hnetwork)

/-- A preparation: after the look, the query is formulated and its record written. -/
theorem stopped_prepare (hbypass : s.bypass = false) (hs : stage.Records records) :
    ∀ e ∈ (s.prepare prompt api).trace (answerAt course) stage,
      s.StopsAt sends prompt api course stage records e := by
  apply Plan.forall_trace_bind
  · exact List.forall_mem_nil _
  intro ⟨i, text⟩ stage₀ hread
  obtain ⟨hintent, rfl⟩ := Prod.mk.inj hread
  apply Plan.forall_trace_bind
  · rw [cached_eq hbypass]
    exact stopped_get hs
  intro found stage₁ hlook
  obtain ⟨stage₁', hrun₁, hrecords₁, houtside₁, -⟩ := run_look_tolerated hs s prompt
  rw [hlook] at hrun₁
  obtain ⟨-, rfl⟩ := Prod.mk.inj hrun₁
  cases found with
  | some record => exact List.forall_mem_nil _
  | none =>
    apply Plan.forall_trace_map
    apply Plan.forall_trace_bind
    · exact Plan.forall_trace_call (stopsAt_of_operation rfl)
    intro query stage₂ hformulate
    obtain ⟨hrecords₂, hnetwork₂, -⟩ := after_call rfl hrecords₁ hformulate
    obtain ⟨stage₂', hrun₂, -⟩ := answerAt_formulate course i hrecords₁
    replace hformulate : answerAt course (.formulate i) stage₁ = (.ok query, stage₂) := hformulate
    rw [hformulate, houtside₁.stores_eq] at hrun₂
    have hquery := (congrArg Prod.fst hrun₂).symm
    apply Plan.forall_trace_map
    apply stopped_store hbypass hrecords₂
    intro y hrecords hnetwork
    exact .saveQuery hintent hquery
      (hnetwork.trans (hnetwork₂.trans houtside₁.network_eq)) hrecords

/-- A query that is answered was sent by one request. -/
theorem dispatch_eq_ok {variants : Registry} {query : Json} {tag : Option String}
    {network : Network} {reply : String}
    (h : (dispatch variants query tag network).1 = .ok reply) :
    ∃ v, variants.get tag = .ok v ∧ v.outcome network.next = .ok reply
      ∧ (dispatch variants query tag network).2.sent = network.sent ++ [v.request query] := by
  unfold dispatch at h ⊢
  split at h
  · cases h
  · next v hget =>
    split at h
    · next hfinite =>
      rw [if_pos hfinite]
      exact ⟨v, hget, h, rfl⟩
    · cases h

/-- A delivery: the query is sent, and its result written if results are kept. -/
theorem stopped_deliver (hbypass : s.bypass = false) (hs : stage.Records records) {p : Prepared}
    {prepared : Stage}
    (hprepare : (s.prepare prompt api).run (answerAt course) stage = (.ok p, prepared)) :
    ∀ e ∈ (s.deliver prompt p).trace (answerAt course) prepared,
      s.StopsAt true prompt api course stage records e := by
  cases p with
  | found i record =>
    show ∀ e ∈ (s.reuse prompt i record).trace (answerAt course) prepared, _
    unfold reuse
    split
    · exact List.forall_mem_nil _
    · exact Plan.forall_trace_map (Plan.forall_trace_call (stopsAt_of_operation rfl))
  | renewed i text query =>
    obtain ⟨hread, hquery, hvariants, hnetwork, n, -, hstrict, hwritten⟩ :=
      renewed_of_prepare hs hprepare
    rw [hstrict hbypass, if_neg Bool.false_ne_true] at hwritten
    apply Plan.forall_trace_bind
    · exact Plan.forall_trace_call (stopsAt_of_operation rfl)
    intro reply stage₁ hsend
    obtain ⟨stage₁', hrun₁, hrecords₁, hnetwork₁⟩ :=
      answerAt_send course (.string query) i.api hwritten
    replace hsend : answerAt course (.send (.string query) i.api) prepared = (.ok reply, stage₁) :=
      hsend
    rw [hsend] at hrun₁
    obtain ⟨hreply, rfl⟩ := Prod.mk.inj hrun₁
    obtain ⟨v, hvariant, houtcome, hsent⟩ := dispatch_eq_ok hreply.symm
    rw [← hnetwork₁, hnetwork] at hsent
    rw [hnetwork] at houtcome
    rw [hvariants] at hvariant
    by_cases hstore : s.storeResults = true
    · rw [if_pos hstore]
      apply Plan.forall_trace_map
      apply stopped_store hbypass hrecords₁
      intro y hrecords hsame
      refine .saveResult rfl hstore hread hquery hvariant houtcome ?_ hrecords
      rw [hsame, hsent]
    · rw [if_neg hstore]
      exact List.forall_mem_nil _

/-- **All calls of a request on the memory** are made when they should be. -/
theorem stopped_request (hbypass : s.bypass = false) (hs : stage.Records records) :
    ∀ e ∈ (s.request sends prompt api).trace (answerAt course) stage,
      s.StopsAt sends prompt api course stage records e := by
  rw [request_eq]
  apply Plan.forall_trace_bind (stopped_prepare hbypass hs)
  intro p prepared hprepare
  cases sends with
  | true => exact stopped_deliver hbypass hs hprepare
  | false => exact List.forall_mem_nil _

/-! ### Outages -/

/-- A call that changes neither records nor network leaves things as they stood. -/
theorem Stopped.same {c : Call} {x y : Stage}
    (h : s.Stopped sends prompt api course stage records c x)
    (hrecords : ∀ records', x.Records records' → y.Records records')
    (hnetwork : y.world.network = x.world.network) :
    s.Stopped sends prompt api course stage records c y := by
  cases h with
  | fetch hnetwork' hrecords' => exact .fetch (hnetwork.trans hnetwork') (hrecords _ hrecords')
  | remove hget hexpired hnetwork' hrecords' =>
    exact .remove hget hexpired (hnetwork.trans hnetwork') (hrecords _ hrecords')
  | saveQuery hread hquery hnetwork' hrecords' =>
    exact .saveQuery hread hquery (hnetwork.trans hnetwork') (hrecords _ hrecords')
  | saveResult hsends hstore hread hquery hvariant hreply hsent hrecords' =>
    refine .saveResult hsends hstore hread hquery hvariant hreply ?_ (hrecords _ hrecords')
    rw [hnetwork, hsent]

/-- **A request during an outage** that is not tolerated. -/
structure Aborts (s : Service) (sends : Bool) (prompt api : String) (course : Nat → Moment)
    (stage : Stage) (records : Table (Record String)) : Prop where
  /-- A call on the memory that fails is the last call and fails the request. The records are those
  before the call, and all else is as it is left by the calls before. -/
  aborted : ∀ before c x rest,
    (s.request sends prompt api).trace (answerAt course) stage = before ++ (c, x) :: rest →
    c.failsAt course x.calls = true →
      let after := (s.request sends prompt api).run (answerAt course) stage
      rest = [] ∧ after.1 = .error Memory.isDown
        ∧ (∀ records', x.Records records' → after.2.Records records')
        ∧ s.Stopped sends prompt api course stage records c after.2
  /-- If no call on the memory fails, no outage is reported but one by the extractor. An extractor may
  fail in any way, and what it fails with is passed on as it is, so a failure that says the same as
  an outage is not excluded. -/
  spared : (∀ e ∈ (s.request sends prompt api).trace (answerAt course) stage,
      e.1.failsAt course e.2.calls = false) →
    ∀ reason, ((s.request sends prompt api).run (answerAt course) stage).1
        = .error (.cacheUnavailable reason) →
      s.extract prompt api = .error (.cacheUnavailable reason)

/-- **The first call on the memory that fails aborts a request** of a service that does not go on
without its cache, and no other request is failed by an outage. -/
theorem aborts_request (hbypass : s.bypass = false) (hs : stage.Records records)
    (course : Nat → Moment) (sends : Bool) (prompt api : String) :
    s.Aborts sends prompt api course stage records := by
  have hstrict := strict_request hbypass sends prompt api
  have hkeeps (c : Call) (x : Stage) (hx : ∃ records', x.Records records') :
      ∃ records', (answerAt course c x).2.Records records' := by
    obtain ⟨records', hrecords⟩ := hx
    exact ⟨_, (records_answerAt course c hrecords).1⟩
  have hmemory := Plan.forall_trace_of_invariant hkeeps (s.request sends prompt api) ⟨records, hs⟩
  constructor
  · intro before c x rest htrace hfails after
    have hmem : (c, x) ∈ (s.request sends prompt api).trace (answerAt course) stage := by
      rw [htrace]
      exact List.mem_append_right _ List.mem_cons_self
    have hoperation : c.operation?.isSome = true := Option.isSome_of_any hfails
    have hstopped := stopped_request hbypass hs _ hmem hoperation
    obtain ⟨records₁, hx⟩ := hmemory _ hmem
    obtain ⟨y, hanswer, -, houtside⟩ := answerAt_failed hx hfails
    obtain ⟨hnil, hrun⟩ := hstrict.abort htrace (congrArg Prod.fst hanswer)
    have hkept : ∀ records', x.Records records' → y.Records records' := by
      intro records' hx'
      obtain ⟨y', hanswer', hy', -⟩ := answerAt_failed hx' hfails
      rw [hanswer] at hanswer'
      obtain ⟨-, rfl⟩ := Prod.mk.inj hanswer'
      exact hy'
    rw [show after = _ from hrun, hanswer]
    exact ⟨hnil, rfl, hkept, hstopped.same hkept houtside.network_eq⟩
  · intro hup reason hreply
    rcases hstrict.error_cases hreply with hunread | ⟨e, he, hfailed⟩
    · exact extract_of_unread_outage hunread
    · obtain ⟨records₁, hx⟩ := hmemory e he
      have hfails := failsAt_of_outage hx hfailed
      rw [hup e he] at hfails
      cases hfails

/-- A request whose result cannot be written: by then it was sent. -/
theorem aborts_request_late :
    let s : Service := ⟨fun prompt _ => .ok prompt, ⟨.tenMinutes⟩, false, true⟩
    let prompt := "\x7b\"target\": \"Country\", \"identifier\": \"BR\", \"subEntity\": "
      ++ "\"Language\", \"limit\": 5, \"fields\": [\"name\"], \"api\": \"geo\"\x7d"
    let stage : Stage := ⟨Pipeline.geo.opening Moment.first.clock (.always default), 0⟩
    let course (n : Nat) : Moment := { Moment.first with down := if n = 6 then [.save] else [] }
    let trace := (s.request true prompt "geo").trace (answerAt course) stage
    let after := (s.request true prompt "geo").run (answerAt course) stage
    (∀ sends, s.Aborts sends prompt "geo" course stage .empty)
      ∧ trace.map (fun e => e.1.failsAt course e.2.calls)
        = [false, false, false, false, false, false, true]
      ∧ after.2.world.network.sent.length = 1 := by
  intro s prompt stage course trace after
  refine ⟨fun sends => aborts_request rfl ⟨[], rfl⟩ course sends prompt "geo", ?_⟩
  dsimp +zetaDelta only
  decide +kernel

end Memory

end Service

end ConceptQuery
