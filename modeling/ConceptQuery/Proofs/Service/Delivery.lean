import ConceptQuery.Proofs.Cache.History
import ConceptQuery.Proofs.Service.Results
import ConceptQuery.Proofs.Service.Trace

/-!
# Requests are prepared, then delivered

Both kinds of requests begin alike: the intent is read, and its query is looked up or formulated
anew and cached. One kind ends there; the other goes on to the answer.

* `Prepared`, `Service.prepare` — what a request has in hand before anything is sent;
* `compileOnly_eq`, `execute_eq` — both kinds of requests, told by their preparation;
* `Service.Renewed`, `renewed_of_prepare` — what is known of a query that was formulated anew;
* `ResultKept`, `resultKept_of_deliver` — what a delivery changes in the records;
* `Service.Splits`, `splits_execute` — both kinds of requests, side by side.
-/

namespace ConceptQuery

open Cache Http

/-- What a request has in hand before anything is sent. -/
inductive Prepared where
  /-- A record that was found. -/
  | found (intent : Intent) (record : Record Json)
  /-- A query that was formulated anew. -/
  | renewed (intent : Intent) (text query : String)

/-- What a request comes to that asks for no more than its query. -/
def Prepared.outcome (prompt : String) : Prepared → Outcome
  | .found i record => ⟨prompt, i, record.query, true, none⟩
  | .renewed i _ query => ⟨prompt, i, .string query, false, none⟩

namespace Service

/-- The part of a request that comes before anything is sent. -/
def prepare (s : Service) (prompt api : String) : Plan Prepared := do
  let (intent, text) ← s.read prompt api
  match ← s.cached prompt with
  | some record => return .found intent record
  | none =>
    let query ← s.compileFresh prompt intent text
    return .renewed intent text query

/-- The part of a request that comes to an answer. -/
def deliver (s : Service) (prompt : String) : Prepared → Plan Outcome
  | .found i record => s.reuse prompt i record
  | .renewed i text query => do
    let result ← Plan.call (.send (.string query) i.api)
    if s.storeResults then
      s.store prompt query text (some result)
    return ⟨prompt, i, .string query, false, some (.string result)⟩

variable {s : Service} {prompt api : String}

theorem compileOnly_eq (s : Service) (prompt api : String) :
    s.compileOnly prompt api = do return (← s.prepare prompt api).outcome prompt := by
  simp only [compileOnly, prepare, bind_assoc]
  congr 1
  funext it
  congr 1
  funext found
  cases found with
  | some record => rfl
  | none => simp only [bind_assoc, pure_bind, Prepared.outcome]

theorem execute_eq (s : Service) (prompt api : String) :
    s.execute prompt api = s.prepare prompt api >>= s.deliver prompt := by
  simp only [execute, prepare, bind_assoc]
  congr 1
  funext it
  congr 1
  funext found
  cases found with
  | some record => rfl
  | none => simp only [bind_assoc, pure_bind, deliver]

/-- Without results kept, delivering is sending the query. -/
theorem deliver_eq (hstore : s.storeResults = false) (p : Prepared) : s.deliver prompt p = do
    let result ← Plan.call (.send (p.outcome prompt).query (p.outcome prompt).intent.api)
    return { p.outcome prompt with result := some (.string result) } := by
  cases p with
  | found i record =>
    show s.reuse prompt i record = _
    rw [reuse, hstore]
    cases record.result <;> rfl
  | renewed i text query =>
    rw [deliver, hstore]
    rfl

/-! ### Preparations that are run -/

section Runs

variable {σ : Type} {answer : (c : Call) → σ → Except Failure c.Answer × σ} {x x' : σ}

theorem run_compileOnly (s : Service) (prompt api : String) (x : σ) :
    (s.compileOnly prompt api).run answer x
      = (((s.prepare prompt api).run answer x).1.map (Prepared.outcome prompt),
        ((s.prepare prompt api).run answer x).2) := by
  rw [compileOnly_eq, Plan.run_map]

/-- A request for a query ends well if its preparation does. -/
theorem run_compileOnly_eq_ok {o : Outcome} :
    (s.compileOnly prompt api).run answer x = (.ok o, x')
      ↔ ∃ p, (s.prepare prompt api).run answer x = (.ok p, x') ∧ p.outcome prompt = o := by
  rw [run_compileOnly]
  rcases (s.prepare prompt api).run answer x with ⟨f | p, x₁⟩ <;> simp [Except.map]
  constructor <;> simp +contextual

/-- A request for a query fails if its preparation does. -/
theorem run_compileOnly_eq_error {f : Failure} :
    (s.compileOnly prompt api).run answer x = (.error f, x')
      ↔ (s.prepare prompt api).run answer x = (.error f, x') := by
  rw [run_compileOnly]
  rcases (s.prepare prompt api).run answer x with ⟨f | p, x₁⟩ <;> simp [Except.map]

/-- What is delivered is what was prepared, with a result. -/
theorem outcome_of_deliver {p : Prepared} {o : Outcome}
    (h : (s.deliver prompt p).run answer x = (.ok o, x')) :
    o = { p.outcome prompt with result := o.result } := by
  cases p with
  | found i record =>
    replace h : (s.reuse prompt i record).run answer x = (.ok o, x') := h
    unfold reuse at h
    split at h
    · cases h
      rfl
    · obtain ⟨result, x₁, -, hreturn⟩ := Plan.run_bind_eq_ok.1 h
      cases hreturn
      rfl
  | renewed i text query =>
    obtain ⟨result, x₁, -, h⟩ := Plan.run_bind_eq_ok.1 h
    by_cases hstore : s.storeResults = true
    · rw [if_pos hstore] at h
      obtain ⟨_, x₂, -, hreturn⟩ := Plan.run_bind_eq_ok.1 h
      cases hreturn
      rfl
    · rw [if_neg hstore] at h
      cases h
      rfl

end Runs

/-! ### Preparations over a memory -/

section Memory

variable {course : Nat → Moment} {stage after : Stage} {records : Table (Record String)}
  {i : Intent} {text query : String}

/-- What is known once a query was formulated anew: the intent is that of the prompt, the query is
that of the intent, and the record of both was written without a result, unless an outage kept it
from being written. -/
structure Renewed (s : Service) (prompt api : String) (course : Nat → Moment) (stage : Stage)
    (records : Table (Record String)) (i : Intent) (text query : String) (after : Stage) : Prop where
  read : s.intentOf prompt api = .ok (i, text)
  formulated : (i.formulate stage.world.stores).1.map (·.query) = .ok query
  variants_eq : after.world.stores.variants = stage.world.stores.variants
  network_eq : after.world.network = stage.world.network
  written : ∃ n, after.calls = n + 2 ∧ (s.bypass = false → fails course (n + 1) .save = false)
    ∧ after.Records (if fails course (n + 1) .save then s.looked course stage.calls records prompt
      else (s.looked course stage.calls records prompt).insert (promptKey prompt)
        (recordAt prompt query text none (course n).clock))

theorem eq_false_of_tolerated {failed bypass : Bool} {α : Type} {a b : α}
    (h : (if (failed && !bypass) = true then .error Memory.isDown else .ok a : Except Failure α)
      = .ok b) : (bypass = false → failed = false) ∧ a = b := by
  cases failed <;> cases bypass <;> cases h <;> simp

theorem run_store_ok (hs : stage.Records records) {result : Option String}
    (h : (s.store prompt query text result).run (answerAt course) stage = (.ok (), after)) :
    after.Records (if fails course (stage.calls + 1) .save then records
        else records.insert (promptKey prompt)
          (recordAt prompt query text result (course stage.calls).clock))
      ∧ stage.SameOutside after ∧ after.calls = stage.calls + 2
      ∧ (s.bypass = false → fails course (stage.calls + 1) .save = false) := by
  obtain ⟨stage', hrun, hrecords, houtside, hcalls⟩ :=
    run_store_tolerated hs s prompt query text result
  rw [h] at hrun
  obtain ⟨hreply, rfl⟩ := Prod.mk.inj hrun
  exact ⟨hrecords, houtside, hcalls, (eq_false_of_tolerated hreply.symm).1⟩

theorem renewed_of_prepare (hs : stage.Records records)
    (h : (s.prepare prompt api).run (answerAt course) stage
      = (.ok (.renewed i text query), after)) :
    s.Renewed prompt api course stage records i text query after := by
  obtain ⟨⟨i', text'⟩, stage₀, hread, h⟩ := Plan.run_bind_eq_ok.1 h
  obtain ⟨hintent, rfl⟩ := Prod.mk.inj hread
  obtain ⟨found, stage₁, hlook, h⟩ := Plan.run_bind_eq_ok.1 h
  obtain ⟨stage₁', hrun₁, hrecords₁, houtside₁, -⟩ := run_look_tolerated hs s prompt
  rw [hlook] at hrun₁
  obtain ⟨-, rfl⟩ := Prod.mk.inj hrun₁
  cases found with
  | some record => cases h
  | none =>
    obtain ⟨query', stage₄, hfresh, hreturn⟩ := Plan.run_bind_eq_ok.1 h
    cases hreturn
    obtain ⟨query', stage₂, hformulate, hfresh⟩ := Plan.run_bind_eq_ok.1 hfresh
    obtain ⟨_, stage₃, hstore, hreturn⟩ := Plan.run_bind_eq_ok.1 hfresh
    cases hreturn
    obtain ⟨stage₂', hrun₂, hrecords₂, hstores₂, hnetwork₂⟩ :=
      answerAt_formulate course i hrecords₁
    replace hformulate : answerAt course (.formulate i) stage₁ = (.ok query, stage₂) := hformulate
    rw [hformulate] at hrun₂
    obtain ⟨hquery, rfl⟩ := Prod.mk.inj hrun₂
    rw [houtside₁.stores_eq] at hquery hstores₂
    obtain ⟨hrecords₃, houtside₃, hcalls₃, hstrict₃⟩ := run_store_ok hrecords₂ hstore
    refine ⟨hintent, hquery.symm, ?_, ?_, stage₂.calls, hcalls₃, hstrict₃, hrecords₃⟩
    · rw [houtside₃.stores_eq, hstores₂, variants_formulate]
    · rw [houtside₃.network_eq, hnetwork₂, houtside₁.network_eq]

/-- Records that differ at most in that of a prompt: after a number of calls, a later one writes the
query and the intent text of the request again, with the result besides. The record was there
without the result, made no later, unless it was the last of these calls that could not write it. -/
inductive ResultKept (s : Service) (prompt api : String) (course : Nat → Moment) (calls : Nat)
    (o : Outcome) (records : Table (Record String)) : Table (Record String) → Prop where
  | same : ResultKept s prompt api course calls o records records
  | kept {query text reply : String} {n : Nat} (hresult : o.result = some (.string reply))
      (hquery : o.query = .string query) (hintent : s.intentOf prompt api = .ok (o.intent, text))
      (hn : calls ≤ n) (hsaved : fails course (n + 1) .save = false)
      (hrecord : (∃ made, records.get? (promptKey prompt) = some (recordAt prompt query text none made)
          ∧ (Forward course → made.instant ≤ (course n).clock.instant))
        ∨ ∃ m, calls = m + 1 ∧ fails course m .save = true) :
    ResultKept s prompt api course calls o records (records.insert (promptKey prompt)
      (recordAt prompt query text (some reply) (course n).clock))

/-- What is delivered leaves the records as they are, or writes that of the prompt again. -/
theorem records_deliver {p : Prepared} {o : Outcome} (hs : stage.Records records)
    (h : (s.deliver prompt p).run (answerAt course) stage = (.ok o, after)) :
    ∃ records', after.Records records' ∧ after.world.stores = stage.world.stores
      ∧ (records' = records ∨ ∃ i text query reply n, p = .renewed i text query
        ∧ o.result = some (.string reply) ∧ stage.calls ≤ n ∧ fails course (n + 1) .save = false
        ∧ records' = records.insert (promptKey prompt)
          (recordAt prompt query text (some reply) (course n).clock)) := by
  have hsent {query : Json} {api reply : String} {stage₁ : Stage}
      (hsend : answerAt course (.send query api) stage = (.ok reply, stage₁)) :
      stage₁.Records records ∧ stage₁.world.stores = stage.world.stores
        ∧ stage₁.calls = stage.calls + 1 := by
    obtain ⟨stage₁', hrun, hrecords, -⟩ := answerAt_send course query api hs
    have hcalls := (records_answerAt course (.send query api) hs).2
    have hstores : (answerAt course (.send query api) stage).2.world.stores
        = stage.world.stores := rfl
    rw [hsend] at hrun hcalls hstores
    obtain ⟨-, rfl⟩ := Prod.mk.inj hrun
    exact ⟨hrecords, hstores, hcalls⟩
  cases p with
  | found i record =>
    replace h : (s.reuse prompt i record).run (answerAt course) stage = (.ok o, after) := h
    unfold reuse at h
    split at h
    · cases h
      exact ⟨records, hs, rfl, .inl rfl⟩
    · obtain ⟨reply, stage₁, hsend, hreturn⟩ := Plan.run_bind_eq_ok.1 h
      cases hreturn
      obtain ⟨hrecords₁, hstores₁, -⟩ := hsent hsend
      exact ⟨records, hrecords₁, hstores₁, .inl rfl⟩
  | renewed i text query =>
    obtain ⟨reply, stage₁, hsend, h⟩ := Plan.run_bind_eq_ok.1 h
    obtain ⟨hrecords₁, hstores₁, hcalls₁⟩ := hsent hsend
    by_cases hstore : s.storeResults = true
    · rw [if_pos hstore] at h
      obtain ⟨_, stage₂, hwrite, hreturn⟩ := Plan.run_bind_eq_ok.1 h
      cases hreturn
      obtain ⟨hrecords₂, houtside₂, -⟩ := run_store_ok hrecords₁ hwrite
      refine ⟨_, hrecords₂, houtside₂.stores_eq.trans hstores₁, ?_⟩
      by_cases hfails : fails course (stage₁.calls + 1) .save = true
      · exact .inl (if_pos hfails)
      · refine .inr ⟨i, text, query, reply, stage₁.calls, rfl, rfl, by omega, ?_, if_neg hfails⟩
        exact Bool.eq_false_iff.2 hfails
    · rw [if_neg hstore] at h
      cases h
      exact ⟨records, hrecords₁, hstores₁, .inl rfl⟩

/-- Over a memory, delivering keeps at most the result. The cases are what was prepared. -/
theorem resultKept_of_deliver {p : Prepared} {o : Outcome} {prepared : Stage}
    (hs : stage.Records records)
    (hprepare : (s.prepare prompt api).run (answerAt course) stage = (.ok p, prepared))
    (hdeliver : (s.deliver prompt p).run (answerAt course) prepared = (.ok o, after)) :
    ∃ records₁ records₂, prepared.Records records₁ ∧ after.Records records₂
      ∧ after.world.stores = prepared.world.stores
      ∧ s.ResultKept prompt api course prepared.calls o records₁ records₂ := by
  have houtcome := outcome_of_deliver hdeliver
  cases p with
  | found i record =>
    have hprepared := records_run (s.prepare prompt api) course hs
    rw [hprepare] at hprepared
    obtain ⟨records₂, hrecords₂, hstores, hsame | ⟨_, _, _, _, _, hrenewed, -⟩⟩ :=
      records_deliver hprepared hdeliver
    · rw [hsame] at hrecords₂
      exact ⟨_, _, hprepared, hrecords₂, hstores, .same⟩
    · cases hrenewed
  | renewed i text query =>
    have hrenewal := renewed_of_prepare hs hprepare
    obtain ⟨n, hn, -, hprepared⟩ := hrenewal.written
    obtain ⟨records₂, hrecords₂, hstores, hsame | ⟨_, _, _, reply, m, hrenewed, hresult, hm, hsaved,
      hkept⟩⟩ := records_deliver hprepared hdeliver
    · rw [hsame] at hrecords₂
      exact ⟨_, _, hprepared, hrecords₂, hstores, .same⟩
    · cases hrenewed
      rw [hkept] at hrecords₂
      have hintent : s.intentOf prompt api = .ok (o.intent, text) := by
        rw [houtcome]
        exact hrenewal.read
      refine ⟨_, _, hprepared, hrecords₂, hstores,
        .kept hresult (by rw [houtcome]; rfl) hintent hm hsaved ?_⟩
      by_cases hfails : fails course (n + 1) .save = true
      · exact .inr ⟨n + 1, hn, hfails⟩
      · rw [if_neg hfails]
        exact .inl ⟨_, Table.get?_insert_self _ _ _, fun hclock => hclock n m (by omega)⟩

/-! ### Requests that send nothing -/

/-- A call that sends nothing leaves the network as it is, if the cache is a memory. -/
theorem network_answerAt (course : Nat → Moment) {c : Call} (hc : c.isSend = false)
    (hs : stage.Records records) :
    (answerAt course c stage).2.world.network = stage.world.network := by
  have houtside (hcache : cacheCalls.allows c) := (answerAt_outside course hcache hs).2.network_eq
  cases c with
  | send query api => cases hc
  | formulate i => rfl
  | _ => exact houtside trivial

/-- A plan that sends nothing leaves the network as it is, if the cache is a memory. -/
theorem network_run {α : Type} {p : Plan α} (hp : p.Within (quietly false))
    (hs : stage.Records records) :
    (p.run (answerAt course) stage).2.world.network = stage.world.network := by
  have hanswer (c : Call) (x : Stage) (hc : (quietly false).allows c)
      (hx : (∃ records, x.Records records) ∧ x.world.network = stage.world.network) :
      (quietly false).promises c (answerAt course c x).1
        ∧ (∃ records, (answerAt course c x).2.Records records)
        ∧ (answerAt course c x).2.world.network = stage.world.network := by
    obtain ⟨⟨records, hrecords⟩, hnetwork⟩ := hx
    have hsame := network_answerAt course (isSend_of_quietly hc) hrecords
    exact ⟨trivial, ⟨_, (records_answerAt course c hrecords).1⟩, hsame.trans hnetwork⟩
  exact (Plan.Meets.run hanswer hp ⟨⟨records, hs⟩, rfl⟩).2.2

end Memory

theorem quietly_compileOnly (s : Service) (prompt api : String) :
    (s.compileOnly prompt api).Within (quietly false) :=
  within_compileOnly trivial trivial trivial (fun _ => trivial) fun _ _ _ _ hnone => hnone

/-! ### Both kinds of requests -/

/-- **A prompt that is run from end to end** is one that is run up to its query, and then sent. -/
structure Splits (s : Service) (prompt api : String) (course : Nat → Moment) (stage : Stage) :
    Prop where
  /-- Up to the query nothing is sent. -/
  quiet : ∀ e ∈ (s.compileOnly prompt api).trace (answerAt course) stage, e.1.isSend = false
  silent : ∀ records, stage.Records records →
    ((s.compileOnly prompt api).run (answerAt course) stage).2.world.network = stage.world.network
  /-- What fails up to the query fails from end to end, after the same calls and in the same
  surroundings. -/
  failed : ∀ f after, (s.compileOnly prompt api).run (answerAt course) stage = (.error f, after) →
    (s.execute prompt api).run (answerAt course) stage = (.error f, after)
      ∧ (s.execute prompt api).trace (answerAt course) stage
        = (s.compileOnly prompt api).trace (answerAt course) stage
  /-- Without results kept, a prompt is run up to its query, which is then sent to the API of its
  intent. -/
  one_plan : s.storeResults = false → s.execute prompt api = do
    let o ← s.compileOnly prompt api
    let result ← Plan.call (.send o.query o.intent.api)
    return { o with result := some (.string result) }
  /-- What succeeds up to the query then ends as the exchange does, which is all that comes about
  besides. -/
  sent : s.storeResults = false → ∀ o after,
    (s.compileOnly prompt api).run (answerAt course) stage = (.ok o, after) →
      let now := after.world.at (course after.calls)
      let exchange := dispatch now.stores.variants o.query (some o.intent.api) now.network
      (s.execute prompt api).run (answerAt course) stage
        = (exchange.1.map fun text => { o with result := some (.string text) },
          ⟨{ now with network := exchange.2 }, after.calls + 1⟩)
  /-- The exchange leaves the records and the mapping stores alone. -/
  left : s.storeResults = false → ∀ o after,
    (s.compileOnly prompt api).run (answerAt course) stage = (.ok o, after) →
      let after' := ((s.execute prompt api).run (answerAt course) stage).2
      after'.world.stores = after.world.stores
        ∧ ∀ records, after.Records records → after'.Records records
  /-- If results are kept, what succeeds both ways agrees on all but the result, and so do the
  records. -/
  kept : s.storeResults = true → ∀ o after o' after',
    (s.compileOnly prompt api).run (answerAt course) stage = (.ok o, after) →
    (s.execute prompt api).run (answerAt course) stage = (.ok o', after') →
      o' = { o with result := o'.result } ∧ ∀ records, stage.Records records →
        ∃ records₁ records₂, after.Records records₁ ∧ after'.Records records₂
          ∧ after'.world.stores = after.world.stores
          ∧ s.ResultKept prompt api course after.calls o' records₁ records₂

theorem execute_eq_send (hstore : s.storeResults = false) (prompt api : String) :
    s.execute prompt api = do
      let o ← s.compileOnly prompt api
      let result ← Plan.call (.send o.query o.intent.api)
      return { o with result := some (.string result) } := by
  rw [execute_eq, compileOnly_eq, bind_assoc]
  congr 1
  funext p
  rw [pure_bind, deliver_eq hstore]

/-- A query that is sent after all else is answered as things stand by then. -/
theorem run_execute_send (hstore : s.storeResults = false) {course : Nat → Moment}
    {stage after : Stage} {o : Outcome}
    (hcompile : (s.compileOnly prompt api).run (answerAt course) stage = (.ok o, after)) :
    let now := after.world.at (course after.calls)
    let exchange := dispatch now.stores.variants o.query (some o.intent.api) now.network
    (s.execute prompt api).run (answerAt course) stage
      = (exchange.1.map fun text => { o with result := some (.string text) },
        ⟨{ now with network := exchange.2 }, after.calls + 1⟩) := by
  rw [execute_eq_send hstore, Plan.run_bind_ok hcompile, Plan.run_map]
  rfl

/-- **Both kinds of requests stay in step**, whatever the surroundings are. -/
theorem splits_execute (s : Service) (prompt api : String) (course : Nat → Moment)
    (stage : Stage) : s.Splits prompt api course stage where
  quiet := by
    intro e he
    exact isSend_of_quietly
      ((quietly_compileOnly s prompt api).forall_trace (fun _ _ => trivial) e he)
  silent := by
    intro records hs
    exact network_run (quietly_compileOnly s prompt api) hs
  failed := by
    intro f after hcompile
    have hprepare := run_compileOnly_eq_error.1 hcompile
    rw [execute_eq, compileOnly_eq, Plan.trace_map]
    exact ⟨Plan.run_bind_error hprepare, Plan.trace_bind_error hprepare⟩
  one_plan := by
    intro hstore
    exact execute_eq_send hstore prompt api
  sent := by
    intro hstore o after hcompile
    exact run_execute_send hstore hcompile
  left := by
    intro hstore o after hcompile
    rw [run_execute_send hstore hcompile]
    refine ⟨rfl, fun records hs => ?_⟩
    obtain ⟨down, hdown⟩ := hs
    refine ⟨(course after.calls).down, ?_⟩
    show (after.world.at (course after.calls)).backend = _
    rw [World.at, hdown]
  kept := by
    intro _ o after o' after' hcompile hexecute
    obtain ⟨p, hprepare, rfl⟩ := run_compileOnly_eq_ok.1 hcompile
    rw [execute_eq, Plan.run_bind_ok hprepare] at hexecute
    refine ⟨outcome_of_deliver hexecute, fun records hs => ?_⟩
    exact resultKept_of_deliver hs hprepare hexecute

end Service

end ConceptQuery
