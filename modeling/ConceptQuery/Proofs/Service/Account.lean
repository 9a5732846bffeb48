import ConceptQuery.Proofs.Service.Request

/-!
# Plans and the calls that they made

A contract says which calls a plan may make at all. Here a plan is told together with the calls that
it made so far: which call comes after which others, and what a result has to do with the answers
that led to it.

* `Answered` — a call that was made, with its answer;
* `Plan.Tells` — the calls of a plan, each by those before it, and its result by all of them;
* `Tells.bind`, `Tells.bind_ok`, `Tells.recover`, `Tells.run` — plans that are put together, and
  that are run;
* `Tells.and`, `Within.tells` — two accounts of a plan, and one by a contract;
* `Looks`, `Looked`, `tells_get` — a look into the cache;
* `tells_put` — a record that is written;
* `Service.Sourced`, `Service.Composes` — where queries come from, and what records are made of;
* `Service.Asks`, `Service.Accounts`, `tells_request` — a request, from the look for its prompt to
  its outcome;
* `Service.Operation.Asks`, `Service.Operation.Ends`, `tells_operation` — all operations of a
  service;
* `Service.Operation.asked?`, `Ends.outcome`, `Ends.found` — which of them are requests, and what a
  reply says of its operation.
-/

namespace ConceptQuery

open Cache

/-- A call that was made, as one of the calls of a run, with its answer. -/
structure Answered where
  number : Nat
  call : Call
  answer : Except Failure call.Answer

namespace Plan

variable {α β σ : Type} {asks asks' : List Answered → Call → Prop}
  {ends ends' : List Answered → Except Failure α → Prop}
  {ends₂ : List Answered → Except Failure β → Prop} {p : Plan α} {past : List Answered}

/-- After the calls of the past, a plan makes only calls that follow them, and ends in a result that
they lead to. -/
def Tells (asks : List Answered → Call → Prop) (ends : List Answered → Except Failure α → Prop) :
    Plan α → List Answered → Prop
  | .done result, past => ends past result
  | .ask c next, past =>
    asks past c ∧ ∀ n answer, (next answer).Tells asks ends (past ++ [⟨n, c, answer⟩])

theorem tells_call {c : Call} {ends : List Answered → Except Failure c.Answer → Prop}
    (hasks : asks past c) (hends : ∀ n answer, ends (past ++ [⟨n, c, answer⟩]) answer) :
    (call c).Tells asks ends past :=
  ⟨hasks, hends⟩

theorem Tells.mono (h : p.Tells asks ends past) (hasks : ∀ past c, asks past c → asks' past c)
    (hends : ∀ past result, ends past result → ends' past result) : p.Tells asks' ends' past := by
  induction p generalizing past with
  | done result => exact hends past result h
  | ask c next ih => exact ⟨hasks past c h.1, fun n answer => ih answer (h.2 n answer)⟩

/-- The past is never told otherwise: later calls come after it. -/
theorem Tells.frame (h : p.Tells asks ends past) :
    p.Tells asks (fun past' result => past <+: past' ∧ ends past' result) past := by
  induction p generalizing past with
  | done result => exact ⟨List.prefix_rfl, h⟩
  | ask c next ih =>
    refine ⟨h.1, fun n answer => (ih answer (h.2 n answer)).mono (fun _ _ hasks => hasks) ?_⟩
    rintro past' result ⟨hpre, hends⟩
    exact ⟨(List.prefix_append past _).trans hpre, hends⟩

theorem Tells.thenResult {f : Except Failure α → Plan β} (h : p.Tells asks ends past)
    (hf : ∀ past' result, ends past' result → (f result).Tells asks ends₂ past') :
    (p.thenResult f).Tells asks ends₂ past := by
  induction p generalizing past with
  | done result => exact hf past result h
  | ask c next ih => exact ⟨h.1, fun n answer => ih answer (h.2 n answer)⟩

/-- **One plan after another**: what follows a success is told with all calls that led to it, and
failures are failures of the whole. -/
theorem Tells.bind {f : α → Plan β} (h : p.Tells asks ends past)
    (hok : ∀ past' a, past <+: past' → ends past' (.ok a) → (f a).Tells asks ends₂ past')
    (herror : ∀ past' e, past <+: past' → ends past' (.error e) → ends₂ past' (.error e)) :
    (p >>= f).Tells asks ends₂ past := by
  apply h.frame.thenResult
  rintro past' result ⟨hpre, hends⟩
  cases result with
  | ok a => exact hok past' a hpre hends
  | error e => exact herror past' e hpre hends

/-- One plan after another, of which only a success has to be told: a failure of the first one is a
failure of both. -/
theorem Tells.bind_ok {f : α → Plan β} {returns : List Answered → β → Prop}
    (h : p.Tells asks ends past)
    (hok : ∀ past' a, past <+: past' → ends past' (.ok a) →
      (f a).Tells asks (fun past₂ result => ∀ b, result = .ok b → returns past₂ b) past') :
    (p >>= f).Tells asks (fun past₂ result => ∀ b, result = .ok b → returns past₂ b) past := by
  apply h.bind hok
  intro past' e _ _ b hb
  cases hb

theorem Tells.recover {care : Failure → Plan α} (h : p.Tells asks ends past)
    (hok : ∀ past' a, ends past' (.ok a) → ends' past' (.ok a))
    (herror : ∀ past' e, ends past' (.error e) → (care e).Tells asks ends' past') :
    (p.recover care).Tells asks ends' past := by
  apply h.thenResult
  intro past' result hends
  cases result with
  | ok a => exact hok past' a hends
  | error e => exact herror past' e hends

/-- Two accounts of one plan are one account. -/
theorem Tells.and (h : p.Tells asks ends past) (h' : p.Tells asks' ends' past) :
    p.Tells (fun past c => asks past c ∧ asks' past c)
      (fun past result => ends past result ∧ ends' past result) past := by
  induction p generalizing past with
  | done result => exact ⟨h, h'⟩
  | ask c next ih => exact ⟨⟨h.1, h'.1⟩, fun n answer => ih answer (h.2 n answer) (h'.2 n answer)⟩

/-- **A plan that makes only allowed calls** adds nothing else to the past, if no answers are relied
on. -/
theorem Within.tells {k : Contract} (hp : p.Within k) (hpromises : ∀ c answer, k.promises c answer)
    (hasks : ∀ past c, k.allows c → asks past c) (past : List Answered) :
    p.Tells asks (fun past' _ => ∃ more, past' = past ++ more ∧ ∀ a ∈ more, k.allows a.call)
      past := by
  induction p generalizing past with
  | done result => exact ⟨[], (List.append_nil past).symm, List.forall_mem_nil _⟩
  | ask c next ih =>
    refine ⟨hasks past c hp.1, fun n answer => ?_⟩
    have hrest := ih answer (hp.2 answer (hpromises c answer)) (past ++ [⟨n, c, answer⟩])
    refine hrest.mono (fun _ _ hasked => hasked) ?_
    rintro _ _ ⟨more, rfl, hmore⟩
    refine ⟨(⟨n, c, answer⟩ : Answered) :: more, List.append_assoc _ _ _, ?_⟩
    exact List.forall_mem_cons.2 ⟨hp.1, hmore⟩

/-- A plan of which the result is shown in some form. -/
theorem Tells.map (f : α → β) (h : p.Tells asks ends past) :
    (do return f (← p) : Plan β).Tells asks
      (fun past' reply => ∃ result, ends past' result ∧ reply = result.map f) past := by
  apply h.bind
  · intro past' a _ ha
    exact ⟨.ok a, ha, rfl⟩
  · intro past' e _ he
    exact ⟨.error e, he, rfl⟩

/-- **A plan that is run** ends in a result that its calls lead to. What holds of the calls so far
and of the surroundings holds to the end, if every call keeps it. -/
theorem Tells.run {answer : (c : Call) → σ → Except Failure c.Answer × σ} {number : σ → Nat}
    {Inv : List Answered → σ → Prop}
    (hanswer : ∀ past c s, asks past c → Inv past s →
      Inv (past ++ [⟨number s, c, (answer c s).1⟩]) (answer c s).2)
    (h : p.Tells asks ends past) {s : σ} (hs : Inv past s) :
    ∃ past', ends past' (p.run answer s).1 ∧ Inv past' (p.run answer s).2 := by
  induction p generalizing past s with
  | done result => exact ⟨past, h, hs⟩
  | ask c next ih => exact ih _ (h.2 _ _) (hanswer past c s h.1 hs)

end Plan

open Plan

/-! ### The cache -/

/-- The calls of a look for a key: the record is fetched, the time is asked for if there is one, and
the record is dropped if it has reached its lifetime by then. -/
inductive Looks (ttl : Int) (key : String) : List Answered → Call → Prop where
  | fetch : Looks ttl key [] (.fetch key)
  | now {n : Nat} {r : Record Json} : Looks ttl key [⟨n, .fetch key, .ok (some r)⟩] .now
  | remove {n m : Nat} {r : Record Json} {t : Timestamp} (h : r.isExpired ttl t = true) :
    Looks ttl key [⟨n, .fetch key, .ok (some r)⟩, ⟨m, .now, .ok t⟩] (.remove key)

/-- What a look for a key comes to by its calls. -/
inductive Looked (ttl : Int) (key : String) :
    List Answered → Except Failure (Option (Record Json)) → Prop where
  | down {n : Nat} {f : Failure} : Looked ttl key [⟨n, .fetch key, .error f⟩] (.error f)
  | missing {n : Nat} : Looked ttl key [⟨n, .fetch key, .ok none⟩] (.ok none)
  | undated {n m : Nat} {r : Record Json} {f : Failure} :
    Looked ttl key [⟨n, .fetch key, .ok (some r)⟩, ⟨m, .now, .error f⟩] (.error f)
  | live {n m : Nat} {r : Record Json} {t : Timestamp} (h : r.isExpired ttl t = false) :
    Looked ttl key [⟨n, .fetch key, .ok (some r)⟩, ⟨m, .now, .ok t⟩] (.ok (some r))
  | stuck {n m l : Nat} {r : Record Json} {t : Timestamp} {f : Failure}
      (h : r.isExpired ttl t = true) :
    Looked ttl key
      [⟨n, .fetch key, .ok (some r)⟩, ⟨m, .now, .ok t⟩, ⟨l, .remove key, .error f⟩] (.error f)
  | expired {n m l : Nat} {r : Record Json} {t : Timestamp} (h : r.isExpired ttl t = true) :
    Looked ttl key
      [⟨n, .fetch key, .ok (some r)⟩, ⟨m, .now, .ok t⟩, ⟨l, .remove key, .ok ()⟩] (.ok none)

/-- What is dropped by a look was found by it, at the end of its lifetime. -/
theorem Looks.of_remove {ttl : Int} {key key' : String} {past : List Answered}
    (h : Looks ttl key past (.remove key')) : key = key' ∧ ∃ n m r t,
      past = [⟨n, .fetch key', .ok (some r)⟩, ⟨m, .now, .ok t⟩] ∧ r.isExpired ttl t = true := by
  cases h with
  | remove hexpired => exact ⟨rfl, _, _, _, _, rfl, hexpired⟩

/-- **A look into the cache** is told by its calls. -/
theorem tells_get (c : PromptCache) (prompt : String) :
    (c.get prompt).Tells (Looks c.ttl.micros (promptKey prompt))
      (Looked c.ttl.micros (promptKey prompt)) [] := by
  unfold PromptCache.get
  have hfetch : (Plan.call (.fetch (promptKey prompt))).Tells
      (Looks c.ttl.micros (promptKey prompt))
      (fun past answer => ∃ n, past = [⟨n, .fetch (promptKey prompt), answer⟩]) [] :=
    tells_call .fetch fun n _ => ⟨n, rfl⟩
  apply hfetch.bind
  · rintro _ found - ⟨n, rfl⟩
    cases found with
    | none => exact .missing
    | some r =>
      have hnow : (Plan.call .now).Tells (Looks c.ttl.micros (promptKey prompt))
          (fun past answer => ∃ m, past
            = [⟨n, .fetch (promptKey prompt), .ok (some r)⟩, ⟨m, .now, answer⟩])
          [⟨n, .fetch (promptKey prompt), .ok (some r)⟩] := tells_call .now fun m _ => ⟨m, rfl⟩
      apply hnow.bind
      · rintro _ t - ⟨m, rfl⟩
        by_cases hexpired : r.isExpired c.ttl.micros t = true
        · rw [if_pos hexpired]
          have hremove : (Plan.call (.remove (promptKey prompt))).Tells
              (Looks c.ttl.micros (promptKey prompt))
              (fun past answer => ∃ l, past = [⟨n, .fetch (promptKey prompt), .ok (some r)⟩,
                ⟨m, .now, .ok t⟩, ⟨l, .remove (promptKey prompt), answer⟩])
              [⟨n, .fetch (promptKey prompt), .ok (some r)⟩, ⟨m, .now, .ok t⟩] :=
            tells_call (.remove hexpired) fun l _ => ⟨l, rfl⟩
          apply hremove.bind
          · rintro _ _ - ⟨l, rfl⟩
            exact .expired hexpired
          · rintro _ f - ⟨l, rfl⟩
            exact .stuck hexpired
        · rw [if_neg hexpired]
          exact .live (Bool.eq_false_iff.2 hexpired)
      · rintro _ f - ⟨m, rfl⟩
        exact .undated
  · rintro _ f - ⟨n, rfl⟩
    exact .down

/-- **A record that is written** is made at the time that the call before the write tells. -/
theorem tells_put {asks : List Answered → Call → Prop} {past : List Answered}
    {prompt query intentText : String} {result : Option String} (hnow : asks past .now)
    (hsave : ∀ n createdAt, asks (past ++ [⟨n, .now, .ok createdAt⟩])
      (.save (recordAt prompt query intentText result createdAt))) :
    (PromptCache.put prompt query intentText result).Tells asks
      (fun past' reply => ∀ r, reply = .ok r →
        r = recordAt prompt query intentText result r.createdAt ∧ ∃ n m,
          past' = past ++ [⟨n, .now, .ok r.createdAt⟩, ⟨m, .save r, .ok ()⟩]) past := by
  unfold PromptCache.put
  have htime : (Plan.call .now).Tells asks
      (fun past' answer => ∃ n, past' = past ++ [⟨n, .now, answer⟩]) past :=
    tells_call hnow fun n _ => ⟨n, rfl⟩
  apply htime.bind_ok
  rintro _ createdAt - ⟨n, rfl⟩
  have hwrite : (Plan.call (.save (recordAt prompt query intentText result createdAt))).Tells asks
      (fun past' answer => ∃ m, past' = past ++ [⟨n, .now, .ok createdAt⟩,
        ⟨m, .save (recordAt prompt query intentText result createdAt), answer⟩])
      (past ++ [⟨n, .now, .ok createdAt⟩]) :=
    tells_call (hsave n createdAt) fun m _ => ⟨m, List.append_assoc _ _ _⟩
  apply hwrite.bind_ok
  rintro _ _ - ⟨m, rfl⟩ r hr
  obtain rfl := Except.ok.inj hr
  exact ⟨rfl, n, m, rfl⟩

/-! ### Requests -/

namespace Service

/-- Where a query comes from: out of a record that was found and whose age was then told to be below
its lifetime, or out of the formulation of the intent. -/
inductive Sourced (ttl : Int) (key : String) (i : Intent) (past : List Answered) :
    (cacheHit : Bool) → Json → Prop where
  | found {n m : Nat} {r : Record Json} {t : Timestamp} {rest : List Answered}
      (h : past = ⟨n, .fetch key, .ok (some r)⟩ :: ⟨m, .now, .ok t⟩ :: rest)
      (hlive : r.isExpired ttl t = false) : Sourced ttl key i past true r.query
  | formulated {n : Nat} {query : String} (h : ⟨n, .formulate i, .ok query⟩ ∈ past) :
    Sourced ttl key i past false (.string query)

/-- A record as a request composes it: for its own prompt and intent text, with the query that it
formulated, with no result or the one that this query was answered with, and made at the time of the
call just before. -/
structure Composes (prompt text : String) (i : Intent) (past : List Answered) (r : Record String) :
    Prop where
  record_eq : r = recordAt prompt r.query text r.result r.createdAt
  dated : ∃ earlier n, past = earlier ++ [⟨n, .now, .ok r.createdAt⟩]
  formulated : ∃ n, ⟨n, .formulate i, .ok r.query⟩ ∈ past
  answered : ∀ result, r.result = some result →
    ∃ n, ⟨n, .send (.string r.query) i.api, .ok result⟩ ∈ past

/-- The calls of a request whose intent was read: a look for its prompt, then its own intent is
formulated, its own record is written, and a query that it came by is sent to the API of its
intent. -/
def Asks (s : Service) (prompt text : String) (i : Intent) (past : List Answered) : Call → Prop
  | .now => True
  | .save r => Composes prompt text i past r
  | .formulate j => j = i
  | .send query api =>
    api = i.api ∧ ∃ cacheHit, Sourced s.cache.ttl.micros (promptKey prompt) i past cacheHit query
  | c => Looks s.cache.ttl.micros (promptKey prompt) past c

/-- An outcome is one of the prompt and its intent, with a query from where it says. -/
structure Accounts (s : Service) (prompt : String) (i : Intent) (past : List Answered)
    (o : Outcome) : Prop where
  prompt_eq : o.prompt = prompt
  intent_eq : o.intent = i
  sourced : Sourced s.cache.ttl.micros (promptKey prompt) i past o.cacheHit o.query

variable {s : Service} {prompt text api : String} {i : Intent} {past : List Answered}

theorem asks_of_looks {c : Call} (h : Looks s.cache.ttl.micros (promptKey prompt) past c) :
    s.Asks prompt text i past c := by
  cases h with
  | fetch => exact .fetch
  | now => trivial
  | remove hexpired => exact .remove hexpired

/-- A plan that goes on with a fallback during an outage. -/
theorem tells_tolerate {α : Type} {asks : List Answered → Call → Prop}
    {ends : List Answered → Except Failure α → Prop} {p : Plan α} {fallback : α}
    (hp : p.Tells asks ends past) : (s.tolerate fallback p).Tells asks
      (fun past' result => ∀ a, result = .ok a → ends past' (.ok a) ∨ a = fallback) past := by
  apply hp.recover
  · intro past' a ha a' ha'
    obtain rfl := Except.ok.inj ha'
    exact .inl ha
  · intro past' f _
    cases f with
    | cacheUnavailable reason =>
      dsimp only
      split
      · intro a ha
        exact .inr (Except.ok.inj ha).symm
      · intro a ha
        cases ha
    | _ =>
      intro a ha
      cases ha

/-- What is found for a prompt was live when its age was told. -/
theorem tells_cached : (s.cached prompt).Tells (s.Asks prompt text i)
    (fun past result => ∀ r, result = .ok (some r) →
      Sourced s.cache.ttl.micros (promptKey prompt) i past true r.query) [] := by
  have hget : (s.cache.get prompt).Tells (s.Asks prompt text i)
      (Looked s.cache.ttl.micros (promptKey prompt)) [] :=
    (tells_get s.cache prompt).mono (fun _ _ => asks_of_looks) fun _ _ h => h
  apply (tells_tolerate hget).mono (fun _ _ h => h)
  intro past result hresult r hr
  rcases hresult _ hr with hlooked | hnone
  · cases hlooked with
    | live hlive => exact .found rfl hlive
  · cases hnone

theorem tells_store {query : String} {result : Option String}
    (hformulated : ∃ n, ⟨n, .formulate i, .ok query⟩ ∈ past)
    (hanswered : ∀ text, result = some text →
      ∃ n, ⟨n, .send (.string query) i.api, .ok text⟩ ∈ past) :
    (s.store prompt query text result).Tells (s.Asks prompt text i) (fun _ _ => True) past := by
  have hsave (n : Nat) (createdAt : Timestamp) :
      s.Asks prompt text i (past ++ [⟨n, .now, .ok createdAt⟩])
        (.save (recordAt prompt query text result createdAt)) := by
    obtain ⟨k, hk⟩ := hformulated
    refine ⟨rfl, ⟨past, n, rfl⟩, ⟨k, List.mem_append_left _ hk⟩, fun reply hreply => ?_⟩
    obtain ⟨l, hl⟩ := hanswered reply hreply
    exact ⟨l, List.mem_append_left _ hl⟩
  have hput : (PromptCache.put prompt query text result).Tells (s.Asks prompt text i) _ past :=
    tells_put trivial hsave
  have hdropped : (do let _ ← PromptCache.put prompt query text result : Plan Unit).Tells
      (s.Asks prompt text i) (fun _ _ => True) past :=
    hput.bind (fun _ _ _ _ => trivial) fun _ _ _ _ => trivial
  exact (tells_tolerate hdropped).mono (fun _ _ h => h) fun _ _ _ => trivial

theorem tells_compileFresh : (s.compileFresh prompt i text).Tells (s.Asks prompt text i)
    (fun past' result => ∀ query, result = .ok query →
      ∃ n, ⟨n, .formulate i, .ok query⟩ ∈ past') past := by
  unfold compileFresh
  have hformulate : (Plan.call (.formulate i)).Tells (s.Asks prompt text i)
      (fun past' answer => ∃ n, ⟨n, .formulate i, answer⟩ ∈ past') past :=
    tells_call rfl fun n _ => ⟨n, List.mem_append_right _ (List.mem_singleton_self _)⟩
  apply hformulate.bind_ok
  rintro past₁ query - hformulated
  have hstore : (s.store prompt query text none).Tells (s.Asks prompt text i) (fun _ _ => True)
      past₁ := tells_store hformulated fun _ hnone => (by cases hnone)
  apply hstore.bind_ok
  intro past₂ _ hpre _ query' hquery'
  obtain rfl := Except.ok.inj hquery'
  obtain ⟨n, hn⟩ := hformulated
  exact ⟨n, hpre.subset hn⟩

/-- A query from somewhere is sent to the API of the intent. -/
theorem tells_send {cacheHit : Bool} {query : Json}
    (h : Sourced s.cache.ttl.micros (promptKey prompt) i past cacheHit query) :
    (Plan.call (.send query i.api)).Tells (s.Asks prompt text i)
      (fun past' answer => ∃ n, ⟨n, .send query i.api, answer⟩ ∈ past') past :=
  tells_call ⟨rfl, cacheHit, h⟩ fun n _ => ⟨n, List.mem_append_right _ (List.mem_singleton_self _)⟩

theorem Sourced.mono {ttl : Int} {key : String} {past' : List Answered} {cacheHit : Bool}
    {query : Json} (h : Sourced ttl key i past cacheHit query) (hpre : past <+: past') :
    Sourced ttl key i past' cacheHit query := by
  cases h with
  | found hpast hlive =>
    obtain ⟨later, rfl⟩ := hpre
    rw [hpast]
    exact .found rfl hlive
  | formulated hformulated => exact .formulated (hpre.subset hformulated)

theorem accounts_of_ok {o o' : Outcome} (h : s.Accounts prompt i past o)
    (ho : (Except.ok o : Except Failure Outcome) = .ok o') : s.Accounts prompt i past o' :=
  Except.ok.inj ho ▸ h

/-- What follows a look that found a record. -/
theorem tells_reuse {r : Record Json}
    (h : Sourced s.cache.ttl.micros (promptKey prompt) i past true r.query) :
    (s.reuse prompt i r).Tells (s.Asks prompt text i)
      (fun past' result => ∀ o, result = .ok o → s.Accounts prompt i past' o) past := by
  unfold reuse
  split
  · intro o
    exact accounts_of_ok ⟨rfl, rfl, h⟩
  · apply (tells_send h).bind_ok
    intro past' result hpre _ o
    exact accounts_of_ok ⟨rfl, rfl, h.mono hpre⟩

/-- What follows a look that found none. -/
theorem tells_renew : (s.renew prompt text i).Tells (s.Asks prompt text i)
    (fun past' result => ∀ o, result = .ok o → s.Accounts prompt i past' o) past := by
  unfold renew
  apply tells_compileFresh.bind_ok
  intro past₁ query _ hquery
  obtain ⟨n, hn⟩ := hquery query rfl
  have hsourced : Sourced s.cache.ttl.micros (promptKey prompt) i past₁ false (.string query) :=
    .formulated hn
  apply (tells_send hsourced).bind_ok
  rintro past₂ reply hpre₂ ⟨m, hm⟩
  have hdone (past' : List Answered) (hpre : past₂ <+: past') :
      s.Accounts prompt i past' ⟨prompt, i, .string query, false, some (.string reply)⟩ :=
    ⟨rfl, rfl, hsourced.mono (hpre₂.trans hpre)⟩
  by_cases hstore : s.storeResults = true
  · rw [if_pos hstore]
    have hstored : (s.store prompt query text (some reply)).Tells (s.Asks prompt text i)
        (fun _ _ => True) past₂ := by
      apply tells_store ⟨n, hpre₂.subset hn⟩
      intro reply' hreply'
      obtain rfl := Option.some.inj hreply'
      exact ⟨m, hm⟩
    apply hstored.bind_ok
    intro past₃ _ hpre₃ _ o
    exact accounts_of_ok (hdone past₃ hpre₃)
  · rw [if_neg hstore]
    intro o
    exact accounts_of_ok (hdone past₂ List.prefix_rfl)

/-- A request whose intent was read accounts for its outcome. -/
theorem tells_read (sends : Bool) (hread : s.intentOf prompt api = .ok (i, text)) :
    (s.request sends prompt api).Tells (s.Asks prompt text i)
      (fun past result => ∀ o, result = .ok o → s.Accounts prompt i past o) [] := by
  have hlook : (s.cached prompt).Tells (s.Asks prompt text i) _ [] := tells_cached
  have hplan : s.read prompt api = .done (.ok (i, text)) := by
    rw [show s.read prompt api = .done (s.intentOf prompt api) from rfl, hread]
  cases sends with
  | true =>
    show (s.execute prompt api).Tells _ _ _
    unfold execute
    rw [hplan]
    apply hlook.bind_ok
    intro past found _ hfound
    cases found with
    | some r => exact tells_reuse (hfound r rfl)
    | none => exact tells_renew
  | false =>
    show (s.compileOnly prompt api).Tells _ _ _
    unfold compileOnly
    rw [hplan]
    apply hlook.bind_ok
    intro past found _ hfound
    cases found with
    | some r =>
      intro o
      exact accounts_of_ok ⟨rfl, rfl, hfound r rfl⟩
    | none =>
      apply tells_compileFresh.bind_ok
      intro past' query _ hquery o
      obtain ⟨n, hn⟩ := hquery query rfl
      exact accounts_of_ok ⟨rfl, rfl, .formulated hn⟩

/-- The calls of a request: there are none unless its intent can be read. -/
def AsksFor (s : Service) (prompt api : String) (past : List Answered) (c : Call) : Prop :=
  ∃ i text, s.intentOf prompt api = .ok (i, text) ∧ s.Asks prompt text i past c

/-- What a request comes to by its calls: it accounts for its outcome. -/
def EndsFor (s : Service) (prompt api : String) (past : List Answered)
    (result : Except Failure Outcome) : Prop :=
  ∀ o, result = .ok o →
    ∃ i text, s.intentOf prompt api = .ok (i, text) ∧ s.Accounts prompt i past o

/-- **A request** accounts for its outcome, whether its intent can be read or not. -/
theorem tells_request (s : Service) (sends : Bool) (prompt api : String) :
    (s.request sends prompt api).Tells (s.AsksFor prompt api) (s.EndsFor prompt api) [] := by
  cases hread : s.intentOf prompt api with
  | error f =>
    have hbind : s.read prompt api = .done (.error f) := by
      rw [show s.read prompt api = .done (s.intentOf prompt api) from rfl, hread]
    have hplan : s.request sends prompt api = .done (.error f) := by
      cases sends with
      | true =>
        show s.execute prompt api = _
        rw [execute, hbind]
        rfl
      | false =>
        show s.compileOnly prompt api = _
        rw [compileOnly, hbind]
        rfl
    rw [hplan]
    intro o ho
    cases ho
  | ok it =>
    obtain ⟨i, text⟩ := it
    apply (tells_read sends hread).mono
    · intro past c hc
      exact ⟨i, text, hread, hc⟩
    · intro past result hresult o ho
      exact ⟨i, text, hread, hresult o ho⟩

/-! ### Operations -/

/-- The calls of an operation. -/
def Operation.Asks (s : Service) : Operation → List Answered → Call → Prop
  | .execute prompt api => s.AsksFor prompt api
  | .compileOnly prompt api => s.AsksFor prompt api
  | .lookup prompt => Looks s.cache.ttl.micros (promptKey prompt)
  | .invalidate prompt => fun _ c => c = .remove (promptKey prompt)

/-- What an operation comes to by its calls. -/
def Operation.Ends (s : Service) (o : Operation) (past : List Answered)
    (reply : Except Failure Reply) : Prop :=
  match o with
  | .execute prompt api => ∃ result, s.EndsFor prompt api past result ∧ reply = result.map .outcome
  | .compileOnly prompt api =>
    ∃ result, s.EndsFor prompt api past result ∧ reply = result.map .outcome
  | .lookup prompt => ∃ result,
    Looked s.cache.ttl.micros (promptKey prompt) past result ∧ reply = result.map .found
  | .invalidate _ => ∃ result : Except Failure Unit, True ∧ reply = result.map fun _ => .finished

/-- **Every operation of a service** is told by its calls. -/
theorem tells_operation (s : Service) (o : Operation) :
    (o.plan s).Tells (o.Asks s) (o.Ends s) [] := by
  cases o with
  | execute prompt api => exact (tells_request s true prompt api).map Reply.outcome
  | compileOnly prompt api => exact (tells_request s false prompt api).map Reply.outcome
  | lookup prompt => exact (tells_get s.cache prompt).map Reply.found
  | invalidate prompt =>
    have hremove : (Plan.call (.remove (promptKey prompt))).Tells
        (fun _ c => c = .remove (promptKey prompt)) (fun _ _ => True) [] :=
      tells_call rfl fun _ _ => trivial
    exact hremove.map fun _ => Reply.finished

/-- The prompt of a request, with the tag of the API that it is meant for. -/
def Operation.asked? : Operation → Option (String × String)
  | .execute prompt api => some (prompt, api)
  | .compileOnly prompt api => some (prompt, api)
  | .lookup _ => none
  | .invalidate _ => none

theorem Operation.asked?_eq_some {o : Operation} :
    o.asked? = some (prompt, api) ↔ o = .execute prompt api ∨ o = .compileOnly prompt api := by
  cases o <;> simp [asked?]

/-- What is written or sent is written or sent by a request. -/
theorem Operation.Asks.request {o : Operation} {c : Call} (h : o.Asks s past c)
    (hc : (∃ r, c = .save r) ∨ ∃ query tag, c = .send query tag) :
    ∃ prompt api, o.asked? = some (prompt, api) ∧ s.AsksFor prompt api past c := by
  cases o with
  | execute prompt api => exact ⟨prompt, api, rfl, h⟩
  | compileOnly prompt api => exact ⟨prompt, api, rfl, h⟩
  | lookup prompt => rcases hc with ⟨r, rfl⟩ | ⟨query, tag, rfl⟩ <;> cases h
  | invalidate prompt => rcases hc with ⟨r, rfl⟩ | ⟨query, tag, rfl⟩ <;> cases h

/-- An outcome is that of a request for its prompt. -/
theorem Operation.Ends.outcome {o : Operation} {out : Outcome}
    (h : o.Ends s past (.ok (.outcome out))) : ∃ api i text, o.asked? = some (out.prompt, api)
      ∧ s.intentOf out.prompt api = .ok (i, text) ∧ s.Accounts out.prompt i past out := by
  have hrequest {prompt api : String} (ho : o.asked? = some (prompt, api))
      (h : ∃ result, s.EndsFor prompt api past result
        ∧ .ok (.outcome out) = result.map Reply.outcome) :
      ∃ api i text, o.asked? = some (out.prompt, api)
        ∧ s.intentOf out.prompt api = .ok (i, text) ∧ s.Accounts out.prompt i past out := by
    obtain ⟨result, hfor, hreply⟩ := h
    obtain ⟨out', hout', houtcome⟩ := Except.map_eq_ok.1 hreply.symm
    obtain rfl := Reply.outcome.inj houtcome
    obtain ⟨i, text, hread, haccounts⟩ := hfor out' hout'
    obtain rfl := haccounts.prompt_eq
    exact ⟨api, i, text, ho, hread, haccounts⟩
  cases o with
  | execute prompt api => exact hrequest rfl h
  | compileOnly prompt api => exact hrequest rfl h
  | lookup prompt =>
    obtain ⟨result, -, hreply⟩ := h
    obtain ⟨found, -, hfound⟩ := Except.map_eq_ok.1 hreply.symm
    cases hfound
  | invalidate prompt =>
    obtain ⟨result, -, hreply⟩ := h
    obtain ⟨u, -, hfinished⟩ := Except.map_eq_ok.1 hreply.symm
    cases hfinished

/-- A record that is shown was looked up. -/
theorem Operation.Ends.found {o : Operation} {found : Option (Record Json)}
    (h : o.Ends s past (.ok (.found found))) : ∃ prompt, o = .lookup prompt
      ∧ Looked s.cache.ttl.micros (promptKey prompt) past (.ok found) := by
  cases o with
  | lookup prompt =>
    obtain ⟨result, hlooked, hreply⟩ := h
    obtain ⟨found', rfl, hfound⟩ := Except.map_eq_ok.1 hreply.symm
    obtain rfl := Reply.found.inj hfound
    exact ⟨prompt, rfl, hlooked⟩
  | invalidate prompt =>
    obtain ⟨result, -, hreply⟩ := h
    obtain ⟨u, -, hfinished⟩ := Except.map_eq_ok.1 hreply.symm
    cases hfinished
  | _ =>
    obtain ⟨result, -, hreply⟩ := h
    obtain ⟨out, -, houtcome⟩ := Except.map_eq_ok.1 hreply.symm
    cases houtcome

end Service

end ConceptQuery
