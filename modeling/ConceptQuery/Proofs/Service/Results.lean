import ConceptQuery.Proofs.Service.Origin
import ConceptQuery.Proofs.Service.Stages
import ConceptQuery.Proofs.Sparql.Endpoint

/-!
# Where results come from

An operation sends at most one query. What it returns or keeps as a result is therefore the text of
the one reply that came back, and a result that the cache gives is that of an earlier operation.

* `Http.Reply.Brings`, `exchanges_dispatch` — replies that bring a text, and what is exchanged for a
  query;
* `Turn.exchanges` — what was sent in a turn, with the replies to it;
* `sentBy`, `quietly`, `Service.Spares`, `spares_operation` — operations send at most one query, and
  return the answer to it or what the cache gave;
* `Service.Hits`, `Service.HitBy`, `hitBy_turn` — requests for a prompt that has a live record;
* `Catalogue.ObtainedIn`, `Catalogue.Keeps` — results that were obtained in a turn, and memories
  that keep only such results;
* `Catalogue.SentOver`, `Catalogue.Sourcing` — the middle of an operation;
* `Catalogue.Sources`, `Catalogue.SourcedRun` — turns whose results have a source, and runs of them;
* `results_of_exchanges` — every run is one of them;
* `left_by_execute`, `keeps_other_bytes` — a result that is kept, of a body that is not in UTF-8.
-/

namespace ConceptQuery

open Cache Http Plan

/-! ### Replies -/

/-- A reply that brings a text: a response that reports success and is read as this text by its
codec. If this is UTF-8, and the body too, the bytes of the text are those of the body. -/
def Http.Reply.Brings (reply : Http.Reply) (text : String) : Prop :=
  ∃ r : Response, reply = .response r ∧ r.isSuccess = true ∧ r.Reads (.ok text)
    ∧ ∀ body, r.codec = Text.Charset.utf8.codec → r.body = Json.utf8Bytes body →
      Json.utf8Bytes text.toList = r.body

theorem brings_text {r : Response} {text : String} (h : r.isSuccess = true)
    (htext : r.text = .ok text) : (Reply.response r).Brings text := by
  refine ⟨r, rfl, h, Response.text_eq_ok_iff.1 htext, fun body hcodec hbody => ?_⟩
  have hspelled := Response.text_eq_ok_iff.2 (Response.reads_of_utf8 hcodec hbody)
  rw [Except.ok.inj (htext.symm.trans hspelled), String.toList_ofList, hbody]

/-- The outcome of an exchange is a text only if the reply brings it. -/
theorem brings_of_outcome {v : Variant} {reply : Http.Reply} {text : String}
    (h : v.outcome reply = .ok text) : reply.Brings text := by
  cases reply with
  | response r =>
    cases htext : r.text with
    | ok text' =>
      rw [Variant.outcome_of_text htext] at h
      split at h
      · next hsuccess =>
        obtain rfl := Except.ok.inj h
        exact brings_text hsuccess htext
      · cases h
    | error f =>
      rw [Variant.outcome_of_text_error htext] at h
      cases h
  | failed reason => cases h
  | invalidUrl reason => cases h

/-- **What is exchanged for a query**: nothing, or one request that carries it to the variant of the
tag. -/
theorem exchanges_dispatch (variants : Registry) (query : Json) (tag : Option String)
    (network : Network) :
    (network.exchanges (dispatch variants query tag network).2 = []
        ∧ ∃ f, (dispatch variants query tag network).1 = .error f)
      ∨ ∃ v, variants.get tag = .ok v
        ∧ network.exchanges (dispatch variants query tag network).2
          = [(v.request query, network.next)]
        ∧ (dispatch variants query tag network).1 = v.outcome network.next := by
  unfold dispatch
  split
  · exact .inl ⟨Network.exchanges_of_sent_eq rfl, _, rfl⟩
  · next v hget =>
    split
    · exact .inr ⟨v, hget, network.exchanges_once _, rfl⟩
    · exact .inl ⟨Network.exchanges_of_sent_eq rfl, _, rfl⟩

/-- What was sent in a turn, with the replies to it. -/
def Turn.exchanges {ω ρ : Type} (t : Turn ω ρ) : List (Request × Http.Reply) :=
  t.before.world.network.exchanges t.after.world.network

/-! ### Operations send at most one query -/

/-- Whether a call sends a query. -/
def Call.isSend : Call → Bool
  | .send _ _ => true
  | _ => false

/-- The calls of the past that sent a query. -/
def sentBy (past : List Answered) : List Answered :=
  past.filter fun a => a.call.isSend

theorem sentBy_append (past more : List Answered) :
    sentBy (past ++ more) = sentBy past ++ sentBy more :=
  List.filter_append past more

theorem sentBy_of_quiet {more : List Answered} (h : ∀ a ∈ more, a.call.isSend = false) :
    sentBy more = [] :=
  List.filter_eq_nil_iff.2 fun a ha hsend => Bool.false_ne_true ((h a ha).symm.trans hsend)

/-- No query is sent, and no result is written unless that is allowed. -/
def quietly (writes : Bool) : Contract where
  allows
    | .send _ _ => False
    | .save r => r.result.isSome = true → writes = true
    | _ => True
  promises _ _ := True

theorem isSend_of_quietly {writes : Bool} {c : Call} (h : (quietly writes).allows c) :
    c.isSend = false := by
  cases c with
  | send query api => exact absurd h id
  | _ => rfl

namespace Service

/-- Whether an operation sends queries at all. -/
def Operation.sends : Operation → Bool
  | .execute _ _ => true
  | _ => false

variable {s : Service} {o : Operation} {sends writes : Bool} {prompt text api : String}
  {i : Intent} {past : List Answered}

/-- One query may be sent, by an operation that sends any, and only those write results if results
are kept at all. -/
def Spares (s : Service) (sends : Bool) (past : List Answered) : Call → Prop
  | .send _ _ => sends = true ∧ sentBy past = []
  | .save r => r.result.isSome = true → sends = true ∧ s.storeResults = true
  | _ => True

/-- What a request returns: a result that the cache gave without any query being sent, or the answer
to its query, which is the only one that was sent. -/
def Returns (s : Service) (past : List Answered) (o : Outcome) : Prop :=
  (s.storeResults = true ∧ o.cacheHit = true ∧ sentBy past = [])
    ∨ ∃ n text, sentBy past = [⟨n, .send o.query o.intent.api, .ok text⟩]
      ∧ o.result = some (.string text)

/-- What an operation comes to by its calls: a request returns what it may, all else sends
nothing. -/
def Comes (s : Service) : (sends : Bool) → List Answered → Except Failure Reply → Prop
  | true, past, reply => ∀ out, reply = .ok (.outcome out) → s.Returns past out
  | false, past, _ => sentBy past = []

/-- A part of an operation that sends nothing. -/
theorem spares_quietly {α : Type} {p : Plan α} (hp : p.Within (quietly writes))
    (hwrites : writes = true → sends = true ∧ s.storeResults = true) (past : List Answered) :
    p.Tells (s.Spares sends) (fun past' _ => sentBy past' = sentBy past) past := by
  have hasks (past : List Answered) (c : Call) (hc : (quietly writes).allows c) :
      s.Spares sends past c := by
    cases c with
    | send query api => exact absurd hc id
    | save r => exact fun hresult => hwrites (hc hresult)
    | _ => trivial
  refine (hp.tells (fun _ _ => trivial) hasks past).mono (fun _ _ h => h) ?_
  rintro _ _ ⟨more, rfl, hmore⟩
  rw [sentBy_append, sentBy_of_quiet fun a ha => isSend_of_quietly (hmore a ha), List.append_nil]

theorem spares_send {query : Json} (hpast : sentBy past = []) :
    (Plan.call (.send query api)).Tells (s.Spares true)
      (fun past' answer => ∃ n, sentBy past' = [⟨n, .send query api, answer⟩]) past :=
  tells_call ⟨rfl, hpast⟩ fun n _ => ⟨n, by rw [sentBy_append, hpast]; rfl⟩

theorem spares_reuse {r : Record Json} (hpast : sentBy past = []) :
    (s.reuse prompt i r).Tells (s.Spares true)
      (fun past' result => ∀ out, result = .ok out → s.Returns past' out) past := by
  unfold reuse
  split
  · next hstore _ =>
    intro out hout
    obtain rfl := Except.ok.inj hout
    exact .inl ⟨hstore, rfl, hpast⟩
  · apply (spares_send hpast).bind_ok
    rintro past' reply - ⟨n, hn⟩ out hout
    obtain rfl := Except.ok.inj hout
    exact .inr ⟨n, reply, hn, rfl⟩

/-- A query that is formulated anew is sent once; the record of it is written before without a
result, and after with one if results are kept. -/
theorem spares_renew (hpast : sentBy past = []) :
    (s.renew prompt text i).Tells (s.Spares true)
      (fun past' result => ∀ out, result = .ok out → s.Returns past' out) past := by
  have hcompile : (s.compileFresh prompt i text).Within (quietly false) :=
    within_compileFresh trivial trivial fun _ _ _ hnone => hnone
  unfold renew
  apply (spares_quietly hcompile (fun h => absurd h Bool.false_ne_true) past).bind_ok
  intro past₁ query _ hsent₁
  apply (spares_send (hsent₁.trans hpast)).bind_ok
  rintro past₂ reply - ⟨n, hsent₂⟩
  by_cases hstore : s.storeResults = true
  · rw [if_pos hstore]
    have hwrite : (s.store prompt query text (some reply)).Within (quietly true) :=
      within_store trivial fun _ _ _ => rfl
    apply (spares_quietly hwrite (fun _ => ⟨rfl, hstore⟩) past₂).bind_ok
    intro past₃ _ _ hsent₃ out hout
    obtain rfl := Except.ok.inj hout
    exact .inr ⟨n, reply, hsent₃.trans hsent₂, rfl⟩
  · rw [if_neg hstore]
    intro out hout
    obtain rfl := Except.ok.inj hout
    exact .inr ⟨n, reply, hsent₂, rfl⟩

theorem spares_execute (s : Service) (prompt api : String) :
    (s.execute prompt api).Tells (s.Spares true)
      (fun past result => ∀ out, result = .ok out → s.Returns past out) [] := by
  have hread : (s.read prompt api).Within (quietly false) := within_done _
  have hlook : (s.cached prompt).Within (quietly false) :=
    within_tolerate (s.cache.within_get trivial trivial trivial)
  have hnothing (h : false = true) : true = true ∧ s.storeResults = true :=
    absurd h Bool.false_ne_true
  unfold execute
  apply (spares_quietly hread hnothing []).bind_ok
  rintro past₁ ⟨i, text⟩ _ hsent₁
  apply (spares_quietly hlook hnothing past₁).bind_ok
  intro past₂ found _ hsent₂
  cases found with
  | some r => exact spares_reuse (hsent₂.trans hsent₁)
  | none => exact spares_renew (hsent₂.trans hsent₁)

/-- An operation that sends nothing writes no results. -/
theorem within_operation (s : Service) (ho : o.sends = false) :
    (o.plan s).Within (quietly false) := by
  cases o with
  | execute prompt api => cases ho
  | compileOnly prompt api =>
    have hplan : (s.compileOnly prompt api).Within (quietly false) :=
      within_compileOnly trivial trivial trivial (fun _ => trivial) fun _ _ _ _ hnone => hnone
    exact hplan.bind fun _ => within_done _
  | lookup prompt =>
    have hplan : (s.lookup prompt).Within (quietly false) :=
      s.cache.within_get trivial trivial trivial
    exact hplan.bind fun _ => within_done _
  | invalidate prompt =>
    have hplan : (s.invalidate prompt).Within (quietly false) := within_call trivial
    exact hplan.bind fun _ => within_done _

/-- **Every operation** sends at most one query, and a request returns the answer to it unless the
cache gave the result. -/
theorem spares_operation (s : Service) (o : Operation) :
    (o.plan s).Tells (s.Spares o.sends) (s.Comes o.sends) [] := by
  cases hsends : o.sends with
  | false =>
    exact spares_quietly (within_operation s hsends) (fun h => absurd h Bool.false_ne_true) []
  | true =>
    cases o with
    | execute prompt api =>
      apply ((spares_execute s prompt api).map Reply.outcome).mono (fun _ _ h => h)
      rintro past _ ⟨result, hreturns, rfl⟩ out hout
      obtain ⟨out', hout', houtcome⟩ := Except.map_eq_ok.1 hout
      obtain rfl := Reply.outcome.inj houtcome
      exact hreturns out' hout'
    | _ => cases hsends

theorem Operation.eq_execute {o : Operation} (ho : o.asked? = some (prompt, api))
    (hsends : o.sends = true) : o = .execute prompt api := by
  rcases Operation.asked?_eq_some.1 ho with rfl | rfl
  · rfl
  · cases hsends

/-! ### Requests for a prompt with a live record -/

/-- A look for a prompt finds a record: the memory can be read, and the record has not reached its
lifetime when its age is told. -/
structure Hits (s : Service) (course : Nat → Moment) (stage : Stage) (prompt : String)
    (records : Table (Record String)) (r : Record String) : Prop where
  recorded : stage.Records records
  get?_eq : records.get? (promptKey prompt) = some r
  up : fails course stage.calls .fetch = false
  live : r.isExpired s.cache.ttl.micros (course (stage.calls + 1)).clock = false

/-- A turn in which a prompt was run whose record was found. -/
structure HitBy (s : Service) (variants : Registry) (prompt : String) (i : Intent)
    (records : Table (Record String)) (r : Record String) (t : Turn) : Prop where
  /-- All records are as they were. -/
  kept : t.after.Records records
  /-- A result that is kept is given, and nothing is sent. -/
  given : ∀ result, s.storeResults = true → r.result = some result → t.exchanges = []
    ∧ t.reply = .ok (.outcome ⟨prompt, i, .string r.query, true, some (.string result)⟩)
  /-- Without one, the query of the record is sent once, and the reply is what comes of that. -/
  sent : ¬ (s.storeResults = true ∧ r.result.isSome = true) → ∀ v,
    variants.get (some i.api) = .ok v →
      t.exchanges = [(v.request (.string r.query), t.before.world.network.next)]
        ∧ t.reply = (v.outcome t.before.world.network.next).map fun text =>
          .outcome ⟨prompt, i, .string r.query, true, some (.string text)⟩
  /-- Nothing is sent to an API that is not registered. -/
  unsent : ¬ (s.storeResults = true ∧ r.result.isSome = true) → ∀ f,
    variants.get (some i.api) = .error f → t.exchanges = [] ∧ t.reply = .error f

variable {course : Nat → Moment} {stage : Stage} {records : Table (Record String)}
  {r : Record String}

/-- A request that finds a record is answered from it, and leaves the memory as it was. -/
theorem run_hit (h : s.Hits course stage prompt records r)
    (hread : s.intentOf prompt api = .ok (i, text)) :
    let answer := s.answered true prompt i (some r) stage.world.stores stage.world.network
    ∃ stage', (s.execute prompt api).run (answerAt course) stage = (answer.1, stage')
      ∧ stage'.Records records ∧ stage'.world.network = answer.2 := by
  intro answer
  have hfailed : lookFails s.cache.ttl.micros course stage.calls records (promptKey prompt)
      = false := by
    rw [lookFails, h.up, h.get?_eq, Option.any_some, h.live]
    rfl
  have hlive : liveRecord s.cache.ttl.micros (course (stage.calls + 1)).clock records
      (promptKey prompt) = some r := by
    rw [liveRecord, h.get?_eq, Option.filter_some, h.live]
    rfl
  obtain ⟨stage₁, hrun₁, hrecords₁, -⟩ := run_look course s.cache prompt h.recorded
  have hwithin : (s.cache.get prompt).Within cacheCalls :=
    s.cache.within_get trivial trivial trivial
  have houtside := hwithin.outside course h.recorded
  rw [hfailed, if_neg Bool.false_ne_true, hlive] at hrun₁
  rw [hfailed, if_neg Bool.false_ne_true, swept_of_live hlive] at hrecords₁
  rw [hrun₁] at houtside
  have hlook : (s.cached prompt).run (answerAt course) stage
      = (.ok (some (r.map .string)), stage₁) := run_tolerate hrun₁
  obtain ⟨stage₂, hrun₂, hrecords₂, hnetwork₂⟩ :=
    run_reuse (s := s) (i := i) course hrecords₁ prompt r
  rw [houtside.stores_eq, houtside.network_eq] at hrun₂ hnetwork₂
  refine ⟨stage₂, ?_, hrecords₂, hnetwork₂⟩
  rw [execute, run_bind_ok (run_read hread)]
  dsimp only
  rw [run_bind_ok hlook]
  exact hrun₂

/-- **A prompt with a live record**: its result is given, or its query is sent again. -/
theorem hitBy_turn (h : s.Hits course stage prompt records r)
    (hread : s.intentOf prompt api = .ok (i, text)) :
    s.HitBy stage.world.stores.variants prompt i records r
      (turn (Operation.plan s) course (.execute prompt api) stage) := by
  obtain ⟨stage', hrun, hrecords, hnetwork⟩ := run_hit h hread
  rw [turn_execute, hrun]
  have hsent (hresult : ¬ (s.storeResults = true ∧ r.result.isSome = true)) :
      s.answered true prompt i (some r) stage.world.stores stage.world.network
        = ((dispatch stage.world.stores.variants (.string r.query) (some i.api)
            stage.world.network).1.map fun text =>
              ⟨prompt, i, .string r.query, true, some (.string text)⟩,
          (dispatch stage.world.stores.variants (.string r.query) (some i.api)
            stage.world.network).2) := by
    have hanswer : s.answered true prompt i (some r) stage.world.stores stage.world.network = _ :=
      answered_hit (s := s) hresult
    rw [hanswer, exchanged_true]
    rfl
  refine ⟨hrecords, ?_, ?_, ?_⟩
  · intro result hstore hresult
    have hanswer : s.answered true prompt i (some r) stage.world.stores stage.world.network = _ :=
      answered_given (s := s) hstore hresult
    rw [hanswer] at hnetwork ⊢
    exact ⟨Network.exchanges_of_sent_eq (congrArg Network.sent hnetwork), rfl⟩
  · intro hresult v hv
    rw [hsent hresult, dispatch_registered hv] at hnetwork ⊢
    refine ⟨?_, ?_⟩
    · show stage.world.network.exchanges stage'.world.network = _
      rw [hnetwork, Network.exchanges_once]
    · show ((v.outcome stage.world.network.next).map _).map _ = _
      cases v.outcome stage.world.network.next <;> rfl
  · intro hresult f hf
    rw [hsent hresult, dispatch_unregistered hf] at hnetwork ⊢
    exact ⟨Network.exchanges_of_sent_eq (congrArg Network.sent hnetwork), rfl⟩

end Service

/-! ### Results and the turns that obtained them -/

namespace Catalogue

variable {k : Catalogue} {s : Service} {course : Nat → Moment} {o : Service.Operation}
  {stage before : Stage} {past : List Answered} {earlier ts : List Service.Turn}
  {P Q : Record String → String → Prop}

/-- A result of a record that was obtained in a turn: the prompt of the record was run, its query
was all that was sent, to the variant of the intent, and the reply brought the result. -/
def ObtainedIn (k : Catalogue) (s : Service) (t : Service.Turn) (r : Record String)
    (result : String) : Prop :=
  ∃ api i text v reply, t.operation = .execute r.prompt api
    ∧ s.intentOf r.prompt api = .ok (i, text) ∧ k.variants.get (some i.api) = .ok v
    ∧ t.exchanges = [(v.request (.string r.query), reply)] ∧ reply.Brings result

/-- A result that may be in the memory after some turns: results are kept, and one of the turns
obtained it. -/
def Obtained (k : Catalogue) (s : Service) (ts : List Service.Turn) (r : Record String)
    (result : String) : Prop :=
  s.storeResults = true ∧ ∃ t ∈ ts, k.ObtainedIn s t r result

/-- Surroundings with the registered variants, and with a memory in which all results have a
property. -/
structure Keeps (k : Catalogue) (P : Record String → String → Prop) (stage : Stage) : Prop where
  variants_eq : stage.world.stores.variants = k.variants
  results : ∃ records, stage.Records records ∧ ∀ key r, records.get? key = some r →
    ∀ result, r.result = some result → P r result

theorem keeps_opening (k : Catalogue) (P : Record String → String → Prop) (clock : Timestamp)
    (network : Network) : k.Keeps P (k.opening clock network) where
  variants_eq := rfl
  results := ⟨.empty, ⟨[], rfl⟩, fun _ _ h => (by cases h)⟩

theorem Keeps.mono (h : k.Keeps P stage) (hPQ : ∀ r result, P r result → Q r result) :
    k.Keeps Q stage := by
  obtain ⟨records, hrecords, hkept⟩ := h.results
  exact ⟨h.variants_eq, records, hrecords,
    fun key r hget result hresult => hPQ r result (hkept key r hget result hresult)⟩

/-- A call leaves only results with the property, if it writes no others. -/
theorem Keeps.kept (h : k.Keeps P stage) (course : Nat → Moment) {c : Call}
    (hc : ∀ r, c = .save r → ∀ result, r.result = some result → P r result) :
    k.Keeps P (answerAt course c stage).2 := by
  obtain ⟨records, hrecords, hkept⟩ := h.results
  refine ⟨?_, _, (records_answerAt course c hrecords).1, ?_⟩
  · rw [← h.variants_eq]
    cases c with
    | formulate i => exact variants_formulate i _
    | _ => rfl
  · intro key r hget
    rcases get?_reflect hget with hold | ⟨rfl, -, -⟩
    · exact hkept key r hold
    · exact hc r rfl

/-! ### The middle of an operation -/

/-- A network after the queries of the past were sent over it, of which there is at most one. -/
inductive SentOver (k : Catalogue) (network : Network) : List Answered → Network → Prop where
  | none : k.SentOver network [] network
  | one {n : Nat} {query : Json} {tag : String} : k.SentOver network
    [⟨n, .send query tag, (dispatch k.variants query (some tag) network).1⟩]
    (dispatch k.variants query (some tag) network).2

theorem SentOver.eq_singleton {network after : Network} {sent : List Answered} {a : Answered}
    (h : k.SentOver network sent after) (ha : a ∈ sent) : sent = [a] := by
  cases h with
  | none => cases ha
  | one => rw [List.mem_singleton.1 ha]

/-- A query that was answered by a text was sent to a registered variant, and the reply brought the
text. -/
theorem SentOver.exchanges_answered {network after : Network} {sent : List Answered} {query : Json}
    {tag text : String} {n : Nat} (h : k.SentOver network sent after)
    (hsent : sent = [⟨n, .send query tag, .ok text⟩]) : ∃ v, k.variants.get (some tag) = .ok v
      ∧ network.exchanges after = [(v.request query, network.next)] ∧ network.next.Brings text := by
  cases h with
  | none => cases hsent
  | @one n' query' tag' =>
    obtain ⟨-, hcall, hanswer⟩ := Answered.mk.inj (List.cons.inj hsent).1
    obtain ⟨rfl, rfl⟩ := Call.send.inj hcall
    rcases exchanges_dispatch k.variants query' (some tag') network
      with ⟨-, f, hf⟩ | ⟨v, hv, hexchanges, houtcome⟩
    · rw [hf] at hanswer
      cases eq_of_heq hanswer
    · exact ⟨v, hv, hexchanges, brings_of_outcome (houtcome.symm.trans (eq_of_heq hanswer))⟩

theorem SentOver.exchanges_nil {network after : Network} {sent : List Answered}
    (h : k.SentOver network sent after) (hsent : sent = []) : network.exchanges after = [] := by
  cases h with
  | none => exact Network.exchanges_of_sent_eq rfl
  | one => cases hsent

theorem SentOver.exchanges_length {network after : Network} {sent : List Answered}
    (h : k.SentOver network sent after) : (network.exchanges after).length ≤ 1 := by
  cases h with
  | none =>
    rw [Network.exchanges_of_sent_eq rfl]
    exact Nat.zero_le 1
  | @one n query tag =>
    rcases exchanges_dispatch k.variants query (some tag) network
      with ⟨hexchanges, -⟩ | ⟨v, -, hexchanges, -⟩
    · rw [hexchanges]
      exact Nat.zero_le 1
    · rw [hexchanges]
      exact Nat.le_refl 1

/-- A result that an operation is about to write: it runs the prompt of the record, and the query of
the record was answered by this result. -/
def Obtaining (s : Service) (o : Service.Operation) (past : List Answered) (r : Record String)
    (result : String) : Prop :=
  ∃ api i text n, o = .execute r.prompt api ∧ s.intentOf r.prompt api = .ok (i, text)
    ∧ ⟨n, .send (.string r.query) i.api, .ok result⟩ ∈ past

/-- In the middle of an operation that began `before`, after earlier turns. -/
structure Sourcing (k : Catalogue) (s : Service) (earlier : List Service.Turn)
    (o : Service.Operation) (before : Stage) (past : List Answered) (stage : Stage) : Prop where
  /-- Results were obtained before the operation or by it. -/
  keeps : k.Keeps (fun r result => s.storeResults = true
    ∧ ((∃ t ∈ earlier, k.ObtainedIn s t r result) ∨ Obtaining s o past r result)) stage
  sent : k.SentOver before.world.network (sentBy past) stage.world.network

/-- A result that is written was obtained by the operation. -/
theorem obtaining_of_save {r : Record String} (hasks : o.Asks s past (.save r))
    (hspares : s.Spares o.sends past (.save r)) {result : String}
    (hresult : r.result = some result) :
    s.storeResults = true ∧ Obtaining s o past r result := by
  obtain ⟨hsends, hstore⟩ := hspares (by rw [hresult]; rfl)
  obtain ⟨prompt, api, ho, i, text, hread, hcomposes⟩ := hasks.request (.inl ⟨r, rfl⟩)
  have hprompt : r.prompt = prompt := congrArg Record.prompt hcomposes.record_eq
  obtain ⟨n, hn⟩ := hcomposes.answered result hresult
  rw [← hprompt] at ho hread
  exact ⟨hstore, api, i, text, n, Service.Operation.eq_execute ho hsends, hread, hn⟩

/-- The network after one more call. The cases are the calls: only one of them sends. -/
theorem SentOver.answered {network : Network}
    (h : k.SentOver network (sentBy past) stage.world.network) (hkeeps : k.Keeps P stage)
    (course : Nat → Moment) {c : Call} (hspares : s.Spares o.sends past c) :
    k.SentOver network (sentBy (past ++ [⟨stage.calls, c, (answerAt course c stage).1⟩]))
      (answerAt course c stage).2.world.network := by
  obtain ⟨records, hrecords, -⟩ := hkeeps.results
  rw [sentBy_append]
  have hquiet (hc : c.isSend = false)
      (hsame : (answerAt course c stage).2.world.network = stage.world.network) :
      k.SentOver network (sentBy past ++ sentBy [⟨stage.calls, c, (answerAt course c stage).1⟩])
        (answerAt course c stage).2.world.network := by
    rw [sentBy_of_quiet (List.forall_mem_singleton.2 hc), List.append_nil, hsame]
    exact h
  have houtside (hc : cacheCalls.allows c) := (answerAt_outside course hc hrecords).2
  cases c with
  | formulate i =>
    obtain ⟨stage', hanswer, -, -, hnetwork⟩ := answerAt_formulate course i hrecords
    exact hquiet rfl (by rw [hanswer]; exact hnetwork)
  | send query tag =>
    obtain ⟨stage', hanswer, -, hnetwork⟩ := answerAt_send course query tag hrecords
    rw [hspares.2] at h ⊢
    rw [hanswer, hnetwork, hkeeps.variants_eq]
    cases h with
    | none => exact .one
  | _ => exact hquiet rfl (houtside trivial).network_eq

/-- **One call of an operation.** -/
theorem Sourcing.answered (h : k.Sourcing s earlier o before past stage) (course : Nat → Moment)
    {c : Call} (hasks : o.Asks s past c) (hspares : s.Spares o.sends past c) :
    k.Sourcing s earlier o before (past ++ [⟨stage.calls, c, (answerAt course c stage).1⟩])
      (answerAt course c stage).2 where
  keeps := by
    have hlonger {past' : List Answered} {r : Record String} {result : String}
        (hpre : past <+: past') (hobtaining : Obtaining s o past r result) :
        Obtaining s o past' r result := by
      obtain ⟨api, i, text, n, ho, hread, hn⟩ := hobtaining
      exact ⟨api, i, text, n, ho, hread, hpre.subset hn⟩
    have hpre := List.prefix_append past [⟨stage.calls, c, (answerAt course c stage).1⟩]
    refine (h.keeps.mono fun r result => And.imp id (Or.imp id (hlonger hpre))).kept course ?_
    rintro r rfl result hresult
    obtain ⟨hstore, hobtaining⟩ := obtaining_of_save hasks hspares hresult
    exact ⟨hstore, .inr (hlonger hpre hobtaining)⟩
  sent := h.sent.answered h.keeps course hspares

/-! ### Turns -/

/-- **A turn whose results have a source**: those in the memory were obtained in earlier turns, and
what is returned was brought by a reply in this one, unless the cache gave it. -/
structure Sources (k : Catalogue) (s : Service) (course : Nat → Moment)
    (earlier : List Service.Turn) (t : Service.Turn) : Prop where
  keeps : k.Keeps (k.Obtained s earlier) t.before
  /-- At most one request is sent, and only to run a prompt from end to end. -/
  once : t.exchanges.length ≤ 1
  silent : t.operation.sends = false → t.exchanges = []
  /-- If results are not kept, each one that is returned was brought by the reply to the request of
  this turn. -/
  returned : s.storeResults = false → t.operation.sends = true →
    ∀ out, t.reply = .ok (.outcome out) → ∃ v reply text,
      k.variants.get (some out.intent.api) = .ok v
        ∧ t.exchanges = [(v.request out.query, reply)] ∧ reply.Brings text
        ∧ out.result = some (.string text)
  hit : ∀ prompt api i text records r, t.operation = .execute prompt api →
    s.intentOf prompt api = .ok (i, text) → s.Hits course t.before prompt records r →
      s.HitBy k.variants prompt i records r t

/-- What is kept after a turn was obtained in it or before. -/
theorem Sourcing.finished {t : Service.Turn}
    (h : k.Sourcing s earlier t.operation t.before past t.after) :
    k.Keeps (k.Obtained s (earlier ++ [t])) t.after := by
  apply h.keeps.mono
  rintro r result ⟨hstore, ⟨t', ht', hobtained⟩ | ⟨api, i, text, n, ho, hread, hn⟩⟩
  · exact ⟨hstore, t', List.mem_append_left _ ht', hobtained⟩
  · have hmem : ⟨n, .send (.string r.query) i.api, .ok result⟩ ∈ sentBy past :=
      List.mem_filter.2 ⟨hn, rfl⟩
    obtain ⟨v, hv, hexchanges, hbrings⟩ :=
      h.sent.exchanges_answered (h.sent.eq_singleton hmem)
    exact ⟨hstore, t, List.mem_append_right _ (List.mem_singleton_self _), api, i, text, v, _, ho,
      hread, hv, hexchanges, hbrings⟩

/-- **Every turn has its sources**, and leaves behind only results that were obtained in it or
before. -/
theorem sources_turn (course : Nat → Moment) (o : Service.Operation)
    (hstage : k.Keeps (k.Obtained s earlier) stage) :
    let t := turn (Service.Operation.plan s) course o stage
    k.Sources s course earlier t ∧ k.Keeps (k.Obtained s (earlier ++ [t])) t.after := by
  intro t
  have hstart : k.Sourcing s earlier o stage [] stage :=
    ⟨hstage.mono fun _ _ => And.imp id .inl, .none⟩
  have htells := (Service.tells_operation s o).and (Service.spares_operation s o)
  have hcall (past : List Answered) (c : Call) (stage' : Stage)
      (hc : o.Asks s past c ∧ s.Spares o.sends past c)
      (h : k.Sourcing s earlier o stage past stage') :
      k.Sourcing s earlier o stage (past ++ [⟨stage'.calls, c, (answerAt course c stage').1⟩])
        (answerAt course c stage').2 := h.answered course hc.1 hc.2
  obtain ⟨past, ⟨-, hcomes⟩, hsourcing⟩ := htells.run hcall hstart
  refine ⟨⟨hstage, hsourcing.sent.exchanges_length, ?_, ?_, ?_⟩,
    Sourcing.finished (t := t) hsourcing⟩
  · intro hsilent
    rw [show o.sends = false from hsilent] at hcomes
    exact hsourcing.sent.exchanges_nil hcomes
  · intro hstore hsends out hout
    rw [show o.sends = true from hsends] at hcomes
    rcases hcomes out hout with ⟨hkept, -⟩ | ⟨n, text, hsent, hresult⟩
    · rw [hstore] at hkept
      cases hkept
    · obtain ⟨v, hv, hexchanges, hbrings⟩ := hsourcing.sent.exchanges_answered hsent
      exact ⟨v, _, text, hv, hexchanges, hbrings, hresult⟩
  · rintro prompt api i text records r ho hread hhits
    obtain rfl : o = .execute prompt api := ho
    rw [← hstage.variants_eq]
    exact Service.hitBy_turn hhits hread

/-! ### Runs -/

/-- After turns each of which has its sources in the turns before it. -/
structure SourcedRun (k : Catalogue) (s : Service) (course : Nat → Moment)
    (ts : List Service.Turn) (stage : Stage) : Prop where
  keeps : k.Keeps (k.Obtained s ts) stage
  sources : ∀ earlier t later, ts = earlier ++ t :: later → k.Sources s course earlier t

theorem sourcedRun_opening (k : Catalogue) (s : Service) (course : Nat → Moment)
    (clock : Timestamp) (network : Network) :
    k.SourcedRun s course [] (k.opening clock network) where
  keeps := keeps_opening k _ clock network
  sources := fun _ _ _ h => absurd h (by simp)

/-- One more turn: it is the last one, or one of those before. -/
theorem SourcedRun.turn (h : k.SourcedRun s course ts stage) (o : Service.Operation) :
    let t := ConceptQuery.turn (Service.Operation.plan s) course o stage
    k.SourcedRun s course (ts ++ [t]) t.after := by
  obtain ⟨hsources, hafter⟩ := sources_turn course o h.keeps
  refine ⟨hafter, fun earlier t later hsplit => ?_⟩
  rcases split_concat hsplit with ⟨rfl, rfl⟩ | ⟨later', hbefore⟩
  · exact hsources
  · exact h.sources earlier t later' hbefore

/-- **Every result comes from an exchange.** In every run of operations from an empty memory, with
any extraction, replies, outages, lifetime of records and movement of the clock: a result is in the
memory only if results are kept, and is then the text of a successful reply to the query of its
record, which was all that a request for the prompt of the record sent. If results are not kept,
what a request returns was brought by the reply to its own request. A live record gives its result
without any request, or has its query sent once more, and stays as it is. -/
theorem results_of_exchanges (k : Catalogue) (s : Service) (course : Nat → Moment)
    (clock : Timestamp) (network : Network) (operations : List Service.Operation) :
    k.SourcedRun s course
      (turns (Service.Operation.plan s) course operations (k.opening clock network))
      (finish (Service.Operation.plan s) course operations (k.opening clock network)) :=
  invariant_finish (fun _ o _ h => h.turn o) operations
    (sourcedRun_opening k s course clock network)

/-! ### Bodies that are not in UTF-8 -/

/-- A prompt that is run over an empty memory leaves its query there with the result, if results are
kept. -/
theorem left_by_execute {prompt api query result : String} (hextract : s.extract = cannedExtract)
    (hup : ∀ n, (course n).down = []) (hstore : s.storeResults = true)
    (hquery : k.query (.canned (some api)) = .ok query) (clock : Timestamp) {network : Network}
    (hsent : (dispatch k.variants (.string query) (some (Intent.canned (some api)).api) network).1
      = .ok result) :
    ∃ records r, (turn (Service.Operation.plan s) course (.execute prompt api)
        (k.opening clock network)).after.Records records
      ∧ records.get? (promptKey prompt) = some r ∧ r.result = some result := by
  have hread := Service.intentOf_canned hextract prompt api
  obtain ⟨found, compiled, records, n, hrun₁, hrun₂, hrecords₂, -, hvariants, hnetwork⟩ :=
    run_compiled (s := s) hup hquery prompt clock network
  obtain ⟨sent, hrun₃, hrecords₃, -⟩ :=
    answerAt_send course (.string query) (Intent.canned (some api)).api hrecords₂
  rw [hvariants, hnetwork, hsent] at hrun₃
  obtain ⟨stored, hrun₄, hrecords₄, -⟩ := run_store (s := s) hrecords₃ (.inr hup) prompt query
    (Intent.canned (some api)).toText (some result)
  have hrun : (s.execute prompt api).run (answerAt course) (k.opening clock network)
      = (.ok ⟨prompt, .canned (some api), .string query, false, some (.string result)⟩,
        stored) := by
    rw [Service.execute, run_bind_ok (run_read hread)]
    dsimp only
    rw [run_bind_ok hrun₁]
    dsimp only
    rw [run_bind_ok hrun₂, run_call_ok hrun₃, if_pos hstore, run_bind_ok hrun₄]
    rfl
  have hsaved : fails course (sent.calls + 1) .save = false := by
    rw [fails, hup]
    rfl
  rw [hsaved, if_neg Bool.false_ne_true] at hrecords₄
  rw [Service.turn_execute, hrun]
  exact ⟨_, _, hrecords₄, Table.get?_insert_self _ _ _, rfl⟩

theorem canned_countries : Intent.canned (some "countries") = .cannedCountries :=
  if_pos (by decide +kernel)

/-- A byte that begins a character in UTF-8 is not all of a text. -/
theorem utf8Bytes_ne_lead (text : List Char) : Json.utf8Bytes text ≠ [0xE9] := by
  intro h
  have hbroken : (Text.Charset.utf8.decode [0xE9]).toOption = none := by decide +kernel
  rw [← h, Json.decode_utf8Bytes] at hbroken
  cases hbroken

/-- A result that is kept need not have the bytes of a body: an API replies with a byte that is no
text in UTF-8, and the text that is kept for it has other bytes. -/
theorem keeps_other_bytes :
    ¬ ∀ (k : Catalogue) (s : Service) (course : Nat → Moment) (clock : Timestamp)
        (network : Network) (operations : List Service.Operation)
        (records : Table (Record String)) (key : String) (r : Record String) (result : String),
      (finish (Service.Operation.plan s) course operations (k.opening clock network)).Records
        records → records.get? key = some r → r.result = some result →
      ∃ t ∈ turns (Service.Operation.plan s) course operations (k.opening clock network),
        ∃ request response, (request, .response response) ∈ t.exchanges
          ∧ response.isSuccess = true ∧ Json.utf8Bytes result.toList = response.body := by
  intro h
  let s : Service := ⟨cannedExtract, ⟨.tenMinutes⟩, true, true⟩
  let response : Response := ⟨200, [], [0xE9], {}⟩
  obtain ⟨text, htext⟩ : ∃ text, response.text = .ok text := ⟨_, rfl⟩
  let network := Network.always (.response response)
  have hcountries : silent.variants.get (some Intent.cannedCountries.api)
      = .ok Settings.standard.countries := rfl
  obtain ⟨query, hquery⟩ : ∃ query, silent.query (.canned (some "countries")) = .ok query := by
    rw [canned_countries]
    exact ⟨_, query_unmapped named_silent hcountries rfl⟩
  have hsent : (dispatch silent.variants (.string query)
      (some (Intent.canned (some "countries")).api) network).1
        = .ok text := by
    rw [canned_countries, dispatch_registered hcountries]
    exact (Variant.outcome_of_text htext).trans (if_pos rfl)
  obtain ⟨records, r, hrecords, hget, hresult⟩ : ∃ records r,
      (finish (Service.Operation.plan s) (fun _ => Moment.first) [.execute "P" "countries"]
        (silent.opening Moment.first.clock network)).Records records
      ∧ records.get? (promptKey "P") = some r
      ∧ r.result = some text := by
    rw [finish, finish]
    exact left_by_execute rfl (fun _ => rfl) rfl hquery Moment.first.clock hsent
  obtain ⟨t, ht, request, response, hmem, -, hbytes⟩ :=
    h silent s _ Moment.first.clock network [.execute "P" "countries"] records _ r _ hrecords hget
      hresult
  rw [turns, turns] at ht
  have hbefore : t.before.world.network = network := by
    rw [List.mem_singleton.1 ht, turn_before]
    rfl
  rw [Turn.exchanges, hbefore] at hmem
  rcases Network.reply_of_mem_exchanges hmem with hpending | hreply
  · cases hpending
  · obtain rfl := Reply.response.inj hreply
    exact utf8Bytes_ne_lead _ hbytes

end Catalogue

end ConceptQuery
