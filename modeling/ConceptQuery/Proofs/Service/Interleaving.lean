import ConceptQuery.Proofs.Service.Crowd
import ConceptQuery.Proofs.Service.Transparency

/-!
# Requests in turns over one cache

Any number of requests share one memory and take turns call by call. The cache stays safe: each
request carries what it found or compiled from call to call, and nothing that another one does in
between makes it write, send or tell anything but what is made from scratch for its own prompt.

* `Service.Operation.prompt`, `Pipeline.contractOf`, `Pipeline.Replies` — what every operation does
  by itself;
* `meets_operation`, `replies_after` — and does still, in turns with any others;
* `Client.Wrote`, `Client.Checked` — the one write of a record, and the check of its age;
* `Pipeline.Safe`, `safe_after` — every state that can be reached is safe.
-/

namespace ConceptQuery

open Cache Http Ontology

/-- Requests and other operations on one service, in turns. -/
abbrev Service.Crowd := ConceptQuery.Crowd Service.Operation Service.Reply

/-- The prompt that an operation is about. -/
def Service.Operation.prompt : Service.Operation → String
  | .execute prompt _ => prompt
  | .compileOnly prompt _ => prompt
  | .lookup prompt => prompt
  | .invalidate prompt => prompt

namespace Pipeline

variable {k : Pipeline} {s : Service} {course : Nat → Moment} {prompt : String}

/-! ### Each operation by itself -/

/-- What an operation may do: only one that runs its prompt from end to end may send a query. -/
def contractOf (k : Pipeline) (bypass : Bool) : Service.Operation → Contract
  | .execute prompt _ => k.contract bypass true prompt
  | .compileOnly prompt _ => k.contract bypass false prompt
  | .lookup prompt => k.contract bypass false prompt
  | .invalidate prompt => k.contract bypass false prompt

/-- What an operation may reply: a request is answered from scratch, and a record that is looked up
shows what is made from scratch. -/
def Replies (k : Pipeline) (o : Service.Operation) (reply : Except Failure Service.Reply) : Prop :=
  match o with
  | .execute prompt _ => k.Answers true prompt reply
  | .compileOnly prompt _ => k.Answers false prompt reply
  | .lookup prompt => ∀ r, reply = .ok (.found (some r)) → k.Shows prompt r
  | .invalidate _ => True

/-- **Every operation** keeps its contract and replies as it may. -/
theorem meets_operation (hextract : ∀ prompt api, s.extract prompt api = k.extract prompt)
    (o : Service.Operation) : (o.plan s).Meets (k.contractOf s.bypass o) (k.Replies o) := by
  cases o with
  | execute prompt api =>
    apply (meets_execute (hextract prompt api)).bind
    · intro o ho
      exact Gives.answers ho
    · intro f hf
      exact Gives.answers hf
  | compileOnly prompt api =>
    apply (meets_compileOnly (hextract prompt api)).bind
    · intro o ho
      exact Gives.answers ho
    · intro f hf
      exact Gives.answers hf
  | lookup prompt =>
    have hlook : (s.lookup prompt).Meets (k.contract s.bypass false prompt)
        (k.Finds s.bypass prompt) := meets_lookup
    apply hlook.bind
    · intro found hfound r hr
      obtain rfl := Service.Reply.found.inj (Except.ok.inj hr)
      exact Describes.shows hfound
    · intro f _ r hr
      cases hr
  | invalidate prompt =>
    have hdrop : (s.invalidate prompt).Meets (k.contract s.bypass false prompt)
        (Tolerable s.bypass) := meets_invalidate
    exact hdrop.bind (fun _ _ => trivial) fun _ _ => trivial

/-! ### In turns -/

/-- A call that an operation may make is answered as it relies on, and leaves the surroundings as
every other operation relies on. -/
theorem answer_contractOf (hv : k.variants.Named) {bypass : Bool}
    (hpolicy : bypass = true ∨ ∀ n, (course n).down = []) {stage : Stage}
    (hstage : k.Holds stage.world) {o : Service.Operation} {c : Call}
    (hc : (k.contractOf bypass o).allows c) :
    (k.contractOf bypass o).promises c (answerAt course c stage).1
      ∧ k.Holds (answerAt course c stage).2.world := by
  have hcontract {sends : Bool} {prompt : String}
      (hc : (k.contract bypass sends prompt).allows c) :
      (k.contract bypass sends prompt).promises c (answerAt course c stage).1
        ∧ k.Holds (answerAt course c stage).2.world := by
    have hcall : (Plan.call c).Meets (k.contract bypass sends prompt)
        ((k.contract bypass sends prompt).promises c) := Plan.meets_call hc fun _ h => h
    obtain ⟨hpromise, hkeeps⟩ := keeps_run hv hpolicy hcall hstage
    exact ⟨hpromise, hkeeps.holds⟩
  cases o with
  | execute prompt api => exact hcontract hc
  | compileOnly prompt api => exact hcontract hc
  | lookup prompt => exact hcontract hc
  | invalidate prompt => exact hcontract hc

/-- **Every operation replies as it would by itself**, and the surroundings hold only what is made
from scratch, at any point of any run. -/
theorem replies_after (hv : k.variants.Named)
    (hextract : ∀ prompt api, s.extract prompt api = k.extract prompt)
    (hpolicy : s.bypass = true ∨ ∀ n, (course n).down = []) {stage : Stage}
    (hstage : k.Holds stage.world) (moves : List (Move Service.Operation)) :
    let crowd := stage.deserted.after (Service.Operation.plan s) course moves
    k.Holds crowd.stage.world
      ∧ ∀ c ∈ crowd.clients, c.rest.Meets (k.contractOf s.bypass c.operation)
        (k.Replies c.operation) := by
  refine forall_clients (I := fun stage => k.Holds stage.world)
    (P := fun _ c => c.rest.Meets (k.contractOf s.bypass c.operation) (k.Replies c.operation))
    ?_ ?_ ?_ hstage ?_ moves
  · intro _ o _
    exact meets_operation hextract o
  · intro stage c call next hstage hc hrest
    rw [hrest] at hc
    obtain ⟨hpromise, hafter⟩ := answer_contractOf hv hpolicy hstage hc.1
    exact ⟨hafter, hc.2 _ hpromise⟩
  · intro _ _ _ _ d _ _ _ hd
    exact hd
  · intro c hc
    cases hc

end Pipeline

/-! ### Safety -/

/-- A client wrote a record, whole and by one call: it is a request for the prompt of the record,
and composed every field of it from what it had read, compiled and been answered before. -/
def Client.Wrote (s : Service) (c : Client Service.Operation Service.Reply) (r : Record String) :
    Prop :=
  ∃ api i earlier n later,
    (c.operation = .execute r.prompt api ∨ c.operation = .compileOnly r.prompt api)
      ∧ s.intentOf r.prompt api = .ok (i, r.intentText)
      ∧ c.past = earlier ++ ⟨n, .save r, .ok ()⟩ :: later
      ∧ Service.Composes r.prompt r.intentText i earlier r

/-- A client fetched a record for its prompt and then asked for the time, at which the record was
younger than its lifetime. -/
def Client.Checked (course : Nat → Moment) (ttl : Int)
    (c : Client Service.Operation Service.Reply) (r : Record Json) : Prop :=
  ∃ n m later, c.past = ⟨n, .fetch (promptKey c.operation.prompt), .ok (some r)⟩
      :: ⟨m, .now, .ok (course m).clock⟩ :: later
    ∧ (course m).clock.instant - r.createdAt.instant < ttl

/-- **A safe state** of requests in turns over one memory. -/
structure Pipeline.Safe (k : Pipeline) (s : Service) (course : Nat → Moment)
    (crowd : Service.Crowd) : Prop where
  /-- Every record stands under the key of its own prompt, was written whole by one put, and holds
  the query that is compiled from scratch from its own intent text. -/
  records : ∃ records, crowd.stage.Records records ∧ ∀ key r, records.get? key = some r →
    key = promptKey r.prompt ∧ r.key = key
      ∧ (∃ c ∈ crowd.clients, c.Wrote s r)
      ∧ ∃ g, (formulate r.intentText (.unread k.variants k.directory)).1 = .ok g
        ∧ r.query = g.query
  /-- What has finished has replied what is made from scratch for its prompt. -/
  finished : ∀ c ∈ crowd.clients, ∀ reply, c.rest = .done reply → k.Replies c.operation reply
  /-- A hit has the query of a record that was live when it was checked. -/
  hits : ∀ c ∈ crowd.clients, ∀ o, c.rest = .done (.ok (.outcome o)) → o.cacheHit = true →
    ∃ r, c.Checked course s.cache.ttl.micros r ∧ o.query = r.query
  /-- So was a record that is looked up. -/
  lookups : ∀ c ∈ crowd.clients, ∀ r, c.rest = .done (.ok (.found (some r))) →
    c.Checked course s.cache.ttl.micros r

variable {s : Service} {course : Nat → Moment} {c : Client Service.Operation Service.Reply}

/-- A record that a client saved was composed by it. -/
theorem Client.Tells.wrote (h : c.Tells (c.operation.Asks s) (c.operation.Ends s))
    {r : Record String} {n : Nat} (hsaved : ⟨n, .save r, .ok ()⟩ ∈ c.past) :
    c.Wrote s r ∧ r.key = promptKey r.prompt := by
  obtain ⟨earlier, later, hpast⟩ := List.append_of_mem hsaved
  have hasks : c.operation.Asks s earlier (.save r) := h.asked earlier _ later hpast
  obtain ⟨prompt, api, hasked, i, text, hread,
    (hcomposes : Service.Composes prompt text i earlier r)⟩ := hasks.request (.inl ⟨r, rfl⟩)
  have hprompt : r.prompt = prompt := by rw [hcomposes.record_eq]; rfl
  have htext : r.intentText = text := by rw [hcomposes.record_eq]; rfl
  have hkey : r.key = promptKey prompt := by rw [hcomposes.record_eq]; rfl
  subst hprompt htext
  have ho := Service.Operation.asked?_eq_some.1 hasked
  exact ⟨⟨api, i, earlier, n, later, ho, hread, hpast, hcomposes⟩, hkey⟩

/-- What was found live by the account of a client was checked against the clock. -/
theorem Client.Timed.checked {calls : Nat} (h : c.Timed course calls) {n m : Nat}
    {r : Record Json} {t : Timestamp} {later : List Answered} {ttl : Int}
    (hpast : c.past = ⟨n, .fetch (promptKey c.operation.prompt), .ok (some r)⟩
      :: ⟨m, .now, .ok t⟩ :: later) (hlive : r.isExpired ttl t = false) :
    c.Checked course ttl r := by
  have ht : t = (course m).clock := by
    apply Except.ok.inj
    apply h.clock m
    rw [hpast]
    exact List.mem_cons_of_mem _ List.mem_cons_self
  subst ht
  exact ⟨n, m, later, hpast, Int.not_le.1 (of_decide_eq_false hlive)⟩

/-- A hit has the query of a record that was checked. -/
theorem Client.Timed.checked_hit {calls : Nat} (h : c.Timed course calls)
    (htells : c.Tells (c.operation.Asks s) (c.operation.Ends s)) {o : Outcome}
    (hdone : c.rest = .done (.ok (.outcome o))) (hhit : o.cacheHit = true) :
    ∃ r, c.Checked course s.cache.ttl.micros r ∧ o.query = r.query := by
  have hends := htells.rest
  rw [hdone] at hends
  obtain ⟨api, i, text, hasked, -, haccounts⟩ := Service.Operation.Ends.outcome hends
  have hprompt : c.operation.prompt = o.prompt := by
    rcases Service.Operation.asked?_eq_some.1 hasked with ho | ho <;> rw [ho] <;> rfl
  have hsourced := haccounts.sourced
  rw [hhit, ← hprompt] at hsourced
  generalize hquery : o.query = query at hsourced
  cases hsourced with
  | found hpast hlive => exact ⟨_, h.checked hpast hlive, rfl⟩

/-- A record that is looked up was checked. -/
theorem Client.Timed.checked_lookup {calls : Nat} (h : c.Timed course calls)
    (htells : c.Tells (c.operation.Asks s) (c.operation.Ends s)) {r : Record Json}
    (hdone : c.rest = .done (.ok (.found (some r)))) : c.Checked course s.cache.ttl.micros r := by
  have hends := htells.rest
  rw [hdone] at hends
  obtain ⟨prompt, ho, hlooked⟩ := Service.Operation.Ends.found hends
  generalize hpast : c.past = past at hlooked
  cases hlooked with
  | live hlive => exact h.checked (by rw [ho]; exact hpast) hlive

namespace Pipeline

variable {k : Pipeline}

/-- The text of what is made from scratch is formulated as its query. -/
theorem formulate_of_scratch {prompt text : String} {g : Formulation}
    (h : k.scratch prompt = .ok (text, g)) :
    (formulate text (.unread k.variants k.directory)).1 = .ok g := by
  unfold scratch at h
  obtain ⟨text', -, hrest⟩ := Except.bind_eq_ok.1 h
  obtain ⟨g', hg, hpair⟩ := Except.bind_eq_ok.1 hrest
  obtain ⟨rfl, rfl⟩ := Prod.mk.inj (Except.ok.inj hpair)
  exact hg

/-- **Every state that can be reached is safe.** Any number of operations arrive at a service over
an empty memory and take turns in any order, while the clock moves in any way and, if cache outages
are tolerated, operations of the memory fail. Then every record was written whole by one put, under
the key of its own prompt and with the query that its own intent text gives from scratch; what has
finished has replied what is made from scratch for its prompt; and no hit comes from a record that
had reached its lifetime when it was checked. -/
theorem safe_after {ds : List Variant.Description}
    (hvariants : Registry.ofDescriptions ds = .ok k.variants)
    (hextract : ∀ prompt api, s.extract prompt api = k.extract prompt)
    (hpolicy : s.bypass = true ∨ ∀ n, (course n).down = []) (clock : Timestamp) (network : Network)
    (moves : List (Move Service.Operation)) :
    k.Safe s course ((⟨k.opening clock network, 0⟩ : Stage).deserted.after
      (Service.Operation.plan s) course moves) := by
  have hv := Registry.named_ofDescriptions hvariants
  have hopening : k.Holds (⟨k.opening clock network, 0⟩ : Stage).world :=
    holds_opening k clock network
  obtain ⟨hholds, hreplies⟩ := replies_after hv hextract hpolicy hopening moves
  have htells := tells_after (Service.tells_operation s) course ⟨k.opening clock network, 0⟩ moves
  have htimed := timed_after (Service.Operation.plan s) course ⟨k.opening clock network, 0⟩ moves
  refine ⟨?_, ?_, ?_, ?_⟩
  · obtain ⟨records, hrecords, hwritten⟩ :=
      kept_after (Service.Operation.plan s) course
        (s := ⟨k.opening clock network, 0⟩) ⟨[], rfl⟩ moves
    refine ⟨records, hrecords, fun key r hget => ?_⟩
    obtain ⟨hkey, n, c, hc, hsaved⟩ := hwritten key r hget
    obtain ⟨hwrote, hprompt⟩ := (htells c hc).wrote hsaved
    obtain ⟨m, hm, hfills⟩ := hholds.backend
    -- the records that clients wrote are those that hold what is made from scratch
    obtain ⟨down, hdown⟩ := hrecords
    rw [hm] at hdown
    obtain rfl := Backend.memory.inj hdown
    obtain ⟨-, prompt, hmade⟩ := hfills key r hget
    obtain ⟨g, hscratch, hquery⟩ := hmade.scratch_eq
    exact ⟨hkey.symm.trans hprompt, hkey, ⟨c, hc, hwrote⟩, g, formulate_of_scratch hscratch,
      hquery⟩
  · intro c hc reply hdone
    have hmeets := hreplies c hc
    rw [hdone] at hmeets
    exact hmeets
  · intro c hc o hdone hhit
    exact (htimed c hc).checked_hit (htells c hc) hdone hhit
  · intro c hc r hdone
    exact (htimed c hc).checked_lookup (htells c hc) hdone

/-- Two requests that miss the same prompt and write its record one after the other, a third client
that looks it up while a fourth one drops it, and a clock that has moved by ten minutes in
between. -/
theorem safe_after_two_misses :
    let prompt := "\x7b\"target\": \"Country\", \"identifier\": \"BR\", \"subEntity\": "
      ++ "\"Language\", \"limit\": 5, \"fields\": [\"name\"], \"api\": \"geo\"\x7d"
    let s : Service := ⟨fun prompt _ => .ok prompt, ⟨.tenMinutes⟩, true, true⟩
    let later : Timestamp := (Timestamp.ofClock? 600000000 0).get (by decide)
    let course (n : Nat) : Moment := ⟨if n < 7 then Moment.first.clock else later, []⟩
    let moves : List (Move Service.Operation) :=
      [.arrive (.execute prompt "geo"), .arrive (.execute prompt "geo"), .call 0, .call 1, .call 1,
        .call 0, .call 0, .call 1, .call 0, .call 1, .arrive (.lookup prompt), .call 2,
        .arrive (.invalidate prompt), .call 3, .call 2, .call 1]
    geo.Safe s course
      ((⟨geo.opening Moment.first.clock (.always default), 0⟩ : Stage).deserted.after
        (Service.Operation.plan s) course moves) := by
  intro prompt s later course moves
  have hvariants : Registry.ofDescriptions [⟨"geo", "simple", "geo.ttl", "http://geo", none⟩]
      = .ok geo.variants := rfl
  exact safe_after hvariants (fun _ _ => rfl) (.inl rfl) Moment.first.clock (.always default) moves

end Pipeline

end ConceptQuery
