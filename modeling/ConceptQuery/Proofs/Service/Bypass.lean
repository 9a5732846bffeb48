import ConceptQuery.Proofs.Service.Answer

/-!
# Requests during an outage

A service that goes on without its cache is not failed by it. Whichever calls on the memory fail in
the course of a request, the request is answered as one over a memory in order: over the same
records, or over records without the one of its prompt.

* `Plan.calls`, `reflected` — the calls of a plan, and what they make of the records;
* `Service.Bypasses`, `bypasses_outages` — the request during an outage.
-/

namespace ConceptQuery

open Cache Http Ontology

variable {course : Nat → Moment} {stage : Stage} {records : Table (Record String)}
  {prompt : String} {s : Service}

/-! ### What the calls of a plan leave behind -/

/-- The calls that a plan makes in given surroundings. -/
def Plan.calls {α σ : Type} (answer : (c : Call) → σ → Except Failure c.Answer × σ) :
    Plan α → σ → List Call
  | .done _, _ => []
  | .ask c next, s => c :: (next (answer c s).1).calls answer (answer c s).2

/-- The records after a call with a number: a save or removal that did not fail is seen in them. -/
def reflect (course : Nat → Moment) (n : Nat) (records : Table (Record String)) :
    Call → Table (Record String)
  | .save r => if fails course n .save then records else records.insert r.key r
  | .remove key => if fails course n .remove then records else records.erase key
  | _ => records

/-- The records after calls whose numbers begin at `n`. -/
def reflected (course : Nat → Moment) (n : Nat) (records : Table (Record String)) :
    List Call → Table (Record String)
  | [] => records
  | c :: rest => reflected course (n + 1) (reflect course n records c) rest

/-- A call leaves the records that are reflected. The cases are the calls. -/
theorem records_answerAt (course : Nat → Moment) (c : Call) (hs : stage.Records records) :
    (answerAt course c stage).2.Records (reflect course stage.calls records c)
      ∧ (answerAt course c stage).2.calls = stage.calls + 1 := by
  cases c with
  | fetch key =>
    obtain ⟨stage', hrun, hrecords, hcalls⟩ := answerAt_fetch course key hs
    rw [hrun]
    exact ⟨hrecords, hcalls⟩
  | stats =>
    obtain ⟨stage', hrun, hrecords, hcalls⟩ := answerAt_stats course hs
    rw [hrun]
    exact ⟨hrecords, hcalls⟩
  | save r =>
    obtain ⟨stage', hrun, hrecords, hcalls⟩ := answerAt_save course r hs
    rw [hrun]
    exact ⟨hrecords, hcalls⟩
  | remove key =>
    obtain ⟨stage', hrun, hrecords, hcalls⟩ := answerAt_remove course key hs
    rw [hrun]
    exact ⟨hrecords, hcalls⟩
  | _ =>
    obtain ⟨⟨clock, backend, stores, network⟩, n⟩ := stage
    obtain ⟨down, rfl⟩ := hs
    exact ⟨⟨_, rfl⟩, rfl⟩

/-- **A plan over a memory** leaves what those of its calls make that did not fail. -/
theorem records_run {α : Type} (p : Plan α) (course : Nat → Moment) (hs : stage.Records records) :
    (p.run (answerAt course) stage).2.Records
      (reflected course stage.calls records (p.calls (answerAt course) stage)) := by
  induction p generalizing stage records with
  | done result => exact hs
  | ask c next ih =>
    obtain ⟨hrecords, hcalls⟩ := records_answerAt course c hs
    have hrest := ih (answerAt course c stage).1 hrecords
    rw [hcalls] at hrest
    exact hrest

/-! ### Outages -/

/-- The same course with the memory in order. -/
def inOrder (course : Nat → Moment) (n : Nat) : Moment :=
  { course n with down := [] }

/-- Two courses that differ at most in whether records can be saved. -/
def SameButSaves (course course' : Nat → Moment) : Prop :=
  ∀ n, (course' n).clock = (course n).clock ∧ ∀ o, o ≠ .save → fails course' n o = fails course n o

/-- The same surroundings, with the record of a key taken out of the memory. -/
def Stage.without (key : String) (stage : Stage) : Stage :=
  { stage with
    world := { stage.world with
      backend := match stage.world.backend with
        | .memory m => .memory { m with records := m.records.erase key }
        | b => b } }

/-- **A request during an outage.** -/
structure Service.Bypasses (s : Service) (sends : Bool) (prompt api : String)
    (course : Nat → Moment) (stage : Stage) (records : Table (Record String)) : Prop where
  /-- The cache does not fail the request. -/
  no_outage : ∀ reason,
    (s.shown sends prompt api course stage).1 = .error (.cacheUnavailable reason) →
      s.extract prompt api = .error (.cacheUnavailable reason)
  /-- If the look for the prompt fails, the request is one over a memory in order that has no record
  of the prompt. -/
  as_miss : lookFails s.cache.ttl.micros course stage.calls records (promptKey prompt) = true →
    s.shown sends prompt api course stage
        = s.shown sends prompt api (inOrder course) (stage.without (promptKey prompt))
      ∧ ∀ o, (s.shown sends prompt api course stage).1 = .ok o → o.cacheHit = false
  /-- Otherwise it is one over the same memory in order. -/
  as_in_order :
    lookFails s.cache.ttl.micros course stage.calls records (promptKey prompt) = false →
      s.shown sends prompt api course stage = s.shown sends prompt api (inOrder course) stage
  /-- It is the same whichever records can be saved. -/
  saves : ∀ course', SameButSaves course course' →
    s.shown sends prompt api course' stage = s.shown sends prompt api course stage
  /-- It sends at most one request, and none if only the query is asked for. -/
  once : ∃ r : Option Request,
    (s.shown sends prompt api course stage).2.sent = stage.world.network.sent ++ r.toList
      ∧ (sends = false → r = none)
  /-- The calls that did not fail are what the memory reflects. -/
  reflects : ((s.request sends prompt api).run (answerAt course) stage).2.Records
    (reflected course stage.calls records
      ((s.request sends prompt api).calls (answerAt course) stage))

theorem down_inOrder (course : Nat → Moment) (n : Nat) : (inOrder course n).down = [] :=
  rfl

theorem endures_inOrder (s : Service) (course : Nat → Moment) : s.Endures (inOrder course) :=
  .inr (down_inOrder course)

theorem records_without (key : String) (hs : stage.Records records) :
    (stage.without key).Records (records.erase key) := by
  obtain ⟨down, hdown⟩ := hs
  refine ⟨down, ?_⟩
  unfold Stage.without
  rw [hdown]

theorem found_failed {n : Nat}
    (h : lookFails s.cache.ttl.micros course n records (promptKey prompt) = true) :
    s.found course n records prompt = none :=
  if_pos h

theorem found_of_lookFails_eq_false {n : Nat}
    (h : lookFails s.cache.ttl.micros course n records (promptKey prompt) = false) :
    s.found course n records prompt = s.found (inOrder course) n records prompt := by
  rw [found_of_up (down_inOrder course), Service.found, h]
  rfl

theorem found_sameButSaves {course' : Nat → Moment} (h : SameButSaves course course') (n : Nat) :
    s.found course' n records prompt = s.found course n records prompt := by
  unfold Service.found lookFails
  rw [(h n).2 .fetch (by decide), (h (n + 2)).2 .remove (by decide), (h (n + 1)).1]

/-- **A service that goes on without its cache** during any outages: both kinds of requests are
bypassed, while a look for a prompt and the removal of its record fail as the memory does. -/
theorem bypasses_outages (hbypass : s.bypass = true) (hs : stage.Records records)
    (course : Nat → Moment) (prompt api : String) :
    (∀ sends, s.Bypasses sends prompt api course stage records)
      ∧ ((s.lookup prompt).run (answerAt course) stage).1
        = (if lookFails s.cache.ttl.micros course stage.calls records (promptKey prompt) then
            .error Memory.isDown
          else .ok ((liveRecord s.cache.ttl.micros (course (stage.calls + 1)).clock records
            (promptKey prompt)).map (·.map .string)))
      ∧ ((s.invalidate prompt).run (answerAt course) stage).1
        = if fails course stage.calls .remove then .error Memory.isDown else .ok () := by
  have hstaged (course : Nat → Moment) (sends : Bool) :
      s.shown sends prompt api course stage = s.staged sends prompt api
        (s.found course stage.calls records prompt) stage.world.stores stage.world.network :=
    request_eq_staged hs (.inl hbypass) sends prompt api
  refine ⟨fun sends => ?_, ?_, ?_⟩
  · refine ⟨?_, ?_, ?_, ?_, ?_, records_run _ course hs⟩
    · intro reason hreason
      rw [hstaged] at hreason
      exact extract_of_staged_outage hreason
    · intro hfailed
      have hmiss := hstaged course sends
      rw [found_failed hfailed] at hmiss
      refine ⟨?_, ?_⟩
      · rw [request_eq_staged (records_without _ hs) (endures_inOrder s course),
          found_of_up (down_inOrder course), liveRecord, Table.get?_erase_self]
        exact hmiss
      · intro o ho
        rw [hmiss] at ho
        exact cacheHit_staged_none ho
    · intro hlook
      rw [hstaged, hstaged, found_of_lookFails_eq_false hlook]
    · intro course' hsame
      rw [hstaged, hstaged, found_sameButSaves hsame]
    · rw [hstaged]
      exact sent_staged s sends prompt api _ _ _
  · obtain ⟨stage', hrun, -, -⟩ := run_look course s.cache prompt hs
    exact congrArg Prod.fst hrun
  · obtain ⟨stage', hrun, -, -⟩ := run_delete course prompt hs
    exact congrArg Prod.fst hrun

/-- A record that has reached its lifetime and cannot be taken away, nor be replaced at first. -/
theorem bypasses_outages_expired :
    let s : Service := ⟨fun prompt _ => .ok prompt, ⟨.tenMinutes⟩, true, true⟩
    let prompt := "\x7b\"target\": \"Country\", \"identifier\": \"BR\", \"subEntity\": "
      ++ "\"Language\", \"limit\": 5, \"fields\": [\"name\"], \"api\": \"geo\"\x7d"
    let record := recordAt prompt "query" "text" (some "result") Moment.first.clock
    let stage : Stage := ⟨{ Pipeline.geo.opening Moment.first.clock (.always default) with
      backend := .memory ⟨.ofList [(promptKey prompt, record)], []⟩ }, 0⟩
    let later : Timestamp := (Timestamp.ofClock? 600000000 0).get (by decide)
    let course (n : Nat) : Moment := ⟨later, if n < 5 then [.remove, .save] else []⟩
    (∀ sends, s.Bypasses sends prompt "geo" course stage (.ofList [(promptKey prompt, record)]))
      ∧ ((s.lookup prompt).run (answerAt course) stage).1 = .error Memory.isDown
      ∧ ((s.invalidate prompt).run (answerAt course) stage).1 = .error Memory.isDown := by
  intro s prompt record stage later course
  have hs : stage.Records (.ofList [(promptKey prompt, record)]) := ⟨[], rfl⟩
  obtain ⟨hbypasses, hlookup, hinvalidate⟩ := bypasses_outages (s := s) rfl hs course prompt "geo"
  refine ⟨hbypasses, ?_, hinvalidate⟩
  have hget : (Table.ofList [(promptKey prompt, record)]).get? (promptKey prompt) = some record :=
    Table.get?_insert_self .empty _ _
  have hfailed : lookFails s.cache.ttl.micros course 0 (.ofList [(promptKey prompt, record)])
      (promptKey prompt) = true := by
    unfold lookFails
    rw [hget]
    rfl
  rw [hlookup, show stage.calls = 0 from rfl, hfailed]
  rfl

end ConceptQuery
