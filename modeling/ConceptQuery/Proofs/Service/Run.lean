import ConceptQuery.Service.World

/-!
# Runs of operations

Operations are carried out one after the other.  Between any two calls on the surroundings the clock
may move and operations of the memory may fail or recover, also within an operation.

* `Moment`, `World.at` — how things stand when a call is made;
* `Stage`, `answerAt` — surroundings in the course of a run, and their answers;
* `Turn`, `turns`, `finish` — one operation with its reply, all turns of a run, and the surroundings
  after it;
* `forall_turns`, `invariant_finish` — what every turn of a run has in common, and what all of them
  bring about;
* `turns_alike` — two runs that look alike;
* `Service.Operation`, `PromptCache.Operation` — the operations of the service and of its cache.
-/

namespace ConceptQuery

open Cache Http

/-! ### The course of a run -/

/-- How things stand when a call is made. -/
structure Moment where
  clock : Timestamp
  /-- The operations of the memory that are out of order. -/
  down : List Memory.Operation

/-- The first moment of the calendar, with everything in order. -/
def Moment.first : Moment := ⟨(Timestamp.ofClock? 0 0).get (by decide), []⟩

/-- Surroundings as they stand at a moment. -/
def World.at (w : World) (m : Moment) : World :=
  { w with
    clock := m.clock
    backend := match w.backend with
      | .memory b => .memory { b with down := m.down }
      | b => b }

/-- Surroundings in the course of a run, with the number of calls made so far. -/
structure Stage where
  world : World
  calls : Nat

/-- The answer to the next call; `course` tells the moment of every call. -/
def answerAt (course : Nat → Moment) (c : Call) (s : Stage) : Except Failure c.Answer × Stage :=
  let (answer, world) := World.answer c (s.world.at (course s.calls))
  (answer, ⟨world, s.calls + 1⟩)

/-- One operation of a run. -/
structure Turn (ω ρ : Type) where
  operation : ω
  reply : Except Failure ρ
  before : Stage
  after : Stage

variable {ω ρ : Type}

/-- The requests that were sent in a turn. -/
def Turn.sent (t : Turn ω ρ) : List Request :=
  t.after.world.network.sent.drop t.before.world.network.sent.length

/-- The turn of an operation. -/
def turn (plan : ω → Plan ρ) (course : Nat → Moment) (o : ω) (s : Stage) : Turn ω ρ :=
  let (reply, after) := (plan o).run (answerAt course) s
  ⟨o, reply, s, after⟩

/-- The turns of operations, one after the other. -/
def turns (plan : ω → Plan ρ) (course : Nat → Moment) : List ω → Stage → List (Turn ω ρ)
  | [], _ => []
  | o :: rest, s => turn plan course o s :: turns plan course rest (turn plan course o s).after

/-- The surroundings after operations. -/
def finish (plan : ω → Plan ρ) (course : Nat → Moment) : List ω → Stage → Stage
  | [], s => s
  | o :: rest, s => finish plan course rest (turn plan course o s).after

/-- A plan that shows the result of another one. -/
theorem Plan.run_map {α β σ : Type} {answer : (c : Call) → σ → Except Failure c.Answer × σ}
    (p : Plan α) (f : α → β) (s : σ) : (do return f (← p) : Plan β).run answer s
      = ((p.run answer s).1.map f, (p.run answer s).2) := by
  show (p.thenResult _).run answer s = _
  rw [Plan.run_thenResult]
  cases (p.run answer s).1 <;> rfl

/-- The turn of an operation that shows the result of a plan. -/
theorem turn_map {α : Type} {plan : ω → Plan ρ} {course : Nat → Moment} {o : ω} {s : Stage}
    {p : Plan α} {f : α → ρ} (h : plan o = do return f (← p)) :
    turn plan course o s
      = ⟨o, (p.run (answerAt course) s).1.map f, s, (p.run (answerAt course) s).2⟩ := by
  rw [turn, h, Plan.run_map]

/-- **What holds of every turn of a run**: it holds of a turn that begins as it should, and every
turn leaves things as they should be for the next. -/
theorem forall_turns {plan : ω → Plan ρ} {course : Nat → Moment} {Inv : Stage → Prop}
    {P : Turn ω ρ → Prop}
    (hturn : ∀ o s, Inv s → P (turn plan course o s) ∧ Inv (turn plan course o s).after)
    (operations : List ω) {s : Stage} (hs : Inv s) : ∀ t ∈ turns plan course operations s, P t := by
  induction operations generalizing s with
  | nil =>
    intro t ht
    cases ht
  | cons o rest ih =>
    obtain ⟨hfirst, hafter⟩ := hturn o s hs
    intro t ht
    rcases List.mem_cons.1 ht with rfl | ht
    · exact hfirst
    · exact ih hafter t ht

/-- **What every run brings about**: it holds before the first turn, and every turn adds to it. -/
theorem invariant_finish {plan : ω → Plan ρ} {course : Nat → Moment}
    {Inv : List (Turn ω ρ) → Stage → Prop}
    (hturn : ∀ earlier o s, Inv earlier s →
      Inv (earlier ++ [turn plan course o s]) (turn plan course o s).after)
    (operations : List ω) {earlier : List (Turn ω ρ)} {s : Stage} (hs : Inv earlier s) :
    Inv (earlier ++ turns plan course operations s) (finish plan course operations s) := by
  induction operations generalizing earlier s with
  | nil =>
    rw [turns, List.append_nil]
    exact hs
  | cons o rest ih =>
    have hrest := ih (hturn earlier o s hs)
    rw [List.append_assoc] at hrest
    exact hrest

/-- **Two runs that look alike**: every turn looks alike in related surroundings, and leaves them
related. -/
theorem turns_alike {β : Type} {plan : ω → Plan ρ} {course : Nat → Moment}
    {R : Stage → Stage → Prop} {shown : Turn ω ρ → β}
    (operations : List ω) (hturn : ∀ o ∈ operations, ∀ s s', R s s' →
      shown (turn plan course o s) = shown (turn plan course o s')
        ∧ R (turn plan course o s).after (turn plan course o s').after)
    {s s' : Stage} (hs : R s s') :
    (turns plan course operations s).map shown = (turns plan course operations s').map shown
      ∧ R (finish plan course operations s) (finish plan course operations s') := by
  induction operations generalizing s s' with
  | nil => exact ⟨rfl, hs⟩
  | cons o rest ih =>
    obtain ⟨hfirst, hothers⟩ := List.forall_mem_cons.1 hturn
    obtain ⟨hshown, hafter⟩ := hfirst s s' hs
    obtain ⟨hrest, hfinish⟩ := ih hothers hafter
    refine ⟨?_, hfinish⟩
    rw [turns, turns, List.map_cons, List.map_cons, hshown, hrest]

/-! ### Operations -/

/-- The operations of a service. -/
inductive Service.Operation where
  | execute (prompt api : String)
  | compileOnly (prompt api : String)
  | lookup (prompt : String)
  | invalidate (prompt : String)

/-- What an operation of a service is answered with. -/
inductive Service.Reply where
  | outcome (o : Outcome)
  | found (record : Option (Record Json))
  | finished

/-- What a service does for an operation. -/
def Service.Operation.plan (s : Service) : Service.Operation → Plan Service.Reply
  | .execute prompt api => do return .outcome (← s.execute prompt api)
  | .compileOnly prompt api => do return .outcome (← s.compileOnly prompt api)
  | .lookup prompt => do return .found (← s.lookup prompt)
  | .invalidate prompt => do
    s.invalidate prompt
    return .finished

namespace Service

variable {s : Service} {course : Nat → Moment} {stage : Stage} {prompt api : String}

theorem turn_execute : turn (Operation.plan s) course (.execute prompt api) stage
    = ⟨.execute prompt api, ((s.execute prompt api).run (answerAt course) stage).1.map .outcome,
      stage, ((s.execute prompt api).run (answerAt course) stage).2⟩ :=
  turn_map rfl

theorem turn_compileOnly : turn (Operation.plan s) course (.compileOnly prompt api) stage
    = ⟨.compileOnly prompt api,
      ((s.compileOnly prompt api).run (answerAt course) stage).1.map .outcome,
      stage, ((s.compileOnly prompt api).run (answerAt course) stage).2⟩ :=
  turn_map rfl

theorem turn_lookup : turn (Operation.plan s) course (.lookup prompt) stage
    = ⟨.lookup prompt, ((s.lookup prompt).run (answerAt course) stage).1.map .found,
      stage, ((s.lookup prompt).run (answerAt course) stage).2⟩ :=
  turn_map rfl

theorem turn_invalidate : turn (Operation.plan s) course (.invalidate prompt) stage
    = ⟨.invalidate prompt,
      ((s.invalidate prompt).run (answerAt course) stage).1.map fun _ => .finished,
      stage, ((s.invalidate prompt).run (answerAt course) stage).2⟩ :=
  turn_map rfl

end Service

/-- The operations of a cache. -/
inductive PromptCache.Operation where
  | put (prompt query intentText : String) (result : Option String)
  | get (prompt : String)
  | delete (prompt : String)
  | stats

/-- What an operation of a cache is answered with. -/
inductive PromptCache.Reply where
  | written (record : Record String)
  | found (record : Option (Record Json))
  | finished
  | stats (s : Stats)

/-- What a cache does for an operation. -/
def PromptCache.Operation.plan (c : PromptCache) : PromptCache.Operation → Plan PromptCache.Reply
  | .put prompt query intentText result => do
    return .written (← PromptCache.put prompt query intentText result)
  | .get prompt => do return .found (← c.get prompt)
  | .delete prompt => do
    PromptCache.delete prompt
    return .finished
  | .stats => do return .stats (← PromptCache.stats)

namespace PromptCache

variable {c : PromptCache} {course : Nat → Moment} {stage : Stage} {prompt : String}

theorem turn_put {query intentText : String} {result : Option String} :
    turn (Operation.plan c) course (.put prompt query intentText result) stage
      = ⟨.put prompt query intentText result,
        ((put prompt query intentText result).run (answerAt course) stage).1.map .written,
        stage, ((put prompt query intentText result).run (answerAt course) stage).2⟩ :=
  turn_map rfl

theorem turn_get : turn (Operation.plan c) course (.get prompt) stage
    = ⟨.get prompt, ((c.get prompt).run (answerAt course) stage).1.map .found,
      stage, ((c.get prompt).run (answerAt course) stage).2⟩ :=
  turn_map rfl

theorem turn_delete : turn (Operation.plan c) course (.delete prompt) stage
    = ⟨.delete prompt, ((delete prompt).run (answerAt course) stage).1.map fun _ => .finished,
      stage, ((delete prompt).run (answerAt course) stage).2⟩ :=
  turn_map rfl

theorem turn_stats : turn (Operation.plan c) course .stats stage
    = ⟨.stats, (stats.run (answerAt course) stage).1.map .stats, stage,
      (stats.run (answerAt course) stage).2⟩ :=
  turn_map rfl

end PromptCache

end ConceptQuery
