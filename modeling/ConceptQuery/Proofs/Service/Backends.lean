import ConceptQuery.Proofs.Cache.Redis
import ConceptQuery.Proofs.Service.Contract
import ConceptQuery.Proofs.Service.Run

/-!
# Backends are interchangeable

With a clock of universal time, a service and its cache over a server with hashes cannot be told
from the same service and cache over a memory: neither by their answers, the name and the place of
the backend apart, nor by the requests that are sent, nor by the number of entries.

* `Service.AnyOperation`, `Service.anyPlan` — the operations of a service and of its cache;
* `Turn.shown` — what is seen of a turn from outside;
* `universalTime` — the calls of all operations but the statistics;
* `Alike`, `Alike.answer`, `shown_eq_of_alike` — surroundings that differ only in their backend,
  calls and turns in them;
* `shown_redis_eq_memory` — the runs.
-/

namespace ConceptQuery

open Cache Http

/-! ### Operations -/

/-- An operation of a service, or of its cache. -/
abbrev Service.AnyOperation := Service.Operation ⊕ PromptCache.Operation

/-- What an operation of a service or of its cache is answered with. -/
abbrev Service.AnyReply := Service.Reply ⊕ PromptCache.Reply

/-- What a service or its cache does for an operation. -/
def Service.anyPlan (s : Service) : Service.AnyOperation → Plan Service.AnyReply
  | .inl o => do return .inl (← o.plan s)
  | .inr o => do return .inr (← o.plan s.cache)

/-- A reply without the name and the place of the backend. -/
def PromptCache.Reply.anonymous : PromptCache.Reply → PromptCache.Reply
  | .stats s => .stats ⟨"", none, s.totalEntries⟩
  | reply => reply

/-- What is seen of a turn from outside: its operation, its reply up to the name and the place of
the backend, and the requests that were sent. -/
def Turn.shown (t : Turn Service.AnyOperation Service.AnyReply) :
    Service.AnyOperation × Except Failure Service.AnyReply × List Request :=
  (t.operation, t.reply.map (Sum.map id PromptCache.Reply.anonymous), t.sent)

/-! ### Calls -/

/-- Records that are written were made in universal time, provided that this is what the clock
shows; the statistics are not asked for. -/
def universalTime : Contract where
  allows
    | .save r => r.createdAt.offset = 0
    | .stats => False
    | .health => False
    | _ => True
  promises
    | .now, answer => ∀ t, answer = .ok t → t.offset = 0
    | _, _ => True

variable {s : Service} {prompt query intentText api : String} {result : Option String}

theorem within_get (c : PromptCache) : (c.get prompt).Within universalTime :=
  c.within_get trivial trivial trivial

/-- A record is made at the time that the clock shows. -/
theorem allows_save (createdAt : Timestamp) (h : universalTime.promises .now (.ok createdAt)) :
    universalTime.allows (.save ⟨promptKey prompt, prompt, intentText, query, result, createdAt⟩) :=
  h createdAt rfl

theorem within_put : (PromptCache.put prompt query intentText result).Within universalTime :=
  PromptCache.within_put trivial allows_save

theorem within_delete : (PromptCache.delete prompt).Within universalTime :=
  Plan.within_call trivial

theorem within_execute : (s.execute prompt api).Within universalTime := by
  apply (Plan.within_done _).bind
  rintro ⟨i, intentText⟩
  apply (Service.within_tolerate (within_get s.cache)).bind
  intro found
  cases found with
  | some record =>
    dsimp only
    split
    · exact Plan.within_done _
    · exact (Plan.within_call trivial).bind fun _ => Plan.within_done _
  | none =>
    apply (Service.within_compileFresh trivial trivial fun _ => allows_save).bind
    intro query
    apply (Plan.within_call trivial).bind
    intro result
    dsimp only
    split
    · exact (Service.within_store trivial allows_save).bind fun _ => Plan.within_done _
    · exact Plan.within_done _

theorem within_compileOnly : (s.compileOnly prompt api).Within universalTime :=
  Service.within_compileOnly trivial trivial trivial (fun _ => trivial) fun _ _ => allows_save

theorem within_anyPlan (s : Service) {o : Service.AnyOperation} (ho : o ≠ .inr .stats) :
    (s.anyPlan o).Within universalTime := by
  rcases o with o | o
  · refine Plan.Within.bind ?_ fun _ => Plan.within_done _
    cases o with
    | execute prompt api => exact within_execute.bind fun _ => Plan.within_done _
    | compileOnly prompt api => exact within_compileOnly.bind fun _ => Plan.within_done _
    | lookup prompt => exact (within_get s.cache).bind fun _ => Plan.within_done _
    | invalidate prompt => exact within_delete.bind fun _ => Plan.within_done _
  · refine Plan.Within.bind ?_ fun _ => Plan.within_done _
    cases o with
    | put prompt query intentText result => exact within_put.bind fun _ => Plan.within_done _
    | get prompt => exact (within_get s.cache).bind fun _ => Plan.within_done _
    | delete prompt => exact within_delete.bind fun _ => Plan.within_done _
    | stats => exact absurd rfl ho

/-! ### Surroundings -/

/-- Surroundings that differ only in their backend: a memory, and a server whose hashes, under keys
with some prefix, are those of the records of the memory. -/
structure Alike (keyPrefix : String) (onMemory onRedis : Stage) : Prop where
  calls_eq : onMemory.calls = onRedis.calls
  stores_eq : onMemory.world.stores = onRedis.world.stores
  network_eq : onMemory.world.network = onRedis.world.network
  backends : ∃ m r, onMemory.world.backend = .memory m ∧ onRedis.world.backend = .redis r
    ∧ r.Mirrors m.records ∧ r.keyPrefix = keyPrefix

variable {course : Nat → Moment} {keyPrefix : String} {a b : Stage}

/-- **Every call but that for the statistics is answered alike.** The cases are the calls: those on
the cache are answered by the memory and by what mirrors it, all others by what is the same in
both. -/
theorem Alike.answer (hup : ∀ n, (course n).down = []) (hutc : ∀ n, (course n).clock.offset = 0)
    {c : Call} (hc : universalTime.allows c) (h : Alike keyPrefix a b) :
    (answerAt course c a).1 = (answerAt course c b).1
      ∧ universalTime.promises c (answerAt course c a).1
      ∧ Alike keyPrefix (answerAt course c a).2 (answerAt course c b).2 := by
  obtain ⟨⟨clock, backend, stores, network⟩, n⟩ := a
  obtain ⟨⟨clock', backend', stores', network'⟩, n'⟩ := b
  obtain ⟨rfl, rfl, rfl, m, r, rfl, rfl, hmirrors, rfl⟩ := h
  have hat : World.at ⟨clock, .memory m, stores, network⟩ (course n)
      = ⟨(course n).clock, .memory ⟨m.records, []⟩, stores, network⟩ := by
    unfold World.at
    dsimp only
    rw [hup]
  have hanswer (c : Call) : answerAt course c ⟨⟨clock, .memory m, stores, network⟩, n⟩
      = ((World.answer c ⟨(course n).clock, .memory ⟨m.records, []⟩, stores, network⟩).1,
        ⟨(World.answer c ⟨(course n).clock, .memory ⟨m.records, []⟩, stores, network⟩).2,
          n + 1⟩) := by
    rw [← hat]
    rfl
  rw [hanswer]
  cases c with
  | now =>
    refine ⟨rfl, ?_, rfl, rfl, rfl, _, _, rfl, rfl, hmirrors, rfl⟩
    intro t ht
    rw [← Except.ok.inj ht]
    exact hutc n
  | fetch key =>
    obtain ⟨hfetch, hafter⟩ := hmirrors.fetch key
    refine ⟨?_, trivial, rfl, rfl, rfl, _, _, rfl, rfl, hafter, r.keyPrefix_fetch key⟩
    show _ = Backend.reported (r.fetch key).1
    rw [hfetch]
    rfl
  | save record =>
    obtain ⟨hsave, hafter⟩ := hmirrors.save hc
    exact ⟨hsave.symm, trivial, rfl, rfl, rfl, _, _, rfl, rfl, hafter, r.keyPrefix_save record⟩
  | remove key =>
    obtain ⟨hremove, hafter⟩ := hmirrors.remove key
    exact ⟨hremove.symm, trivial, rfl, rfl, rfl, _, _, rfl, rfl, hafter, r.keyPrefix_remove key⟩
  | stats => exact absurd hc id
  | health => exact absurd hc id
  | formulate i => exact ⟨rfl, trivial, rfl, rfl, rfl, _, _, rfl, rfl, hmirrors, rfl⟩
  | send query api => exact ⟨rfl, trivial, rfl, rfl, rfl, _, _, rfl, rfl, hmirrors, rfl⟩

/-- The statistics tell the same number of entries, if the prefix of the keys matches itself. -/
theorem Alike.answer_stats (hup : ∀ n, (course n).down = [])
    (hglob : Text.Glob.Unbracketed keyPrefix) (h : Alike keyPrefix a b) :
    ∃ stats stats' a' b', answerAt course .stats a = (.ok stats, a')
      ∧ answerAt course .stats b = (.ok stats', b') ∧ stats.totalEntries = stats'.totalEntries
      ∧ Alike keyPrefix a' b' := by
  obtain ⟨⟨clock, backend, stores, network⟩, n⟩ := a
  obtain ⟨⟨clock', backend', stores', network'⟩, n'⟩ := b
  obtain ⟨rfl, rfl, rfl, m, r, rfl, rfl, hmirrors, rfl⟩ := h
  obtain ⟨hstats, hafter⟩ := hmirrors.stats hglob
  have hmemory : answerAt course .stats ⟨⟨clock, .memory m, stores, network⟩, n⟩
      = (.ok ⟨"memory", none, m.records.size⟩,
        ⟨⟨(course n).clock, .memory ⟨m.records, []⟩, stores, network⟩, n + 1⟩) := by
    unfold answerAt World.at
    dsimp only
    rw [hup]
    rfl
  have hredis : answerAt course .stats ⟨⟨clock', .redis r, stores, network⟩, n⟩
      = (r.stats.1, ⟨⟨(course n).clock, .redis r.stats.2, stores, network⟩, n + 1⟩) := rfl
  rw [hstats] at hredis
  exact ⟨_, _, _, _, hmemory, hredis, rfl, rfl, rfl, rfl, _, _, rfl, rfl, hafter,
    r.keyPrefix_stats⟩

/-! ### Runs -/

theorem turn_anyPlan_stats (s : Service) {stats : Stats} {a' : Stage}
    (h : answerAt course .stats a = (.ok stats, a')) :
    turn s.anyPlan course (.inr .stats) a = ⟨.inr .stats, .ok (.inr (.stats stats)), a, a'⟩ := by
  have hstats : (PromptCache.Operation.plan s.cache .stats).run (answerAt course) a
      = (.ok (.stats stats), a') := Plan.run_call_ok h
  have hrun : (s.anyPlan (.inr .stats)).run (answerAt course) a = (.ok (.inr (.stats stats)), a') :=
    Plan.run_bind_ok hstats
  rw [turn, hrun]

/-- A turn is answered alike and leaves the surroundings alike. The statistics are a call of their
own, since the two backends tell different names. -/
theorem answered_alike (s : Service) (hup : ∀ n, (course n).down = [])
    (hutc : ∀ n, (course n).clock.offset = 0) (o : Service.AnyOperation)
    (hglob : o = .inr .stats → Text.Glob.Unbracketed keyPrefix) (h : Alike keyPrefix a b) :
    (turn s.anyPlan course o a).reply.map (Sum.map id PromptCache.Reply.anonymous)
        = (turn s.anyPlan course o b).reply.map (Sum.map id PromptCache.Reply.anonymous)
      ∧ Alike keyPrefix (turn s.anyPlan course o a).after (turn s.anyPlan course o b).after := by
  by_cases ho : o = .inr .stats
  · subst ho
    obtain ⟨stats, stats', a', b', hanswer, hanswer', htotal, hafter⟩ :=
      h.answer_stats hup (hglob rfl)
    rw [turn_anyPlan_stats s hanswer, turn_anyPlan_stats s hanswer']
    refine ⟨?_, hafter⟩
    show Except.ok (Sum.inr (PromptCache.Reply.stats ⟨"", none, stats.totalEntries⟩)) = _
    rw [htotal]
    rfl
  · have hanswer (c : Call) (a b : Stage) (hc : universalTime.allows c) (h : Alike keyPrefix a b) :=
      Alike.answer hup hutc hc h
    obtain ⟨hreply, hafter⟩ := (within_anyPlan s ho).run_eq_run hanswer h
    refine ⟨?_, hafter⟩
    show Except.map _ ((s.anyPlan o).run _ a).1 = Except.map _ ((s.anyPlan o).run _ b).1
    rw [hreply]

/-- **Every turn looks alike**, and leaves the surroundings alike. -/
theorem shown_eq_of_alike (s : Service) (hup : ∀ n, (course n).down = [])
    (hutc : ∀ n, (course n).clock.offset = 0) (o : Service.AnyOperation)
    (hglob : o = .inr .stats → Text.Glob.Unbracketed keyPrefix) (h : Alike keyPrefix a b) :
    (turn s.anyPlan course o a).shown = (turn s.anyPlan course o b).shown
      ∧ Alike keyPrefix (turn s.anyPlan course o a).after (turn s.anyPlan course o b).after := by
  obtain ⟨hreply, hafter⟩ := answered_alike s hup hutc o hglob h
  have hsent : (turn s.anyPlan course o a).sent = (turn s.anyPlan course o b).sent := by
    rw [Turn.sent, Turn.sent, hafter.network_eq]
    show List.drop a.world.network.sent.length _ = List.drop b.world.network.sent.length _
    rw [h.network_eq]
  refine ⟨?_, hafter⟩
  rw [Turn.shown, Turn.shown, hreply, hsent]
  rfl

/-- **Backends are interchangeable.** In every run of operations of a service and its cache, with a
clock of universal time, a server without hashes of which no command fails looks like an empty
memory: turn by turn it gives the same answers, name and place of the backend apart, and sends the
same requests. Where the statistics are asked for, the prefix of the keys must be without opening
brackets and backslashes, or the pattern by which hashes are counted need not match their keys.
Afterwards the server holds as many hashes as the memory holds records; under every key it finds the
very record that the memory has; and a record that is written, with a result or without, is found as
it was written, in place of any that was there, while all other keys stay as they were. -/
theorem shown_redis_eq_memory (s : Service) (hup : ∀ n, (course n).down = [])
    (hutc : ∀ n, (course n).clock.offset = 0) (w : World) {r : Redis}
    (hempty : r.server.hashes = .empty) (hfailing : r.server.failing = [])
    (operations : List Service.AnyOperation)
    (hglob : .inr .stats ∈ operations → Text.Glob.Unbracketed r.keyPrefix) :
    let onMemory : Stage := ⟨{ w with backend := .memory {} }, 0⟩
    let onRedis : Stage := ⟨{ w with backend := .redis r }, 0⟩
    (turns s.anyPlan course operations onRedis).map Turn.shown
        = (turns s.anyPlan course operations onMemory).map Turn.shown
      ∧ ∃ m r', (finish s.anyPlan course operations onMemory).world.backend = .memory m
        ∧ (finish s.anyPlan course operations onRedis).world.backend = .redis r'
        ∧ r'.server.hashes.size = m.records.size
        ∧ (∀ key, (r'.fetch key).1 = .ok (m.records.get? key))
        ∧ ∀ record : Record String, record.createdAt.offset = 0 → ∀ key,
          ((r'.save record).2.fetch key).1
            = if key = record.key then .ok (some record) else (r'.fetch key).1 := by
  intro onMemory onRedis
  have hfirst : Alike r.keyPrefix onMemory onRedis :=
    ⟨rfl, rfl, rfl, _, _, rfl, rfl, Redis.mirrors_empty hfailing hempty, rfl⟩
  have hturn (o) (ho : o ∈ operations) (a b : Stage) (h : Alike r.keyPrefix a b) :=
    shown_eq_of_alike s hup hutc o (fun hstats => hglob (hstats ▸ ho)) h
  obtain ⟨hshown, hfinish⟩ := turns_alike operations hturn hfirst
  obtain ⟨m, r', hmemory, hredis, hmirrors, -⟩ := hfinish.backends
  refine ⟨hshown.symm, m, r', hmemory, hredis, hmirrors.size_eq, ?_, ?_⟩
  · intro key
    exact (hmirrors.fetch key).1
  · intro record hrecord key
    have hafter := (hmirrors.save hrecord).2
    rw [(hafter.fetch key).1, (hmirrors.fetch key).1, Table.get?_insert]
    split
    · rfl
    · rfl

/-- A record with a result that is overwritten by one without, then looked for and counted; at last
the service is asked for a prompt that is no intent. -/
theorem shown_redis_eq_memory_overwrite :
    let s : Service := ⟨fun prompt _ => .ok prompt, ⟨.tenMinutes⟩, true, true⟩
    let w : World :=
      ⟨Moment.first.clock, .memory {}, ⟨default, .ofList [], .empty⟩, .always default⟩
    let operations : List Service.AnyOperation :=
      [.inr (.put "tea" "q" "t" (some "r")), .inr (.put "tea" "q" "t" none), .inr (.get "tea"),
        .inr .stats, .inl (.execute "tea" "geo")]
    let onMemory : Stage := ⟨{ w with backend := .memory {} }, 0⟩
    let onRedis : Stage := ⟨{ w with backend := .redis ⟨"test", {}⟩ }, 0⟩
    (turns s.anyPlan (fun _ => .first) operations onRedis).map Turn.shown
        = (turns s.anyPlan (fun _ => .first) operations onMemory).map Turn.shown
      ∧ ∃ m r', (finish s.anyPlan (fun _ => .first) operations onMemory).world.backend = .memory m
        ∧ (finish s.anyPlan (fun _ => .first) operations onRedis).world.backend = .redis r'
        ∧ r'.server.hashes.size = m.records.size
        ∧ (∀ key, (r'.fetch key).1 = .ok (m.records.get? key))
        ∧ ∀ record : Record String, record.createdAt.offset = 0 → ∀ key,
          ((r'.save record).2.fetch key).1
            = if key = record.key then .ok (some record) else (r'.fetch key).1 := by
  intro s w operations
  exact shown_redis_eq_memory s (fun _ => rfl) (fun _ => rfl) w rfl rfl operations
    fun _ => by decide

end ConceptQuery
