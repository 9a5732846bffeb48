import ConceptQuery.Proofs.Cache.Hashes
import ConceptQuery.Proofs.Service.Request

/-!
# Requests over any hashes

A service that goes on without its cache is answered whatever the hash of a prompt holds: a
malformed hash counts as a miss. Only a time outside of the calendar of universal time fails the
request.

* `Redis.without` — a server without one hash;
* `World.onRedis`, `perform_get_error`, `perform_get_none`, `perform_get_some` — a look for a prompt
  over a server of hashes;
* `cached_eq_error` — when the look of a request fails;
* `Service.fresh`, `run_request_missed`, `run_request_failed` — a request after its look;
* `writing`, `World.SameButHashes`, `World.SameButHashes.answer` — what a request that missed can
  tell of its surroundings;
* `Service.Survives`, `classifies_hashes` — every hash, and the requests for its prompt.
-/

namespace ConceptQuery

open Cache Http Ontology

/-! ### Servers without a hash -/

namespace Cache.Redis

/-- The same server without the hash of a key. -/
def without (r : Redis) (key : String) : Redis :=
  { r with server := { r.server with hashes := r.server.hashes.erase (r.hashKey key) } }

theorem fetch_without {r : Redis} {key : String}
    (h : r.server.fails (.readHash (r.hashKey key)) = false) :
    ((r.without key).fetch key).1 = .ok none := by
  refine fetch_absent (r := r.without key) h fun hash hhash => ?_
  have hnone : (r.without key).server.hashes.get? ((r.without key).hashKey key) = none :=
    Table.get?_erase_self r.server.hashes (r.hashKey key)
  rw [hnone] at hhash
  cases hhash

end Cache.Redis

/-! ### The look for a prompt -/

/-- The same surroundings with a server of hashes as the backend. -/
def World.onRedis (w : World) (r : Redis) : World :=
  { w with backend := .redis r }

variable {s : Service} {w : World} {r : Redis} {prompt api text : String} {i : Intent}
  {f : Failure}

theorem answer_fetch (w : World) (r : Redis) (key : String) :
    World.answer (.fetch key) (w.onRedis r)
      = (Backend.reported (r.fetch key).1, w.onRedis (r.fetch key).2) :=
  rfl

theorem perform_get_error (c : PromptCache) (h : (r.fetch (promptKey prompt)).1 = .error f) :
    (w.onRedis r).perform (c.get prompt)
      = (.error f, w.onRedis (r.fetch (promptKey prompt)).2) := by
  have hanswer := answer_fetch w r (promptKey prompt)
  rw [h] at hanswer
  exact Plan.run_call_error hanswer

theorem perform_get_none (c : PromptCache) (h : (r.fetch (promptKey prompt)).1 = .ok none) :
    (w.onRedis r).perform (c.get prompt) = (.ok none, w.onRedis (r.fetch (promptKey prompt)).2) := by
  have hanswer := answer_fetch w r (promptKey prompt)
  rw [h] at hanswer
  exact Plan.run_call_ok hanswer

/-- A record that is found is live, or it is taken away, unless that fails. -/
theorem perform_get_some (c : PromptCache) {record : Record String}
    (h : (r.fetch (promptKey prompt)).1 = .ok (some record)) :
    (∃ found, ((w.onRedis r).perform (c.get prompt)).1 = .ok found)
      ∨ ((w.onRedis r).perform (c.get prompt)).1 = .error Redis.unavailable := by
  have hanswer := answer_fetch w r (promptKey prompt)
  rw [h] at hanswer
  generalize (r.fetch (promptKey prompt)).2 = r' at hanswer
  have hnow : World.answer .now (w.onRedis r') = (.ok w.clock, w.onRedis r') := rfl
  have hget : (w.onRedis r).perform (c.get prompt)
      = World.perform (if (record.map Json.string).isExpired c.ttl.micros w.clock then do
            Plan.call (.remove (promptKey prompt))
            return none
          else return some (record.map .string) : Plan (Option (Record Json))) (w.onRedis r') := by
    unfold PromptCache.get World.perform
    rw [Plan.run_call_ok hanswer]
    dsimp only [Option.map_some]
    rw [Plan.run_call_ok hnow]
  rw [hget]
  by_cases hexpired : (record.map Json.string).isExpired c.ttl.micros w.clock = true
  · rw [if_pos hexpired]
    have hremove := (Redis.perform_eq r' [.delete (r'.hashKey (promptKey prompt))]
      fun hashes => ((), hashes.erase (r'.hashKey (promptKey prompt)))).1
    have hanswer' : World.answer (.remove (promptKey prompt)) (w.onRedis r')
        = ((r'.remove (promptKey prompt)).1, w.onRedis (r'.remove (promptKey prompt)).2) := rfl
    rw [show (r'.remove (promptKey prompt)).1 = _ from hremove] at hanswer'
    split at hanswer'
    · exact .inl ⟨none, congrArg Prod.fst (Plan.run_call_ok hanswer')⟩
    · exact .inr (congrArg Prod.fst (Plan.run_call_error hanswer'))
  · rw [if_neg hexpired]
    exact .inl ⟨_, rfl⟩

/-! ### The look of a request -/

theorem cached_none (h : (r.fetch (promptKey prompt)).1 = .ok none) :
    (w.onRedis r).perform (s.cached prompt)
      = (.ok none, w.onRedis (r.fetch (promptKey prompt)).2) :=
  run_tolerate (perform_get_none s.cache h)

theorem cached_unavailable (hbypass : s.bypass = true) {reason : String}
    (h : (r.fetch (promptKey prompt)).1 = .error (.cacheUnavailable reason)) :
    (w.onRedis r).perform (s.cached prompt)
      = (.ok none, w.onRedis (r.fetch (promptKey prompt)).2) := by
  unfold World.perform Service.cached
  rw [run_tolerate (perform_get_error s.cache h)]
  exact congrArg (·, _) (if_pos hbypass)

theorem cached_outside (h : (r.fetch (promptKey prompt)).1 = .error Timestamp.outOfRange) :
    (w.onRedis r).perform (s.cached prompt)
      = (.error Timestamp.outOfRange, w.onRedis (r.fetch (promptKey prompt)).2) :=
  run_tolerate (perform_get_error s.cache h)

theorem cached_some (hbypass : s.bypass = true) {record : Record String}
    (h : (r.fetch (promptKey prompt)).1 = .ok (some record)) :
    ∃ found, ((w.onRedis r).perform (s.cached prompt)).1 = .ok found := by
  rcases hget : (w.onRedis r).perform (s.cache.get prompt) with ⟨outcome, w'⟩
  have hsome := perform_get_some (w := w) s.cache h
  rw [hget] at hsome
  unfold World.perform Service.cached
  rw [run_tolerate hget]
  obtain ⟨found, hfound⟩ | hfails := hsome
  · obtain rfl : outcome = .ok found := hfound
    exact ⟨found, rfl⟩
  · obtain rfl : outcome = .error Redis.unavailable := hfails
    exact ⟨none, if_pos hbypass⟩

/-- **The look of a request** that goes on without its cache fails in one case only. The cases are
the ways in which the look for the key can end. -/
theorem cached_eq_error (hbypass : s.bypass = true) :
    ((w.onRedis r).perform (s.cached prompt)).1 = .error f ↔
      f = Timestamp.outOfRange ∧ ∃ hash, r.Reads (promptKey prompt) hash ∧ hash.Outside := by
  constructor
  · intro hf
    have hends := Redis.ends_fetch r (promptKey prompt)
    generalize hfetch : (r.fetch (promptKey prompt)).1 = outcome at hends
    cases hends with
    | unanswered h =>
      rw [cached_unavailable hbypass hfetch] at hf
      cases hf
    | absent h hempty =>
      rw [cached_none hfetch] at hf
      cases hf
    | stands h hstands hkey =>
      obtain ⟨found, hfound⟩ := cached_some (w := w) hbypass hfetch
      rw [hfound] at hf
      cases hf
    | malformed h hmalformed reason =>
      rw [cached_unavailable hbypass hfetch] at hf
      cases hf
    | outside h houtside =>
      rw [cached_outside hfetch] at hf
      cases hf
      exact ⟨rfl, _, h, houtside⟩
  · rintro ⟨rfl, hash, h, houtside⟩
    rw [cached_outside (h.fetch_outside houtside)]

/-! ### After the look -/

/-- What follows a look that found no record. -/
def Service.fresh (s : Service) (sends : Bool) (prompt text : String) (i : Intent) :
    Plan Outcome :=
  if sends then s.renew prompt text i
  else do
    let query ← s.compileFresh prompt i text
    return ⟨prompt, i, .string query, false, none⟩

section Looks

variable {σ : Type} {answer : (c : Call) → σ → Except Failure c.Answer × σ} {x y : σ}
  {found : Except Failure (Option (Record Json))}

theorem run_request_missed (hread : s.intentOf prompt api = .ok (i, text)) (sends : Bool)
    (hlook : (s.cached prompt).run answer x = (.ok none, y)) :
    (s.request sends prompt api).run answer x = (s.fresh sends prompt text i).run answer y := by
  cases sends with
  | true =>
    show (s.execute prompt api).run answer x = _
    unfold Service.execute
    rw [Plan.run_bind_ok (run_read hread)]
    dsimp only
    rw [Plan.run_bind_ok hlook]
    rfl
  | false =>
    show (s.compileOnly prompt api).run answer x = _
    unfold Service.compileOnly
    rw [Plan.run_bind_ok (run_read hread)]
    dsimp only
    rw [Plan.run_bind_ok hlook]
    rfl

theorem run_request_failed (hread : s.intentOf prompt api = .ok (i, text)) (sends : Bool)
    (hlook : (s.cached prompt).run answer x = (.error f, y)) :
    (s.request sends prompt api).run answer x = (.error f, y) := by
  cases sends with
  | true =>
    show (s.execute prompt api).run answer x = _
    unfold Service.execute
    rw [Plan.run_bind_ok (run_read hread)]
    exact Plan.run_bind_error hlook
  | false =>
    show (s.compileOnly prompt api).run answer x = _
    unfold Service.compileOnly
    rw [Plan.run_bind_ok (run_read hread)]
    exact Plan.run_bind_error hlook

end Looks

/-! ### Surroundings -/

/-- The calls that follow a look that found no record: none of them reads the cache. -/
def writing : Contract where
  allows
    | .fetch _ => False
    | .remove _ => False
    | .stats => False
    | .health => False
    | _ => True
  promises _ _ := True

theorem Service.within_fresh (s : Service) (sends : Bool) (prompt text : String) (i : Intent) :
    (s.fresh sends prompt text i).Within writing := by
  have hcompile : (s.compileFresh prompt i text).Within writing :=
    Service.within_compileFresh trivial trivial fun _ _ _ => trivial
  unfold Service.fresh
  cases sends with
  | true =>
    refine hcompile.bind fun query => (Plan.within_call trivial).bind fun result => ?_
    dsimp only
    split
    · exact (Service.within_store trivial fun _ _ => trivial).bind fun _ => Plan.within_done _
    · exact Plan.within_done _
  | false => exact hcompile.bind fun _ => Plan.within_done _

/-- Surroundings that differ at most in the hashes of a server and in the commands it received. -/
structure World.SameButHashes (w w' : World) : Prop where
  clock_eq : w.clock = w'.clock
  stores_eq : w.stores = w'.stores
  network_eq : w.network = w'.network
  servers : ∃ r r', w.backend = .redis r ∧ w'.backend = .redis r'
    ∧ r.server.failing = r'.server.failing

/-- Which writes fail does not depend on what is written. -/
theorem save_eq_save {r r' : Redis} (h : r.server.failing = r'.server.failing)
    (record : Record String) : (r.save record).1 = (r'.save record).1
      ∧ (r.save record).2.server.failing = (r'.save record).2.server.failing := by
  have hall : [Redis.Command.queueDelete (r.hashKey record.key),
        .queueWrite (r.hashKey record.key) (Redis.hashOf record), .execute].all
          (fun c => !r.server.fails c)
      = [Redis.Command.queueDelete (r'.hashKey record.key),
        .queueWrite (r'.hashKey record.key) (Redis.hashOf record), .execute].all
          (fun c => !r'.server.fails c) := by
    unfold Redis.Server.fails
    rw [h]
    rfl
  unfold Redis.save
  dsimp only
  refine ⟨?_, ?_⟩
  · rw [(Redis.perform_eq r _ _).1, (Redis.perform_eq r' _ _).1, hall]
  · rw [(Redis.perform_eq r _ _).2.1, (Redis.perform_eq r' _ _).2.1, h]

/-- **Calls that do not read the cache** are answered alike whatever the hashes. -/
theorem World.SameButHashes.answer {w w' : World} (h : w.SameButHashes w') {c : Call}
    (hc : writing.allows c) : (World.answer c w).1 = (World.answer c w').1
      ∧ (World.answer c w).2.SameButHashes (World.answer c w').2 := by
  obtain ⟨clock, backend, stores, network⟩ := w
  obtain ⟨clock', backend', stores', network'⟩ := w'
  obtain ⟨rfl, rfl, rfl, r, r', rfl, rfl, hfailing⟩ := h
  cases c with
  | now => exact ⟨rfl, rfl, rfl, rfl, r, r', rfl, rfl, hfailing⟩
  | save record =>
    obtain ⟨hreply, hafter⟩ := save_eq_save hfailing record
    exact ⟨hreply, rfl, rfl, rfl, _, _, rfl, rfl, hafter⟩
  | formulate i => exact ⟨rfl, rfl, rfl, rfl, r, r', rfl, rfl, hfailing⟩
  | send query api => exact ⟨rfl, rfl, rfl, rfl, r, r', rfl, rfl, hfailing⟩
  | fetch key => exact absurd hc id
  | remove key => exact absurd hc id
  | stats => exact absurd hc id
  | health => exact absurd hc id

/-! ### Requests -/

/-- What is seen of a request in given surroundings: its reply and the network. -/
def Service.seen (s : Service) (sends : Bool) (prompt api : String) (w : World) :
    Except Failure Outcome × Network :=
  let (reply, after) := w.perform (s.request sends prompt api)
  (reply, after.network)

theorem seen_unread (hread : s.intentOf prompt api = .error f) (sends : Bool) (w : World) :
    s.seen sends prompt api w = (.error f, w.network) := by
  unfold Service.seen World.perform
  rw [run_request_unread hread]

/-- Two requests that missed look alike if they went on in surroundings that differ in nothing but
hashes. -/
theorem seen_missed {w w' v v' : World} (hsame : v.SameButHashes v')
    (hread : s.intentOf prompt api = .ok (i, text)) (sends : Bool)
    (hlook : w.perform (s.cached prompt) = (.ok none, v))
    (hlook' : w'.perform (s.cached prompt) = (.ok none, v')) :
    s.seen sends prompt api w = s.seen sends prompt api w' := by
  have hanswer (c : Call) (a b : World) (hc : writing.allows c) (h : a.SameButHashes b) :
      (World.answer c a).1 = (World.answer c b).1 ∧ writing.promises c (World.answer c a).1
        ∧ (World.answer c a).2.SameButHashes (World.answer c b).2 :=
    ⟨(h.answer hc).1, trivial, (h.answer hc).2⟩
  obtain ⟨hreply, hafter⟩ :=
    (s.within_fresh sends prompt text i).run_eq_run hanswer hsame
  unfold Service.seen World.perform
  rw [run_request_missed hread sends hlook, run_request_missed hread sends hlook']
  exact Prod.ext hreply hafter.network_eq

/-- The surroundings after a look differ in nothing but hashes and received commands, if those
before it did. -/
theorem sameButHashes_fetch (w : World) {r r' : Redis}
    (h : r.server.failing = r'.server.failing) (key : String) :
    (w.onRedis (r.fetch key).2).SameButHashes (w.onRedis (r'.fetch key).2) := by
  rw [Redis.fetch_eq, Redis.fetch_eq]
  exact ⟨rfl, rfl, rfl, _, _, rfl, rfl, h⟩

/-- **A service over a server of hashes**, whatever the one of a prompt holds. -/
structure Service.Survives (s : Service) (w : World) (r : Redis) (prompt : String) : Prop where
  /-- The look of a request for the prompt fails only for a time outside of the calendar. -/
  look : ∀ f, ((w.onRedis r).perform (s.cached prompt)).1 = .error f ↔
    f = Timestamp.outOfRange ∧ ∃ hash, r.Reads (promptKey prompt) hash ∧ hash.Outside
  /-- If the hash cannot be read or is malformed, the look misses, and requests are answered, and
  send what they send, as if there were no hash. -/
  miss : (r.server.fails (.readHash (r.hashKey (promptKey prompt))) = true
      ∨ ∃ hash, r.Reads (promptKey prompt) hash ∧ hash.Malformed) →
    ((w.onRedis r).perform (s.cached prompt)).1 = .ok none
      ∧ ∀ sends api, s.seen sends prompt api (w.onRedis r)
        = s.seen sends prompt api (w.onRedis (r.without (promptKey prompt)))
  /-- With a time outside of the calendar, every request whose intent is read fails, and sends
  nothing. -/
  fails : (∃ hash, r.Reads (promptKey prompt) hash ∧ hash.Outside) →
    ∀ sends api it, s.intentOf prompt api = .ok it →
      s.seen sends prompt api (w.onRedis r) = (.error Timestamp.outOfRange, w.network)

/-- A look that is a failure of the cache misses, as it does without the hash. -/
theorem miss_unavailable (hbypass : s.bypass = true) (w : World) {reason : String}
    (h : (r.fetch (promptKey prompt)).1 = .error (.cacheUnavailable reason)) :
    ((w.onRedis r).perform (s.cached prompt)).1 = .ok none
      ∧ ∀ sends api, s.seen sends prompt api (w.onRedis r)
        = s.seen sends prompt api (w.onRedis (r.without (promptKey prompt))) := by
  have hlook := cached_unavailable (w := w) hbypass h
  refine ⟨congrArg Prod.fst hlook, fun sends api => ?_⟩
  have hlook' : (w.onRedis (r.without (promptKey prompt))).perform (s.cached prompt)
      = (.ok none, w.onRedis ((r.without (promptKey prompt)).fetch (promptKey prompt)).2) := by
    cases hanswered : r.server.fails (.readHash (r.hashKey (promptKey prompt))) with
    | true =>
      exact cached_unavailable hbypass
        (Redis.fetch_unanswered (r := r.without (promptKey prompt)) hanswered)
    | false => exact cached_none (Redis.fetch_without hanswered)
  have hsame : (w.onRedis (r.fetch (promptKey prompt)).2).SameButHashes
      (w.onRedis ((r.without (promptKey prompt)).fetch (promptKey prompt)).2) := by
    have hfailing : r.server.failing = (r.without (promptKey prompt)).server.failing := rfl
    exact sameButHashes_fetch w hfailing (promptKey prompt)
  cases hread : s.intentOf prompt api with
  | error f => rw [seen_unread hread, seen_unread hread]; rfl
  | ok it => exact seen_missed hsame hread sends hlook hlook'

theorem survives (hbypass : s.bypass = true) (w : World) (r : Redis) (prompt : String) :
    s.Survives w r prompt where
  look := fun _ => cached_eq_error hbypass
  miss := by
    rintro (h | ⟨hash, h, hmalformed⟩)
    · exact miss_unavailable hbypass w (Redis.fetch_unanswered h)
    · obtain ⟨reason, hreason⟩ := h.fetch_malformed hmalformed
      exact miss_unavailable hbypass w hreason
  fails := by
    rintro ⟨hash, h, houtside⟩ sends api ⟨i, text⟩ hread
    have hlook := cached_outside (s := s) (w := w) (h.fetch_outside houtside)
    unfold Service.seen World.perform
    rw [run_request_failed hread sends hlook]
    rfl

/-- **Every hash is classified**: it is the hash of a record, or malformed, or its time is outside of
the calendar, and the look for its key tells which; a service that goes on without its cache survives
all but the last. -/
theorem classifies_hashes (w : World) (r : Redis) :
    (∀ key, r.Classifies key)
      ∧ ∀ s : Service, s.bypass = true → ∀ prompt, s.Survives w r prompt :=
  ⟨r.classifies, fun _ hbypass => survives hbypass w r⟩

/-- A server with one hash, under the key of the prompt `tea`, that was made at a time. -/
def teaMade (createdAt : String) : Redis :=
  ⟨"test", { hashes := .ofList [("test:" ++ promptKey "tea", .ofList [("prompt", "tea"),
    ("intent", "\x7b\x7d"), ("query", "q"), ("created_at", createdAt)])] }⟩

theorem reads_teaMade (createdAt : String) : (teaMade createdAt).Reads (promptKey "tea")
    (.ofList [("prompt", "tea"), ("intent", "\x7b\x7d"), ("query", "q"),
      ("created_at", createdAt)]) where
  answered := rfl
  found := Table.get?_insert_self .empty _ _
  size_ne_zero := nofun

/-- A hash that was made in the thirteenth month is malformed; requests for its prompt go on. -/
theorem classifies_hashes_malformed :
    let r := teaMade "2026-13-01T12:00:00Z"
    let s : Service := ⟨fun prompt _ => .ok prompt, ⟨.tenMinutes⟩, true, true⟩
    let w : World :=
      ⟨Moment.first.clock, .memory {}, ⟨default, .ofList [], .empty⟩, .always default⟩
    (∃ text, (r.fetch (promptKey "tea")).1 = .error (.cacheUnavailable text))
      ∧ ((w.onRedis r).perform (s.cached "tea")).1 = .ok none
      ∧ ∀ sends api, s.seen sends "tea" api (w.onRedis r)
        = s.seen sends "tea" api (w.onRedis (r.without (promptKey "tea"))) := by
  intro r s w
  obtain ⟨hclassifies, hsurvives⟩ := classifies_hashes w r
  have hread : Timestamp.read (Timestamp.spellZone "2026-13-01T12:00:00Z")
      = .error (.invalidValue "month must be in 1..12") := by
    with_unfolding_all rfl
  have hmalformed : ∃ hash, r.Reads (promptKey "tea") hash ∧ hash.Malformed := by
    refine ⟨_, reads_teaMade _, .untimed rfl fun t ht => ?_⟩
    exact absurd (hread.symm.trans ht) nofun
  exact ⟨(hclassifies _).unavailable.2 (.inr hmalformed),
    (hsurvives s rfl "tea").miss (.inr hmalformed)⟩

/-- The first hour of the calendar, shown by a clock that is ahead of universal time, escapes: it is
no failure of the cache, and no service tolerates it. -/
theorem escapes_outside_calendar :
    let r := teaMade "0001-01-01T00:00:00+01:00"
    let s : Service := ⟨fun prompt _ => .ok prompt, ⟨.tenMinutes⟩, true, true⟩
    let w : World :=
      ⟨Moment.first.clock, .memory {}, ⟨default, .ofList [], .empty⟩, .always default⟩
    (r.fetch (promptKey "tea")).1 = .error (.outOfRange "date value out of range")
      ∧ ((w.onRedis r).perform (s.cached "tea")).1
        = .error (.outOfRange "date value out of range") := by
  intro r s w
  have hfetch : (r.fetch (promptKey "tea")).1 = .error Timestamp.outOfRange := by
    with_unfolding_all rfl
  exact ⟨hfetch, congrArg Prod.fst (cached_outside hfetch)⟩

end ConceptQuery
