import ConceptQuery.Proofs.Cache.Hashes
import ConceptQuery.Proofs.Cache.KeySpelling

/-!
# Caches that share a server

The keys of hashes begin with a prefix, and end with the encoding of a prompt, which has no colon.
So the last colon of a key tells where its prompt begins, and no key belongs to two caches. Caches
with different prefixes can use one server without noticing each other.

* `Redis.keyOf`, `keyOf_inj` — the key of the hash of a prompt, which tells prefix and prompt;
* `Redis.Operation`, `Redis.Answer`, `Redis.Server.carryOut` — what a cache does at a server;
* `Redis.Event`, `Redis.Server.afterAll`, `Redis.Server.answers` — runs of several caches, with
  outages;
* `Redis.Server.Alike` — servers that are the same to the cache with a prefix;
* `finds_saved` — a record that was saved is found;
* `alike_carryOut`, `Alike.carryOut`, `Alike.run` — operations of others, operations of its own, and
  runs;
* `Redis.Isolated`, `isolates` — no cache notices the others;
* `Redis.sharing` — a run of two caches of which one prefix goes on as the keys of the other do.
-/

namespace ConceptQuery.Cache.Redis

open Text

/-! ### Keys -/

/-- The key of the hash of a prompt, in the cache with a prefix. -/
def keyOf (keyPrefix prompt : String) : String :=
  keyPrefix ++ ":" ++ promptKey prompt

theorem hashKey_promptKey (r : Redis) (prompt : String) :
    r.hashKey (promptKey prompt) = keyOf r.keyPrefix prompt := rfl

theorem toList_keyOf (keyPrefix prompt : String) : (keyOf keyPrefix prompt).toList
    = (keyPrefix ++ ":urn:prompt").toList ++ ':' :: (formEncode prompt).toList := by
  simp [keyOf, promptKey, Cache.keyStart]

/-- A text is parted at its last colon in one way. -/
theorem eq_of_last_colon {s t u v : List Char} (ht : ':' ∉ t) (hv : ':' ∉ v)
    (h : s ++ ':' :: t = u ++ ':' :: v) : s = u ∧ t = v := by
  have hlast {w x y : List Char} (hx : ':' ∉ x) (heq : ':' :: x = w ++ ':' :: y) : w = [] := by
    cases w with
    | nil => rfl
    | cons c w =>
      have hmem : ':' ∈ x := by
        rw [(List.cons.inj heq).2]
        simp
      exact absurd hmem hx
  rcases List.append_eq_append_iff.1 h with ⟨w, rfl, heq⟩ | ⟨w, rfl, heq⟩
  · obtain rfl := hlast ht heq
    exact ⟨(List.append_nil s).symm, (List.cons.inj heq).2⟩
  · obtain rfl := hlast hv heq
    exact ⟨List.append_nil u, ((List.cons.inj heq).2).symm⟩

variable {keyPrefix other prompt prompt' : String}

/-- **A key tells its prefix and its prompt**, whatever colons the prefix has. -/
theorem keyOf_inj : keyOf keyPrefix prompt = keyOf other prompt'
    ↔ keyPrefix = other ∧ prompt = prompt' := by
  constructor
  · intro h
    have hlist := congrArg String.toList h
    rw [toList_keyOf, toList_keyOf] at hlist
    obtain ⟨hbegin, hencoded⟩ :=
      eq_of_last_colon not_colon_of_encoded not_colon_of_encoded hlist
    rw [String.toList_append, String.toList_append] at hbegin
    exact ⟨String.toList_inj.1 (List.append_cancel_right hbegin),
      formEncode_injective (String.toList_inj.1 hencoded)⟩
  · rintro ⟨rfl, rfl⟩
    rfl

/-! ### Operations -/

/-- What a cache does with the record of a key. -/
inductive Operation where
  | save (record : Record String)
  | fetch (key : String)
  | remove (key : String)

/-- The key of the record. -/
def Operation.key : Operation → String
  | .save record => record.key
  | .fetch key => key
  | .remove key => key

/-- The key is the key of a prompt. -/
def Operation.Keyed (o : Operation) : Prop :=
  ∃ prompt, o.key = promptKey prompt

/-- What an operation is answered with. -/
inductive Answer where
  | finished
  | found (record : Option (Record String))

namespace Server

/-- The cache with a prefix carries out an operation. -/
def carryOut (s : Server) (keyPrefix : String) : Operation → Except Failure Answer × Server
  | .save record =>
    let (outcome, r) := (⟨keyPrefix, s⟩ : Redis).save record
    (outcome.map fun _ => .finished, r.server)
  | .fetch key =>
    let (outcome, r) := (⟨keyPrefix, s⟩ : Redis).fetch key
    (outcome.map .found, r.server)
  | .remove key =>
    let (outcome, r) := (⟨keyPrefix, s⟩ : Redis).remove key
    (outcome.map fun _ => .finished, r.server)

/-- What the cache with a prefix finds for a prompt. -/
def finds (s : Server) (keyPrefix prompt : String) : Except Failure (Option (Record String)) :=
  ((⟨keyPrefix, s⟩ : Redis).fetch (promptKey prompt)).1

end Server

/-- The commands of an operation. -/
def Operation.commands (r : Redis) : Operation → List Command
  | .save record => [.queueDelete (r.hashKey record.key),
    .queueWrite (r.hashKey record.key) (hashOf record), .execute]
  | .fetch key => [.readHash (r.hashKey key)]
  | .remove key => [.delete (r.hashKey key)]

/-- The hash that an operation leaves under its key, if none of its commands fails. -/
def Operation.leaves : Operation → Option Hash → Option Hash
  | .save record, _ => some (hashOf record)
  | .fetch _, found => found
  | .remove _, _ => none

/-- The answer to an operation, if none of its commands fails. -/
def Operation.answer : Operation → Option Hash → Except Failure Answer
  | .save _, _ => .ok .finished
  | .fetch key, found => (recordOf key found).map .found
  | .remove _, _ => .ok .finished

/-- What an operation does to all hashes, if none of its commands fails. -/
def Operation.act (r : Redis) : Operation → Table Hash → Table Hash
  | .save record, hashes =>
    (hashes.erase (r.hashKey record.key)).insert (r.hashKey record.key) (hashOf record)
  | .fetch _, hashes => hashes
  | .remove key, hashes => hashes.erase (r.hashKey key)

/-- An operation changes no hash but the one under its key. -/
theorem get?_act (r : Redis) (o : Operation) (hashes : Table Hash) (key : String) :
    (o.act r hashes).get? key
      = if key = r.hashKey o.key then o.leaves (hashes.get? key) else hashes.get? key := by
  by_cases hkey : key = r.hashKey o.key
  · rw [if_pos hkey]
    subst hkey
    cases o with
    | save record => exact Table.get?_insert_self _ _ _
    | fetch key => rfl
    | remove key => exact Table.get?_erase_self _ _
  · rw [if_neg hkey]
    cases o with
    | save record =>
      exact (Table.get?_insert_of_ne _ _ hkey).trans (Table.get?_erase_of_ne hashes hkey)
    | fetch key => rfl
    | remove key => exact Table.get?_erase_of_ne hashes hkey

/-- Whether all commands of an operation succeed. -/
def Operation.succeeds (r : Redis) (o : Operation) : Bool :=
  (o.commands r).all fun c => !r.server.fails c

/-- **An operation** is told by the commands that fail and the hash under its key. -/
theorem carryOut_eq (s : Server) (keyPrefix : String) (o : Operation) :
    let r : Redis := ⟨keyPrefix, s⟩
    (s.carryOut keyPrefix o).1 = (if o.succeeds r then o.answer (s.hashes.get? (r.hashKey o.key))
        else .error unavailable)
      ∧ (s.carryOut keyPrefix o).2.failing = s.failing
      ∧ (s.carryOut keyPrefix o).2.hashes
        = (if o.succeeds r then o.act r s.hashes else s.hashes) := by
  intro r
  have hwrite (o : Operation) :
      let done := r.perform (o.commands r) fun hashes => ((), o.act r hashes)
      (done.1.map fun _ => Answer.finished)
          = (if o.succeeds r then .ok .finished else .error unavailable)
        ∧ done.2.server.failing = s.failing
        ∧ done.2.server.hashes = (if o.succeeds r then o.act r s.hashes else s.hashes) := by
    intro done
    obtain ⟨hanswer, hkept⟩ := perform_eq r (o.commands r) fun hashes => ((), o.act r hashes)
    refine ⟨?_, hkept⟩
    rw [hanswer]
    exact apply_ite (Except.map fun _ => Answer.finished) _ _ _
  cases o with
  | save record => exact hwrite (.save record)
  | fetch key =>
    have hcarried : s.carryOut keyPrefix (.fetch key)
        = ((r.fetch key).1.map .found, (r.fetch key).2.server) := rfl
    have hsucceeds : (Operation.fetch key).succeeds r = !s.fails (.readHash (r.hashKey key)) :=
      Bool.and_true _
    rw [hcarried, fetch_eq, hsucceeds]
    cases s.fails (.readHash (r.hashKey key)) with
    | true => exact ⟨rfl, rfl, rfl⟩
    | false => exact ⟨rfl, rfl, rfl⟩
  | remove key => exact hwrite (.remove key)

theorem Server.finds_eq (s : Server) (keyPrefix prompt : String) : s.finds keyPrefix prompt
    = if s.fails (.readHash (keyOf keyPrefix prompt)) then .error unavailable
      else recordOf (promptKey prompt) (s.hashes.get? (keyOf keyPrefix prompt)) := by
  unfold finds
  rw [fetch_eq]
  rfl

/-- A record is found once it is saved, if no command fails. -/
theorem finds_saved {s : Server} {record : Record String} (hkey : record.key = promptKey prompt)
    (hutc : record.createdAt.offset = 0) (hup : s.failing = []) (keyPrefix : String) :
    (s.carryOut keyPrefix (.save record)).2.finds keyPrefix prompt = .ok (some record) := by
  obtain ⟨-, hfailing, hhashes⟩ := carryOut_eq s keyPrefix (.save record)
  have hsucceeds : (Operation.save record).succeeds ⟨keyPrefix, s⟩ = true := by
    simp [Operation.succeeds, Server.fails_of_failing_eq_nil hup]
  have hsaved : (⟨keyPrefix, s⟩ : Redis).hashKey (Operation.save record).key
      = keyOf keyPrefix prompt := by
    rw [← hashKey_promptKey ⟨keyPrefix, s⟩ prompt, ← hkey]
    rfl
  rw [Server.finds_eq, Server.fails_of_failing_eq_nil (hfailing.trans hup), hhashes, hsucceeds,
    if_pos rfl, get?_act, if_pos hsaved.symm, ← hkey]
  exact recordOf_hashOf hutc

/-! ### Servers that look the same to a cache -/

/-- Two servers are the same to the cache with a prefix: the same commands fail, and they have the
same hashes for all prompts. -/
structure Server.Alike (keyPrefix : String) (s s' : Server) : Prop where
  failing_eq : s.failing = s'.failing
  get?_eq : ∀ prompt, s.hashes.get? (keyOf keyPrefix prompt)
    = s'.hashes.get? (keyOf keyPrefix prompt)

variable {s s' : Server} {o : Operation}

theorem Server.Alike.refl (keyPrefix : String) (s : Server) : Alike keyPrefix s s :=
  ⟨rfl, fun _ => rfl⟩

theorem Server.Alike.trans {s'' : Server} (h : Alike keyPrefix s s') (h' : Alike keyPrefix s' s'') :
    Alike keyPrefix s s'' :=
  ⟨h.failing_eq.trans h'.failing_eq, fun prompt => (h.get?_eq prompt).trans (h'.get?_eq prompt)⟩

theorem Server.Alike.fails_eq (h : Alike keyPrefix s s') : s.fails = s'.fails := by
  funext c
  unfold fails
  rw [h.failing_eq]

/-- The same operations succeed. -/
theorem Server.Alike.succeeds (h : Alike keyPrefix s s') (o : Operation) :
    o.succeeds ⟨keyPrefix, s⟩ = o.succeeds ⟨keyPrefix, s'⟩ := by
  show (o.commands _).all (fun c => !s.fails c) = (o.commands _).all fun c => !s'.fails c
  rw [h.fails_eq]
  cases o <;> rfl

theorem Server.Alike.finds (h : Alike keyPrefix s s') (prompt : String) :
    s.finds keyPrefix prompt = s'.finds keyPrefix prompt := by
  rw [Server.finds_eq, Server.finds_eq, h.fails_eq, h.get?_eq]

/-- **An operation of another cache** changes nothing for this one: its key is none of those that
this cache has. -/
theorem alike_carryOut (hne : keyPrefix ≠ other) (ho : o.Keyed) :
    Server.Alike keyPrefix (s.carryOut other o).2 s := by
  obtain ⟨prompt, hkey⟩ := ho
  obtain ⟨-, hfailing, hhashes⟩ := carryOut_eq s other o
  refine ⟨hfailing, fun prompt' => ?_⟩
  rw [hhashes]
  split
  · have hforeign : keyOf keyPrefix prompt' ≠ (⟨other, s⟩ : Redis).hashKey o.key := by
      rw [hkey, hashKey_promptKey]
      intro h
      exact hne (keyOf_inj.1 h).1
    rw [get?_act, if_neg hforeign]
  · rfl

/-- **An operation of the cache itself** is answered alike, and leaves the servers alike. -/
theorem Server.Alike.carryOut (h : Alike keyPrefix s s') (ho : o.Keyed) :
    (s.carryOut keyPrefix o).1 = (s'.carryOut keyPrefix o).1
      ∧ Alike keyPrefix (s.carryOut keyPrefix o).2 (s'.carryOut keyPrefix o).2 := by
  obtain ⟨prompt, hkey⟩ := ho
  obtain ⟨hanswer, hfailing, hhashes⟩ := carryOut_eq s keyPrefix o
  obtain ⟨hanswer', hfailing', hhashes'⟩ := carryOut_eq s' keyPrefix o
  refine ⟨?_, ?_, fun prompt' => ?_⟩
  · rw [hanswer, hanswer', h.succeeds, hkey, hashKey_promptKey, hashKey_promptKey, h.get?_eq]
  · rw [hfailing, hfailing', h.failing_eq]
  · rw [hhashes, hhashes', h.succeeds]
    split
    · rw [get?_act, get?_act, h.get?_eq]
      rfl
    · exact h.get?_eq prompt'

/-! ### Runs -/

/-- What happens at a server. -/
inductive Event where
  /-- The cache with a prefix carries out an operation. -/
  | act (keyPrefix : String) (o : Operation)
  /-- From now on these commands fail, and no others. -/
  | outage (failing : List Verb)

/-- The operations are those of prompts. -/
def Event.Keyed : Event → Prop
  | .act _ o => o.Keyed
  | .outage _ => True

/-- Whether an event is an operation of the cache with a prefix, or an outage, which concerns all
caches. -/
def Event.concerns (keyPrefix : String) : Event → Bool
  | .act other _ => other == keyPrefix
  | .outage _ => true

namespace Server

/-- The server after an event. -/
def after (s : Server) : Event → Server
  | .act keyPrefix o => (s.carryOut keyPrefix o).2
  | .outage failing => { s with failing }

/-- The server after events, one after the other. -/
def afterAll (s : Server) (events : List Event) : Server :=
  events.foldl after s

/-- The answer that the cache with a prefix gets in an event. -/
def answer? (s : Server) (keyPrefix : String) : Event → Option (Except Failure Answer)
  | .act other o => if other = keyPrefix then some (s.carryOut other o).1 else none
  | .outage _ => none

theorem answer?_act (s : Server) (keyPrefix other : String) (o : Operation) :
    s.answer? keyPrefix (.act other o)
      = if other = keyPrefix then some (s.carryOut other o).1 else none := rfl

/-- The answers that the cache with a prefix gets, one after the other. -/
def answers (keyPrefix : String) : List Event → Server → List (Except Failure Answer)
  | [], _ => []
  | e :: rest, s => (s.answer? keyPrefix e).toList ++ answers keyPrefix rest (s.after e)

end Server

variable {events : List Event}

/-- **A run** of several caches is to one of them as if the others were not there. By induction on
the events; the servers with and without the other caches stay alike. -/
theorem Server.Alike.run (h : Alike keyPrefix s s') (hkeyed : ∀ e ∈ events, e.Keyed) :
    answers keyPrefix events s = answers keyPrefix (events.filter (Event.concerns keyPrefix)) s'
      ∧ Alike keyPrefix (s.afterAll events)
        (s'.afterAll (events.filter (Event.concerns keyPrefix))) := by
  induction events generalizing s s' with
  | nil => exact ⟨rfl, h⟩
  | cons e rest ih =>
    obtain ⟨he, hrest⟩ := List.forall_mem_cons.1 hkeyed
    cases e with
    | act other o =>
      by_cases hother : other = keyPrefix
      · subst hother
        obtain ⟨hanswer, hafter⟩ := h.carryOut he
        obtain ⟨hanswers, hlast⟩ := ih hafter hrest
        have hown : Event.concerns other (.act other o) = true := beq_self_eq_true other
        rw [List.filter_cons_of_pos hown]
        refine ⟨?_, hlast⟩
        show (s.answer? other (.act other o)).toList ++ answers other rest _
          = (s'.answer? other (.act other o)).toList ++ answers other _ _
        rw [answer?_act, answer?_act, hanswer]
        exact congrArg _ hanswers
      · have hafter := (alike_carryOut (s := s) (Ne.symm hother) he).trans h
        obtain ⟨hanswers, hlast⟩ := ih hafter hrest
        have hforeign : ¬ Event.concerns keyPrefix (.act other o) = true :=
          fun hsame => hother (eq_of_beq hsame)
        rw [List.filter_cons_of_neg hforeign]
        refine ⟨?_, hlast⟩
        show (s.answer? keyPrefix (.act other o)).toList ++ answers keyPrefix rest _ = _
        rw [answer?_act, if_neg hother]
        exact hanswers
    | outage failing =>
      rw [List.filter_cons_of_pos rfl]
      have hafter : Alike keyPrefix (s.after (.outage failing)) (s'.after (.outage failing)) :=
        ⟨rfl, h.get?_eq⟩
      exact ih hafter hrest

theorem Server.afterAll_append (s : Server) (events later : List Event) :
    s.afterAll (events ++ later) = (s.afterAll events).afterAll later :=
  List.foldl_append

/-- **Caches with different prefixes do not notice each other** in a run at one server. -/
structure Isolated (s : Server) (events : List Event) : Prop where
  /-- No two prefixes and prompts have the same key. -/
  injective : Function.Injective fun key : String × String =>
    (⟨key.1, s⟩ : Redis).hashKey (promptKey key.2)
  /-- No operation of a cache, at any point, changes what another one finds for any prompt. -/
  finds_eq : ∀ earlier keyPrefix o later, events = earlier ++ .act keyPrefix o :: later →
    ∀ other, other ≠ keyPrefix → ∀ prompt,
      (s.afterAll (earlier ++ [.act keyPrefix o])).finds other prompt
        = (s.afterAll earlier).finds other prompt
  /-- A record that was saved is found, whatever the others did since then. -/
  stays : ∀ earlier keyPrefix record later,
    events = earlier ++ .act keyPrefix (.save record) :: later →
    (s.afterAll earlier).failing = [] → record.createdAt.offset = 0 →
    (∀ e ∈ later, e.concerns keyPrefix = false) → ∀ prompt, record.key = promptKey prompt →
      (s.afterAll events).finds keyPrefix prompt = .ok (some record)
  /-- Every cache gets the answers that it would get without the others, -/
  answers_eq : ∀ keyPrefix, s.answers keyPrefix events
    = s.answers keyPrefix (events.filter (Event.concerns keyPrefix))
  /-- and finds in the end what it would find without them. -/
  alone : ∀ keyPrefix prompt, (s.afterAll events).finds keyPrefix prompt
    = (s.afterAll (events.filter (Event.concerns keyPrefix))).finds keyPrefix prompt

/-- **Caches at one server are isolated** by their prefixes, in every run in which the keys are
those of prompts. -/
theorem isolates (s : Server) (events : List Event) (hkeyed : ∀ e ∈ events, e.Keyed) :
    Isolated s events where
  injective := fun _ _ h => Prod.ext_iff.2 (keyOf_inj.1 h)
  finds_eq := by
    intro earlier keyPrefix o later hevents other hne prompt
    have ho : o.Keyed := hkeyed (.act keyPrefix o) (by simp [hevents])
    rw [Server.afterAll_append]
    exact (alike_carryOut hne ho).finds prompt
  stays := by
    intro earlier keyPrefix record later hevents hup hutc hothers prompt hkey
    have hlater : later.filter (Event.concerns keyPrefix) = [] := by
      rw [List.filter_eq_nil_iff]
      intro e he
      rw [hothers e he]
      exact Bool.false_ne_true
    have hkeyed' : ∀ e ∈ later, e.Keyed := fun e he => hkeyed e (by simp [hevents, he])
    obtain ⟨-, halike⟩ := (Server.Alike.refl keyPrefix
      ((s.afterAll earlier).carryOut keyPrefix (.save record)).2).run hkeyed'
    rw [hlater] at halike
    rw [hevents, Server.afterAll_append]
    exact (halike.finds prompt).trans (finds_saved hkey hutc hup keyPrefix)
  answers_eq := fun keyPrefix => ((Server.Alike.refl keyPrefix s).run hkeyed).1
  alone := fun keyPrefix prompt => ((Server.Alike.refl keyPrefix s).run hkeyed).2.finds prompt

/-- A record of a prompt, with a time and texts that do not matter. -/
def recordFor (prompt : String) : Record String :=
  { key := promptKey prompt, prompt, intentText := "", query := "", result := none,
    createdAt := (Timestamp.ofClock? 60000000 0).get (by decide) }

/-- A run in which the prefix of one cache goes on where the keys of the other one do. The first
deletion falls into an outage. -/
def sharing : List Event :=
  [.act "cache" (.save (recordFor "tea: green")),
    .act "cache:urn:prompt" (.save (recordFor "tea: green")),
    .act "cache" (.fetch (promptKey "urn:prompt:tea")),
    .outage [.delete],
    .act "cache" (.remove (promptKey "tea: green")),
    .outage [],
    .act "cache" (.remove (promptKey "tea: green"))]

theorem sharing_isolated : (∀ e ∈ sharing, e.Keyed) ∧ Isolated {} sharing := by
  have hkeyed : ∀ e ∈ sharing, e.Keyed := by
    simp only [sharing, List.forall_mem_cons, Event.Keyed, Operation.Keyed, Operation.key,
      recordFor]
    exact ⟨⟨_, rfl⟩, ⟨_, rfl⟩, ⟨_, rfl⟩, trivial, ⟨_, rfl⟩, trivial, ⟨_, rfl⟩,
      List.forall_mem_nil _⟩
  exact ⟨hkeyed, isolates {} sharing hkeyed⟩

end ConceptQuery.Cache.Redis
