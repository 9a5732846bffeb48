import ConceptQuery.Proofs.Cache.History
import ConceptQuery.Proofs.Service.Crowd
import Mathlib.Data.List.Induction

/-!
# The last writer

Clients of a cache take turns call by call. A look drops a record that has reached its lifetime, but
without a comparison of what it drops with what it found: a record that is put between its fetch and
its removal is lost, although nothing was written after it. This is the only way to lose one.

* `PromptCache.Operation.Asks`, `tells_operation` — the calls of every operation;
* `Crowd.Settled`, `Client.LooksInTime`, `Client.Returns` — the last write, and looks after it;
* `LastWriterWins`, `loses_last_write` — what is meant to hold, and a run in which it does not;
* `Crowd.Overtaken` — a look that finds a record before a write and drops one after it;
* `Crowd.Stands`, `stands_after` — what holds of a record that was put, from call to call;
* `returns_last_write` — the last writer wins unless a look was overtaken by it.
-/

namespace ConceptQuery

open Cache

/-- The operations of a cache, in turns. -/
abbrev Cache.Clients := Crowd PromptCache.Operation PromptCache.Reply

/-! ### Operations -/

/-- The calls of an operation of a cache. -/
def PromptCache.Operation.Asks (c : PromptCache) :
    PromptCache.Operation → List Answered → Call → Prop
  | .put prompt _ _ _ => fun _ call => call = .now ∨ ∃ r, call = .save r ∧ r.key = promptKey prompt
  | .get prompt => Looks c.ttl.micros (promptKey prompt)
  | .delete prompt => fun _ call => call = .remove (promptKey prompt)
  | .stats => fun _ call => call = .stats

/-- What an operation comes to by its calls; only looks are told. -/
def PromptCache.Operation.Ends (c : PromptCache) (o : PromptCache.Operation) (past : List Answered)
    (reply : Except Failure PromptCache.Reply) : Prop :=
  match o with
  | .get prompt => ∃ result,
    Looked c.ttl.micros (promptKey prompt) past result ∧ reply = result.map .found
  | _ => True

/-- **Every operation of a cache** is told by its calls. -/
theorem PromptCache.tells_operation (c : PromptCache) (o : PromptCache.Operation) :
    (o.plan c).Tells (o.Asks c) (o.Ends c) [] := by
  cases o with
  | put prompt query intentText result =>
    have hput : (PromptCache.put prompt query intentText result).Tells
        ((Operation.put prompt query intentText result).Asks c) _ [] :=
      tells_put (.inl rfl) fun _ _ => .inr ⟨_, rfl, rfl⟩
    exact hput.bind (fun _ _ _ _ => trivial) fun _ _ _ _ => trivial
  | get prompt => exact (tells_get c prompt).map Reply.found
  | delete prompt =>
    have hdelete : (PromptCache.delete prompt).Tells ((Operation.delete prompt).Asks c)
        (fun _ _ => True) [] := Plan.tells_call rfl fun _ _ => trivial
    exact hdelete.bind (fun _ _ _ _ => trivial) fun _ _ _ _ => trivial
  | stats =>
    have hstats : PromptCache.stats.Tells (Operation.stats.Asks c) (fun _ _ => True) [] :=
      Plan.tells_call rfl fun _ _ => trivial
    exact hstats.bind (fun _ _ _ _ => trivial) fun _ _ _ _ => trivial

/-- An operation writes for a prompt: it puts or deletes its record. -/
def PromptCache.Operation.Writes (prompt : String) : PromptCache.Operation → Prop
  | .put p _ _ _ => p = prompt
  | .delete p => p = prompt
  | .get _ => False
  | .stats => False

deriving instance DecidableEq for PromptCache.Operation

instance (prompt : String) : DecidablePred (PromptCache.Operation.Writes prompt)
  | .put p _ _ _ => inferInstanceAs (Decidable (p = prompt))
  | .delete p => inferInstanceAs (Decidable (p = prompt))
  | .get _ => inferInstanceAs (Decidable False)
  | .stats => inferInstanceAs (Decidable False)

/-- Whether a call drops the record of a key. -/
def Call.drops (key : String) : Call → Bool
  | .remove key' => key' == key
  | _ => false

namespace Cache

variable {c : PromptCache} {course : Nat → Moment} {k : Clients} {prompt : String}

/-! ### The last write -/

/-- After the call with a number, no put and no delete of a prompt makes any call. -/
def Settled (k : Clients) (prompt : String) (i : Nat) : Prop :=
  ∀ client ∈ k.clients, client.operation.Writes prompt → ∀ a ∈ client.past, a.number ≤ i

instance (k : Clients) (prompt : String) (i : Nat) : Decidable (Settled k prompt i) :=
  inferInstanceAs (Decidable (∀ client ∈ k.clients, client.operation.Writes prompt →
    ∀ a ∈ client.past, a.number ≤ i))

/-- A look for a prompt that begins after a call, and makes all of its calls while a record is below
its lifetime and the memory is in order. -/
structure LooksInTime (c : PromptCache) (course : Nat → Moment) (prompt : String) (i : Nat)
    (r : Record String) (client : Client PromptCache.Operation PromptCache.Reply) : Prop where
  operation_eq : client.operation = .get prompt
  after : ∀ a ∈ client.past, i < a.number
  live : ∀ a ∈ client.past,
    (course a.number).clock.instant - r.createdAt.instant < c.ttl.micros
  up : ∀ a ∈ client.past, (course a.number).down = []

/-- A look returns a record with its second call at the latest. -/
def Returns (r : Record String) (client : Client PromptCache.Operation PromptCache.Reply) : Prop :=
  client.rest = .done (.ok (.found (some (r.map .string))))
    ∨ client.past.length < 2 ∧ ∃ call next, client.rest = .ask call next

/-- **The last writer wins**: once a put has completed with its call number `i`, and no put or
delete of the prompt makes a call after it, every look that begins after it returns its record, as
long as that lives. -/
def LastWriterWins (c : PromptCache) (course : Nat → Moment) (k : Clients) : Prop :=
  ∀ prompt query intentText result, ∀ writer ∈ k.clients,
    writer.operation = .put prompt query intentText result →
    ∀ i r, ⟨i, .save r, .ok ()⟩ ∈ writer.past → Settled k prompt i →
    ∀ reader ∈ k.clients, LooksInTime c course prompt i r reader → Returns r reader

/-- A clock that stands still for two calls and then shows a time ten minutes later. -/
def tenMinutesOn (n : Nat) : Moment :=
  ⟨if n < 2 then Moment.first.clock else (Timestamp.ofClock? 600000000 0).get (by decide), []⟩

theorem forward_tenMinutesOn : Forward tenMinutesOn := by
  intro i j hij
  have hclock (n : Nat) : (tenMinutesOn n).clock.instant = if n < 2 then 0 else 600000000 := by
    unfold tenMinutesOn
    split
    · rfl
    · rfl
  rw [hclock, hclock]
  split
  · split
    · exact Int.le_refl 0
    · decide
  · have hj : ¬ j < 2 := by omega
    exact Int.le_of_eq (if_neg hj).symm

/-- An empty memory. -/
def emptyStage : Stage :=
  ⟨⟨Moment.first.clock, .memory {}, ⟨default, .ofList [], .empty⟩, .always default⟩, 0⟩

/-- The calls of four clients. A record is put and reaches its lifetime. One client fetches it;
another one puts a new record; the first, which has found the old record expired, drops the new one;
and a third client looks for the prompt. -/
def overtakenLook : Clients :=
  emptyStage.deserted.after (PromptCache.Operation.plan ⟨.tenMinutes⟩) tenMinutesOn
    [.arrive (.put "tea" "old" "text" none), .call 0, .call 0, .arrive (.get "tea"), .call 1,
      .arrive (.put "tea" "new" "text" none), .call 2, .call 2, .call 1, .call 1,
      .arrive (.get "tea"), .call 3]

/-- The record that the second writer puts. -/
def newRecord : Record String := recordAt "tea" "new" "text" none (tenMinutesOn 2).clock

/-- **A lost write**: the third client finds nothing, although the new record has just been put,
nothing was written after it, the clock never went back and nothing was out of order. -/
theorem loses_last_write : Forward tenMinutesOn ∧ (∀ n, (tenMinutesOn n).down = [])
    ∧ ¬ LastWriterWins ⟨.tenMinutes⟩ tenMinutesOn overtakenLook := by
  refine ⟨forward_tenMinutesOn, fun _ => rfl, fun hwins => ?_⟩
  have hwriter : overtakenLook.clients[2]? = some ⟨.put "tea" "new" "text" none,
      [⟨3, .now, .ok (tenMinutesOn 2).clock⟩, ⟨4, .save newRecord, .ok ()⟩],
      .done (.ok (.written newRecord))⟩ := rfl
  have hreader : overtakenLook.clients[3]? = some ⟨.get "tea",
      [⟨7, .fetch (promptKey "tea"), .ok none⟩], .done (.ok (.found none))⟩ := rfl
  have hsettled : Settled overtakenLook "tea" 4 := by decide
  have hlooks : LooksInTime ⟨.tenMinutes⟩ tenMinutesOn "tea" 4 newRecord
      ⟨.get "tea", [⟨7, .fetch (promptKey "tea"), .ok none⟩], .done (.ok (.found none))⟩ := by
    refine ⟨rfl, ?_, ?_, fun _ _ => rfl⟩
    · intro a ha
      obtain rfl := List.mem_singleton.1 ha
      decide
    · intro a ha
      obtain rfl := List.mem_singleton.1 ha
      decide
  rcases hwins "tea" "new" "text" none _ (List.mem_of_getElem? hwriter) rfl 4 newRecord
    (List.mem_cons_of_mem _ List.mem_cons_self) hsettled _ (List.mem_of_getElem? hreader) hlooks
    with hreturned | ⟨-, call, next, hgoing⟩
  · cases hreturned
  · cases hgoing

/-! ### Looks that are overtaken -/

/-- A look for a prompt that made a call before that of a write, and drops a record after it. -/
def Overtaken (k : Clients) (prompt : String) (i : Nat) : Prop :=
  ∃ client ∈ k.clients, client.operation = .get prompt ∧ (∃ a ∈ client.past, a.number ≤ i)
    ∧ ∃ a ∈ client.past, a.call.drops (promptKey prompt) = true ∧ i < a.number

instance (k : Clients) (prompt : String) (i : Nat) : Decidable (Overtaken k prompt i) :=
  inferInstanceAs (Decidable (∃ client ∈ k.clients, client.operation = .get prompt
    ∧ (∃ a ∈ client.past, a.number ≤ i)
    ∧ ∃ a ∈ client.past, a.call.drops (promptKey prompt) = true ∧ i < a.number))

/-- After a call, no record of a key is written, and one is dropped only by looks that have fetched
it after the call as well and found it expired. -/
structure Undisturbed (k : Clients) (ttl : Int) (key : String) (i : Nat) : Prop where
  saves : ∀ client ∈ k.clients, ∀ n r answer, ⟨n, .save r, answer⟩ ∈ client.past → i < n →
    r.key ≠ key
  removes : ∀ client ∈ k.clients, ∀ earlier n answer later,
    client.past = earlier ++ ⟨n, .remove key, answer⟩ :: later → i < n → ∃ j m r t,
      earlier = [⟨j, .fetch key, .ok (some r)⟩, ⟨m, .now, .ok t⟩] ∧ i < j
        ∧ r.isExpired ttl t = true

/-- Without later writes and overtaken looks, a key is undisturbed. The cases are the operations
that a call can belong to. -/
theorem Settled.undisturbed {i : Nat} (hsettled : Settled k prompt i)
    (hovertaken : ¬ Overtaken k prompt i)
    (htells : ∀ client ∈ k.clients,
      client.Tells (client.operation.Asks c) (client.operation.Ends c)) :
    Undisturbed k c.ttl.micros (promptKey prompt) i where
  saves := by
    intro client hclient n r answer hsave hn hkey
    obtain ⟨earlier, later, hpast⟩ := List.append_of_mem hsave
    have hasks := (htells client hclient).asked earlier _ later hpast
    have hlate := hsettled client hclient
    cases ho : client.operation with
    | put p query intentText result =>
      rw [ho] at hasks hlate
      rcases hasks with hnow | ⟨r', hsame, hkey'⟩
      · cases hnow
      · obtain rfl := Call.save.inj hsame
        have hp : p = prompt := promptKey_inj.1 (hkey'.symm.trans hkey)
        exact Nat.not_le.2 hn (hlate hp _ hsave)
    | _ =>
      rw [ho] at hasks
      cases hasks
  removes := by
    intro client hclient earlier n answer later hpast hn
    have hasks := (htells client hclient).asked earlier _ later hpast
    have hremove : ⟨n, .remove (promptKey prompt), answer⟩ ∈ client.past := by
      rw [hpast]
      exact List.mem_append_right _ List.mem_cons_self
    have hlate := hsettled client hclient
    cases ho : client.operation with
    | put p query intentText result =>
      rw [ho] at hasks
      rcases hasks with hnow | ⟨r', hsave, -⟩
      · cases hnow
      · cases hsave
    | get p =>
      rw [ho] at hasks
      obtain ⟨hkey, j, m, r, t, rfl, hexpired⟩ := Looks.of_remove hasks
      have hp : p = prompt := promptKey_inj.1 hkey
      have hfetch : ⟨j, .fetch (promptKey prompt), .ok (some r)⟩ ∈ client.past := by
        rw [hpast]
        exact List.mem_cons_self
      refine ⟨j, m, r, t, rfl, Nat.lt_of_not_le fun hj => hovertaken ?_, hexpired⟩
      exact ⟨client, hclient, hp ▸ ho, ⟨_, hfetch, hj⟩, _, hremove, beq_self_eq_true _, hn⟩
    | delete p =>
      rw [ho] at hasks hlate
      have hp : p = prompt := promptKey_inj.1 (Call.remove.inj hasks).symm
      exact absurd (hlate hp _ hremove) (Nat.not_le.2 hn)
    | stats =>
      rw [ho] at hasks
      cases hasks

/-- What was undisturbed by a run was undisturbed by the beginning of it. -/
theorem Undisturbed.of_grows {k' : Clients} {ttl : Int} {key : String} {i : Nat}
    (h : Undisturbed k' ttl key i) (hgrows : k.Grows k') : Undisturbed k ttl key i where
  saves := by
    intro client hclient n r answer hsave
    obtain ⟨client', hclient', -, hpre⟩ := hgrows client hclient
    exact h.saves client' hclient' n r answer (hpre.subset hsave)
  removes := by
    intro client hclient earlier n answer later hpast
    obtain ⟨client', hclient', -, more, hmore⟩ := hgrows client hclient
    apply h.removes client' hclient' earlier n answer (later ++ more)
    rw [← hmore, hpast, List.append_assoc, List.cons_append]

/-! ### What stands -/

/-- A record is at the end of its lifetime at a call and all later ones. -/
def Outlived (ttl : Int) (course : Nat → Moment) (n : Nat) (r : Record String) : Prop :=
  ∀ m, n ≤ m → r.isExpired ttl (course m).clock = true

theorem Forward.outlived {ttl : Int} {n : Nat} {r : Record String} (hclock : Forward course)
    (h : r.isExpired ttl (course n).clock = true) : Outlived ttl course n r :=
  fun _ hm => hclock.isExpired hm h

theorem Outlived.mono {ttl : Int} {n m : Nat} {r : Record String} (h : Outlived ttl course n r)
    (hnm : n ≤ m) : Outlived ttl course m r :=
  fun l hl => h l (Nat.le_trans hnm hl)

/-- A record that was written by the call with a number stands: it is in place unless it has
outlived its lifetime, and every look that fetched its key after that call found it, unless the
memory was out of order or the record had outlived its lifetime. -/
structure Stands (ttl : Int) (course : Nat → Moment) (k : Clients) (i : Nat) (r : Record String) :
    Prop where
  inPlace : ∃ records, k.stage.Records records
    ∧ (records.get? r.key = some r ∨ Outlived ttl course k.stage.calls r)
  fetched : ∀ client ∈ k.clients, ∀ j answer later,
    client.past = ⟨j, .fetch r.key, answer⟩ :: later → i < j →
      answer = .error Memory.isDown ∧ fails course j .fetch = true
        ∨ answer = .ok (some (r.map .string)) ∨ Outlived ttl course j r

variable {ttl : Int} {i : Nat} {r : Record String}

/-- A record stands after the call that wrote it. -/
theorem stands_of_save {k' : Clients} {s : Stage} {records : Table (Record String)}
    (hs : s.Records records) (hanswer : .ok () = (answerAt course (.save r) s).1)
    (hstage : k'.stage = (answerAt course (.save r) s).2)
    (htimed : ∀ client ∈ k'.clients, client.Timed course k'.stage.calls) :
    Stands ttl course k' s.calls r := by
  obtain ⟨s', hsaved, hrecords, hcalls⟩ := answerAt_save course r hs
  rw [hsaved] at hanswer hstage
  obtain rfl : k'.stage = s' := hstage
  refine ⟨?_, fun client hclient j answer later hpast hj => ?_⟩
  · by_cases hfails : fails course s.calls .save = true
    · rw [if_pos hfails] at hanswer
      cases hanswer
    · rw [if_neg hfails] at hrecords
      exact ⟨_, hrecords, .inl (Table.get?_insert_self _ _ _)⟩
  · have hmade := (htimed client hclient).made _ (hpast ▸ List.mem_cons_self)
    rw [hcalls] at hmade
    exact absurd hj (Nat.not_lt.2 (Nat.le_of_lt_succ hmade))

/-- A call of an undisturbed run leaves in place what stands. The cases are the calls that can
change a record. -/
theorem get?_reflect_of_stands {n : Nat} {records : Table (Record String)} {call : Call}
    (hplace : records.get? r.key = some r ∨ Outlived ttl course n r)
    (hsave : ∀ r', call = .save r' → r'.key ≠ r.key)
    (hremove : call = .remove r.key → Outlived ttl course n r) :
    (reflect course n records call).get? r.key = some r ∨ Outlived ttl course (n + 1) r := by
  rcases hplace with hget | hlate
  · cases call with
    | save r' =>
      left
      rw [show reflect course n records (.save r')
        = if fails course n .save then records else records.insert r'.key r' from rfl,
        get?_saved _ _ _ (hsave r' rfl).symm]
      exact hget
    | remove key =>
      by_cases hkey : key = r.key
      · exact .inr ((hremove (congrArg Call.remove hkey)).mono (Nat.le_succ n))
      · left
        show (if fails course n .remove then records else records.erase key).get? r.key = some r
        split
        · exact hget
        · rw [Table.get?_erase_of_ne _ (Ne.symm hkey)]
          exact hget
    | _ => exact .inl hget
  · exact .inr (hlate.mono (Nat.le_succ n))

/-- What a look fetches of a record that stands. -/
theorem fetched_of_stands {s : Stage} {records : Table (Record String)} (hs : s.Records records)
    (hplace : records.get? r.key = some r ∨ Outlived ttl course s.calls r) :
    (answerAt course (.fetch r.key) s).1 = .error Memory.isDown ∧ fails course s.calls .fetch = true
      ∨ (answerAt course (.fetch r.key) s).1 = .ok (some (r.map .string))
      ∨ Outlived ttl course s.calls r := by
  obtain ⟨s', hanswer, -, -⟩ := answerAt_fetch course r.key hs
  rw [hanswer]
  by_cases hfails : fails course s.calls .fetch = true
  · exact .inl ⟨if_pos hfails, hfails⟩
  · right
    rcases hplace with hget | hlate
    · left
      dsimp only
      rw [if_neg hfails, hget]
      rfl
    · exact .inr hlate

/-- A look that found a record expired which it fetched after the write: what stands has outlived
its lifetime by now. -/
theorem Stands.outlived (h : Stands ttl course k i r) (hclock : Forward course)
    {client : Client PromptCache.Operation PromptCache.Reply} (hclient : client ∈ k.clients)
    {n j m : Nat} (htimed : client.Timed course n) {r' : Record Json} {t : Timestamp}
    (hpast : client.past = [⟨j, .fetch r.key, .ok (some r')⟩, ⟨m, .now, .ok t⟩]) (hj : i < j)
    (hexpired : r'.isExpired ttl t = true) : Outlived ttl course n r := by
  have hfetch : ⟨j, .fetch r.key, .ok (some r')⟩ ∈ client.past := by
    rw [hpast]
    exact List.mem_cons_self
  have hnow : ⟨m, .now, .ok t⟩ ∈ client.past := by
    rw [hpast]
    exact List.mem_cons_of_mem _ List.mem_cons_self
  obtain rfl : t = (course m).clock := Except.ok.inj (htimed.clock m (.ok t) hnow)
  rcases h.fetched client hclient j (.ok (some r')) _ hpast hj with ⟨hdown, -⟩ | hfound | hlate
  · cases hdown
  · obtain rfl := Option.some.inj (Except.ok.inj hfound)
    exact (hclock.outlived hexpired).mono (Nat.le_of_lt (htimed.made _ hnow))
  · exact hlate.mono (Nat.le_of_lt (htimed.made _ hfetch))

/-- **Every step of an undisturbed run** leaves standing what stands. -/
theorem Stands.step {plan : PromptCache.Operation → Plan PromptCache.Reply}
    (hclock : Forward course) (h : Stands ttl course k i r) (hi : i < k.stage.calls)
    (m : Move PromptCache.Operation)
    (htimed : ∀ client ∈ k.clients, client.Timed course k.stage.calls)
    (hundisturbed : Undisturbed (k.step plan course m) ttl r.key i) :
    Stands ttl course (k.step plan course m) i r := by
  obtain ⟨records, hrecords, hplace⟩ := h.inPlace
  obtain ⟨o, hstep⟩ | hstep | ⟨n, client, call, next, hget, hrest, hstep⟩ :=
    k.step_cases plan course m
  · rw [hstep]
    refine ⟨h.inPlace, fun client hclient j answer later hpast => ?_⟩
    rcases List.mem_append.1 hclient with hclient | hclient
    · exact h.fetched client hclient j answer later hpast
    · obtain rfl := List.mem_singleton.1 hclient
      cases hpast
  · rw [hstep]
    exact h
  · have hclient := List.mem_of_getElem? hget
    rw [hstep] at hundisturbed ⊢
    -- the client after its call, which is among the clients of the step
    have hanswered := List.mem_set (List.getElem?_eq_some_iff.1 hget).1
      (client.answered ⟨k.stage.calls, call, (answerAt course call k.stage).1⟩
        (next (answerAt course call k.stage).1))
    have hsave (r' : Record String) (hr' : call = .save r') : r'.key ≠ r.key := by
      subst hr'
      exact hundisturbed.saves _ hanswered _ r' _
        (List.mem_append_right _ (List.mem_singleton_self _)) hi
    have hremove (hdrop : call = .remove r.key) : Outlived ttl course k.stage.calls r := by
      subst hdrop
      obtain ⟨j, l, r', t, hpast, hj, hexpired⟩ :=
        hundisturbed.removes _ hanswered client.past _ _ [] rfl hi
      exact h.outlived hclock hclient (htimed client hclient) hpast hj hexpired
    refine ⟨⟨_, (records_answerAt course call hrecords).1,
      get?_reflect_of_stands hplace hsave hremove⟩, fun d hd j answer later hpast hj => ?_⟩
    rcases List.mem_or_eq_of_mem_set hd with hd | rfl
    · exact h.fetched d hd j answer later hpast hj
    · cases hfirst : client.past with
      | nil =>
        rw [Client.answered, hfirst] at hpast
        cases (List.cons.inj hpast).1
        exact fetched_of_stands hrecords hplace
      | cons a rest =>
        rw [Client.answered, hfirst] at hpast
        obtain ⟨rfl, -⟩ := List.cons.inj hpast
        exact h.fetched client hclient j answer rest hfirst hj

/-- **A record that was put stands** in every run that does not disturb it. -/
theorem stands_after (hclock : Forward course) (c : PromptCache) {s : Stage}
    (hs : ∃ records, s.Records records) (moves : List (Move PromptCache.Operation))
    (hcalled : (s.deserted.after (PromptCache.Operation.plan c) course moves).Called
      ⟨i, .save r, .ok ()⟩)
    (hundisturbed : Undisturbed (s.deserted.after (PromptCache.Operation.plan c) course moves) ttl
      r.key i) :
    Stands ttl course (s.deserted.after (PromptCache.Operation.plan c) course moves) i r := by
  induction moves using List.reverseRecOn with
  | nil =>
    obtain ⟨client, hclient, -⟩ := hcalled
    cases hclient
  | append_singleton moves m ih =>
    have htimed := timed_after (PromptCache.Operation.plan c) course s
    have hlast := htimed (moves ++ [m])
    rw [after_concat] at hcalled hundisturbed hlast ⊢
    rcases hcalled.of_step with hbefore | ⟨rfl, hanswer, hstage⟩
    · have ⟨client, hclient, hmade⟩ := hbefore
      have hgrows := Crowd.grows_step (PromptCache.Operation.plan c) course
        (s.deserted.after (PromptCache.Operation.plan c) course moves) m
      have hstands := ih hbefore (hundisturbed.of_grows hgrows)
      exact hstands.step hclock ((htimed moves client hclient).made _ hmade) m (htimed moves)
        hundisturbed
    · obtain ⟨records, hrecords⟩ := records_after (PromptCache.Operation.plan c) course hs moves
      exact stands_of_save hrecords hanswer hstage hlast

/-! ### Looks after the last write -/

/-- A record that is live when a look checks it is what the look has found. -/
theorem Stands.found (h : Stands c.ttl.micros course k i r)
    {reader : Client PromptCache.Operation PromptCache.Reply} (hreader : reader ∈ k.clients)
    (hlooks : LooksInTime c course prompt i r reader) {j : Nat}
    {answer : Except Failure (Option (Record Json))} {later : List Answered}
    (hpast : reader.past = ⟨j, .fetch r.key, answer⟩ :: later) :
    answer = .ok (some (r.map .string)) := by
  have hfetch : ⟨j, .fetch r.key, answer⟩ ∈ reader.past := by
    rw [hpast]
    exact List.mem_cons_self
  rcases h.fetched reader hreader j answer later hpast (hlooks.after _ hfetch) with
    ⟨-, hfails⟩ | hfound | hlate
  · rw [fails, hlooks.up _ hfetch] at hfails
    cases hfails
  · exact hfound
  · have hage : c.ttl.micros ≤ r.age (course j).clock := of_decide_eq_true (hlate j (Nat.le_refl j))
    exact absurd (hlooks.live _ hfetch) (Int.not_lt.2 hage)

/-- **A look in time** returns what stands. The cases are how far it has come: to a result, or to a
call that is still to be made. -/
theorem Stands.returns (h : Stands c.ttl.micros course k i r) (hkey : r.key = promptKey prompt)
    {reader : Client PromptCache.Operation PromptCache.Reply} (hreader : reader ∈ k.clients)
    (htells : reader.Tells (reader.operation.Asks c) (reader.operation.Ends c))
    (htimed : reader.Timed course k.stage.calls)
    (hlooks : LooksInTime c course prompt i r reader) : Returns r reader := by
  have hrest := htells.rest
  rw [hlooks.operation_eq] at hrest
  have hdated (m : Nat) (answer : Except Failure Timestamp)
      (hnow : ⟨m, .now, answer⟩ ∈ reader.past) : answer = .ok (course m).clock :=
    htimed.clock m answer hnow
  -- no look in time finds the record expired
  have hlive {j m : Nat} {r' : Record Json} {t : Timestamp} {later : List Answered}
      (hpast : reader.past = ⟨j, .fetch r.key, .ok (some r')⟩ :: ⟨m, .now, .ok t⟩ :: later) :
      ¬ r'.isExpired c.ttl.micros t = true := by
    have hnow : ⟨m, .now, .ok t⟩ ∈ reader.past := by
      rw [hpast]
      exact List.mem_cons_of_mem _ List.mem_cons_self
    obtain rfl := Except.ok.inj (hdated m (.ok t) hnow)
    obtain rfl := Option.some.inj (Except.ok.inj (h.found hreader hlooks hpast))
    intro hexpired
    exact absurd (hlooks.live _ hnow) (Int.not_lt.2 (of_decide_eq_true hexpired))
  cases hplan : reader.rest with
  | done reply =>
    rw [hplan] at hrest
    obtain ⟨result, hlooked, rfl⟩ := hrest
    rw [← hkey] at hlooked
    generalize hpast : reader.past = past at hlooked
    cases hlooked with
    | down => cases h.found hreader hlooks hpast
    | missing => cases h.found hreader hlooks hpast
    | undated =>
      cases hdated _ (.error _) (by rw [hpast]; exact List.mem_cons_of_mem _ List.mem_cons_self)
    | live _ =>
      left
      rw [hplan, Option.some.inj (Except.ok.inj (h.found hreader hlooks hpast))]
      rfl
    | stuck hexpired => exact absurd hexpired (hlive hpast)
    | expired hexpired => exact absurd hexpired (hlive hpast)
  | ask call next =>
    rw [hplan] at hrest
    have hasks : Looks c.ttl.micros (promptKey prompt) reader.past call := hrest.1
    rw [← hkey] at hasks
    refine .inr ⟨?_, call, next, hplan⟩
    generalize hpast : reader.past = past at hasks
    cases hasks with
    | fetch => exact Nat.zero_lt_two
    | now => exact Nat.one_lt_two
    | remove hexpired => exact absurd hexpired (hlive hpast)

/-- **The last writer wins unless it overtakes a look.** Clients of a cache over one memory take
turns in any order, with a clock that never goes back and with outages at any calls. Once a put has
completed, and neither a put nor a delete of the prompt makes a call after it, every look that
begins after it and finds the memory in order returns its record for as long as that lives, unless
some look had fetched an earlier record before the put and drops the record after it. -/
theorem returns_last_write (hclock : Forward course) (c : PromptCache) {s : Stage}
    (hs : ∃ records, s.Records records) (moves : List (Move PromptCache.Operation)) :
    let k := s.deserted.after (PromptCache.Operation.plan c) course moves
    ∀ prompt query intentText result, ∀ writer ∈ k.clients,
      writer.operation = .put prompt query intentText result →
      ∀ i r, ⟨i, .save r, .ok ()⟩ ∈ writer.past → Settled k prompt i → ¬ Overtaken k prompt i →
      ∀ reader ∈ k.clients, LooksInTime c course prompt i r reader → Returns r reader := by
  intro k prompt query intentText result writer hwriter hput i r hsave hsettled hovertaken reader
    hreader hlooks
  have htells : ∀ client ∈ k.clients,
      client.Tells (client.operation.Asks c) (client.operation.Ends c) :=
    tells_after c.tells_operation course s moves
  have hkey : r.key = promptKey prompt := by
    obtain ⟨earlier, later, hpast⟩ := List.append_of_mem hsave
    have hasks := (htells writer hwriter).asked earlier _ later hpast
    rw [hput] at hasks
    rcases hasks with hnow | ⟨r', hsame, hkey⟩
    · cases hnow
    · rw [Call.save.inj hsame, hkey]
  have hundisturbed : Undisturbed k c.ttl.micros r.key i := by
    rw [hkey]
    exact hsettled.undisturbed hovertaken htells
  have hstands : Stands c.ttl.micros course k i r :=
    stands_after hclock c hs moves ⟨writer, hwriter, hsave⟩ hundisturbed
  exact hstands.returns hkey hreader (htells reader hreader)
    (timed_after (PromptCache.Operation.plan c) course s moves reader hreader) hlooks

/-- A look that finds a record at the end of its lifetime and drops it, a put of a new record, a
look that finds it, and one that has only fetched it. -/
def sweptLook : Clients :=
  emptyStage.deserted.after (PromptCache.Operation.plan ⟨.tenMinutes⟩) tenMinutesOn
    [.arrive (.put "tea" "old" "text" none), .call 0, .call 0, .arrive (.get "tea"), .call 1,
      .call 1, .call 1, .arrive (.put "tea" "new" "text" none), .call 2, .call 2,
      .arrive (.get "tea"), .call 3, .arrive (.get "tea"), .call 4, .call 3]

/-- Every look after the put of the new record returns it: no look was overtaken. -/
theorem returns_last_write_swept : Settled sweptLook "tea" 6 ∧ ¬ Overtaken sweptLook "tea" 6
    ∧ ∀ reader ∈ sweptLook.clients,
      LooksInTime ⟨.tenMinutes⟩ tenMinutesOn "tea" 6 newRecord reader →
      Returns newRecord reader := by
  have hwriter : sweptLook.clients[2]? = some ⟨.put "tea" "new" "text" none,
      [⟨5, .now, .ok (tenMinutesOn 2).clock⟩, ⟨6, .save newRecord, .ok ()⟩],
      .done (.ok (.written newRecord))⟩ := rfl
  have hsettled : Settled sweptLook "tea" 6 := by decide
  have hovertaken : ¬ Overtaken sweptLook "tea" 6 := by decide
  refine ⟨hsettled, hovertaken, ?_⟩
  exact returns_last_write forward_tenMinutesOn ⟨.tenMinutes⟩ ⟨.empty, [], rfl⟩ _ "tea" "new" "text"
    none _ (List.mem_of_getElem? hwriter) rfl 6 newRecord
    (List.mem_cons_of_mem _ List.mem_cons_self) hsettled hovertaken

end Cache

end ConceptQuery
