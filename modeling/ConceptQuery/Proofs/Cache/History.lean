import ConceptQuery.Proofs.Cache.Key
import ConceptQuery.Proofs.Service.MemoryRun
import ConceptQuery.Proofs.Table

/-!
# The cache as a map with lifetimes

What the operations on a cache have done to a prompt is told by their history alone: by the latest
of the writes and drops of exactly this prompt, and by when they were.

* `Event`, `history` — the operations of a run that succeeded, the latest first;
* `lastWrite` — the latest put or delete of a prompt;
* `Effect`, `lastEffect` — the latest event that put a record in its place or took it away, a look
  that found it expired included;
* `Matches` — records that stand for a history;
* `Follows`, `follows_finish` — the surroundings of a run follow its history.
-/

namespace ConceptQuery.Cache

/-! ### Histories -/

/-- An operation that succeeded. -/
inductive Event where
  | put (r : Record String)
  | delete (prompt : String)
  /-- A look for the record of a prompt, with the time at which its age was told. -/
  | get (prompt : String) (now : Timestamp)

/-- The event of a turn, if its operation succeeded. A record is made at the time of the first call,
its age is told at the time of the second. -/
def eventOf (course : Nat → Moment) (t : Turn PromptCache.Operation PromptCache.Reply) :
    Option Event :=
  match t.reply, t.operation with
  | .error _, _ => none
  | .ok _, .put prompt query intentText result =>
    some (.put (recordAt prompt query intentText result (course t.before.calls).clock))
  | .ok _, .get prompt => some (.get prompt (course (t.before.calls + 1)).clock)
  | .ok _, .delete prompt => some (.delete prompt)
  | .ok _, .stats => none

/-- The operations that succeeded, the latest first. -/
def history (course : Nat → Moment) (ts : List (Turn PromptCache.Operation PromptCache.Reply)) :
    List Event :=
  (ts.filterMap (eventOf course)).reverse

/-- What an event writes for a prompt: a record, or none if it is dropped. -/
def Event.write? (prompt : String) : Event → Option (Option (Record String))
  | .put r => if r.prompt = prompt then some (some r) else none
  | .delete p => if p = prompt then some none else none
  | .get _ _ => none

/-- The latest put or delete of a prompt: the record that was put, or none if it was deleted. -/
def lastWrite (prompt : String) (past : List Event) : Option (Option (Record String)) :=
  past.findSome? (Event.write? prompt)

/-- What an event does to the record of a prompt. -/
inductive Effect where
  | written (r : Record String)
  | deleted
  | expired

/-- The latest event that had an effect on a prompt: a put, a delete, or a look that found a record
at the end of its lifetime. -/
def lastEffect (ttl : Int) (prompt : String) : List Event → Option Effect
  | [] => none
  | .put r :: past => if r.prompt = prompt then some (.written r) else lastEffect ttl prompt past
  | .delete p :: past => if p = prompt then some .deleted else lastEffect ttl prompt past
  | .get p now :: past =>
    match lastEffect ttl prompt past with
    | some (.written r) =>
      if p = prompt ∧ ttl ≤ now.instant - r.createdAt.instant then some .expired
      else some (.written r)
    | e => e

/-- The record that an effect leaves in place. -/
def Effect.record? : Effect → Option (Record String)
  | .written r => some r
  | .deleted => none
  | .expired => none

/-- The record that is in place for a prompt. -/
def held (ttl : Int) (prompt : String) (past : List Event) : Option (Record String) :=
  (lastEffect ttl prompt past).bind Effect.record?

variable {ttl : Int} {prompt : String} {past : List Event}

theorem held_eq_some {r : Record String} :
    held ttl prompt past = some r ↔ lastEffect ttl prompt past = some (.written r) := by
  unfold held
  cases lastEffect ttl prompt past with
  | none => simp
  | some e => cases e <;> simp [Effect.record?]

theorem held_put (r : Record String) :
    held ttl prompt (.put r :: past)
      = if r.prompt = prompt then some r else held ttl prompt past := by
  unfold held
  rw [lastEffect]
  by_cases h : r.prompt = prompt
  · rw [if_pos h, if_pos h]
    rfl
  · rw [if_neg h, if_neg h]

theorem held_delete (p : String) :
    held ttl prompt (.delete p :: past) = if p = prompt then none else held ttl prompt past := by
  unfold held
  rw [lastEffect]
  by_cases h : p = prompt
  · rw [if_pos h, if_pos h]
    rfl
  · rw [if_neg h, if_neg h]

/-- A look takes away the record of its prompt if it finds it at the end of its lifetime. -/
theorem held_get (p : String) (now : Timestamp) :
    held ttl prompt (.get p now :: past) = (held ttl prompt past).filter fun r =>
      !(p == prompt && r.isExpired ttl now) := by
  unfold held
  rw [lastEffect]
  rcases lastEffect ttl prompt past with _ | (r | _ | _)
  · rfl
  · show Option.bind (if p = prompt ∧ ttl ≤ r.age now then some Effect.expired
      else some (Effect.written r)) _ = Option.filter _ (some r)
    rw [Option.filter_some]
    by_cases h : p = prompt ∧ ttl ≤ r.age now
    · rw [if_pos h, if_neg]
      · rfl
      · simp [Record.isExpired, h]
    · rw [if_neg h, if_pos]
      · rfl
      · by_cases hp : p = prompt
        · have hlive : ¬ ttl ≤ r.age now := fun hage => h ⟨hp, hage⟩
          simp [Record.isExpired, hlive]
        · simp [hp]
  · rfl
  · rfl

theorem held_get_of_live {p : String} {now : Timestamp}
    (h : ∀ r, held ttl p past = some r → r.isExpired ttl now = false) :
    held ttl prompt (.get p now :: past) = held ttl prompt past := by
  rw [held_get]
  cases hheld : held ttl prompt past with
  | none => rfl
  | some r =>
    rw [Option.filter_some, if_pos]
    by_cases hp : p = prompt
    · rw [h r (hp ▸ hheld), Bool.and_false]
      rfl
    · rw [beq_false_of_ne hp, Bool.false_and]
      rfl

theorem held_get_of_expired {p : String} {now : Timestamp} {r : Record String}
    (h : held ttl p past = some r) (hexpired : r.isExpired ttl now = true) :
    held ttl prompt (.get p now :: past) = if p = prompt then none else held ttl prompt past := by
  rw [held_get]
  by_cases hp : p = prompt
  · rw [if_pos hp, ← hp, h, Option.filter_some, beq_self_eq_true, hexpired]
    rfl
  · rw [if_neg hp]
    cases held ttl prompt past with
    | none => rfl
    | some r' =>
      rw [Option.filter_some, beq_false_of_ne hp]
      rfl

/-- What is in place was written last. -/
theorem lastWrite_of_held {r : Record String} (h : held ttl prompt past = some r) :
    lastWrite prompt past = some (some r) := by
  induction past with
  | nil => cases h
  | cons e past ih =>
    cases e with
    | put r' =>
      rw [held_put] at h
      by_cases hp : r'.prompt = prompt
      · rw [if_pos hp] at h
        obtain rfl := Option.some.inj h
        simp [lastWrite, Event.write?, hp]
      · rw [if_neg hp] at h
        have hlast := ih h
        simpa [lastWrite, Event.write?, hp] using hlast
    | delete p =>
      rw [held_delete] at h
      by_cases hp : p = prompt
      · rw [if_pos hp] at h
        cases h
      · rw [if_neg hp] at h
        have hlast := ih h
        simpa [lastWrite, Event.write?, hp] using hlast
    | get p now =>
      rw [held_get] at h
      exact ih (Option.filter_eq_some_iff.1 h).1

/-! ### Records that stand for a history -/

/-- Under the key of every prompt stands the record that is in place for it, and nothing else is
there. -/
structure Matches (ttl : Int) (past : List Event) (records : Table (Record String)) : Prop where
  get?_eq : ∀ prompt, records.get? (promptKey prompt) = held ttl prompt past
  keys : ∀ key ∈ records.keys, ∃ prompt, key = promptKey prompt

variable {records : Table (Record String)}

theorem matches_empty : Matches ttl [] .empty where
  get?_eq := fun _ => rfl
  keys := by
    intro key hkey
    cases hkey

theorem Matches.put (h : Matches ttl past records) (r : Record String) :
    Matches ttl (.put r :: past) (records.insert (promptKey r.prompt) r) where
  get?_eq := by
    intro prompt
    rw [Table.get?_insert, held_put, h.get?_eq]
    simp only [promptKey_inj, eq_comm]
  keys := by
    intro key hkey
    rcases Table.mem_keys_insert.1 hkey with rfl | hkey
    · exact ⟨r.prompt, rfl⟩
    · exact h.keys key hkey

theorem Matches.erase (h : Matches ttl past records) (prompt : String) {past' : List Event}
    (hheld : ∀ p, held ttl p past' = if p = prompt then none else held ttl p past) :
    Matches ttl past' (records.erase (promptKey prompt)) where
  get?_eq := by
    intro p
    rw [Table.get?_erase, hheld, h.get?_eq]
    simp only [promptKey_inj]
  keys := by
    intro key hkey
    exact h.keys key (Table.mem_keys_erase.1 hkey).2

theorem Matches.keep (h : Matches ttl past records) {past' : List Event}
    (hheld : ∀ p, held ttl p past' = held ttl p past) : Matches ttl past' records where
  get?_eq := by
    intro p
    rw [hheld, h.get?_eq]
  keys := h.keys

/-! ### Runs -/

/-- The clock never goes back. -/
def Forward (course : Nat → Moment) : Prop :=
  ∀ i j, i ≤ j → (course i).clock.instant ≤ (course j).clock.instant

/-- The surroundings follow a history: the records stand for it, and a record that was written last
but is not in place has outlived its lifetime for good. -/
structure Follows (ttl : Int) (course : Nat → Moment) (past : List Event) (s : Stage) : Prop where
  records : ∃ records, s.Records records ∧ Matches ttl past records
  outlived : ∀ prompt r, lastWrite prompt past = some (some r) → held ttl prompt past = some r
    ∨ ∀ n, s.calls ≤ n → r.isExpired ttl (course n).clock = true

variable {course : Nat → Moment} {s s' : Stage}

/-- Calls that leave the records as they were. -/
theorem Follows.keep (h : Follows ttl course past s) {past' : List Event}
    (hrecords : ∃ records, s'.Records records ∧ Matches ttl past' records)
    (hcalls : s.calls ≤ s'.calls) (hwrite : ∀ p, lastWrite p past' = lastWrite p past)
    (hheld : ∀ p, held ttl p past' = held ttl p past) : Follows ttl course past' s' where
  records := hrecords
  outlived := by
    intro p r hr
    rw [hwrite] at hr
    rw [hheld]
    exact (h.outlived p r hr).imp id fun hlate n hn => hlate n (Nat.le_trans hcalls hn)

theorem Follows.put (h : Follows ttl course past s) {r : Record String}
    (hrecords : s'.Records (records.insert (promptKey r.prompt) r))
    (hmatches : Matches ttl past records) (hcalls : s.calls ≤ s'.calls) :
    Follows ttl course (.put r :: past) s' where
  records := ⟨_, hrecords, hmatches.put r⟩
  outlived := by
    intro p r' hr'
    rw [held_put]
    by_cases hp : r.prompt = p
    · rw [if_pos hp]
      have hlast : lastWrite p (.put r :: past) = some (some r) := by
        simp [lastWrite, Event.write?, hp]
      rw [hlast] at hr'
      exact .inl (Option.some.inj hr')
    · rw [if_neg hp]
      have hlast : lastWrite p (.put r :: past) = lastWrite p past := by
        simp [lastWrite, Event.write?, hp]
      rw [hlast] at hr'
      exact (h.outlived p r' hr').imp id fun hlate n hn => hlate n (Nat.le_trans hcalls hn)

theorem Follows.delete (h : Follows ttl course past s) {prompt : String}
    (hrecords : s'.Records (records.erase (promptKey prompt))) (hmatches : Matches ttl past records)
    (hcalls : s.calls ≤ s'.calls) : Follows ttl course (.delete prompt :: past) s' where
  records := by
    refine ⟨_, hrecords, hmatches.erase prompt fun p => ?_⟩
    rw [held_delete]
    simp only [eq_comm]
  outlived := by
    intro p r hr
    rw [held_delete]
    by_cases hp : prompt = p
    · have hlast : lastWrite p (.delete prompt :: past) = some none := by
        simp [lastWrite, Event.write?, hp]
      rw [hlast] at hr
      cases hr
    · rw [if_neg hp]
      have hlast : lastWrite p (.delete prompt :: past) = lastWrite p past := by
        simp [lastWrite, Event.write?, hp]
      rw [hlast] at hr
      exact (h.outlived p r hr).imp id fun hlate n hn => hlate n (Nat.le_trans hcalls hn)

/-- A record that has reached its lifetime has reached it at every later call. -/
theorem Forward.isExpired (hclock : Forward course) {r : Record String} {i j : Nat} (hij : i ≤ j)
    (h : r.isExpired ttl (course i).clock = true) : r.isExpired ttl (course j).clock = true := by
  have hlate := hclock i j hij
  have hage : ttl ≤ (course i).clock.instant - r.createdAt.instant := of_decide_eq_true h
  exact decide_eq_true (Int.le_trans hage (Int.sub_le_sub_right hlate _))

/-- A look that finds a record at the end of its lifetime takes it away, and the clock does not go
back from there. -/
theorem Follows.expire (h : Follows ttl course past s) (hclock : Forward course) {prompt : String}
    {r : Record String} {n : Nat} (hheld : held ttl prompt past = some r)
    (hexpired : r.isExpired ttl (course n).clock = true)
    (hrecords : s'.Records (records.erase (promptKey prompt))) (hmatches : Matches ttl past records)
    (hcalls : s.calls ≤ s'.calls) (hn : n ≤ s'.calls) :
    Follows ttl course (.get prompt (course n).clock :: past) s' where
  records := by
    refine ⟨_, hrecords, hmatches.erase prompt fun p => ?_⟩
    rw [held_get_of_expired hheld hexpired]
    simp only [eq_comm]
  outlived := by
    intro p r' hr'
    rw [held_get_of_expired hheld hexpired]
    have hlast : lastWrite p (.get prompt (course n).clock :: past) = lastWrite p past := rfl
    rw [hlast] at hr'
    by_cases hp : prompt = p
    · right
      intro i hi
      rw [← hp, lastWrite_of_held hheld] at hr'
      obtain rfl := Option.some.inj (Option.some.inj hr')
      exact hclock.isExpired (Nat.le_trans hn hi) hexpired
    · rw [if_neg hp]
      exact (h.outlived p r' hr').imp id fun hlate n hn => hlate n (Nat.le_trans hcalls hn)

theorem follows_empty (hs : s.Records .empty) : Follows ttl course [] s where
  records := ⟨_, hs, matches_empty⟩
  outlived := by
    intro p r hr
    cases hr

/-! ### Turns -/

theorem follows_put (prompt query intentText : String) (result : Option String) {c : PromptCache}
    (h : Follows ttl course past s) :
    let t := turn (PromptCache.Operation.plan c) course (.put prompt query intentText result) s
    Follows ttl course ((eventOf course t).toList ++ past) t.after := by
  intro t
  obtain ⟨records, hrecords, hmatches⟩ := h.records
  obtain ⟨s', hrun, hrecords', hcalls⟩ := run_put course prompt query intentText result hrecords
  have hle : s.calls ≤ s'.calls := by omega
  have ht : t = ⟨_, _, s, s'⟩ := PromptCache.turn_put.trans (by rw [hrun])
  rw [ht]
  by_cases hsave : fails course (s.calls + 1) .save = true
  · rw [if_pos hsave] at hrecords' ⊢
    exact h.keep ⟨records, hrecords', hmatches⟩ hle (fun _ => rfl) fun _ => rfl
  · rw [if_neg hsave] at hrecords' ⊢
    exact h.put hrecords' hmatches hle

theorem follows_delete (prompt : String) {c : PromptCache} (h : Follows ttl course past s) :
    let t := turn (PromptCache.Operation.plan c) course (.delete prompt) s
    Follows ttl course ((eventOf course t).toList ++ past) t.after := by
  intro t
  obtain ⟨records, hrecords, hmatches⟩ := h.records
  obtain ⟨s', hrun, hrecords', hcalls⟩ := run_delete course prompt hrecords
  have hle : s.calls ≤ s'.calls := by omega
  have ht : t = ⟨_, _, s, s'⟩ := PromptCache.turn_delete.trans (by rw [hrun])
  rw [ht]
  by_cases hremove : fails course s.calls .remove = true
  · rw [if_pos hremove] at hrecords' ⊢
    exact h.keep ⟨records, hrecords', hmatches⟩ hle (fun _ => rfl) fun _ => rfl
  · rw [if_neg hremove] at hrecords' ⊢
    exact h.delete hrecords' hmatches hle

theorem follows_stats {c : PromptCache} (h : Follows ttl course past s) :
    let t := turn (PromptCache.Operation.plan c) course .stats s
    Follows ttl course ((eventOf course t).toList ++ past) t.after := by
  intro t
  obtain ⟨records, hrecords, hmatches⟩ := h.records
  obtain ⟨s', hrun, hrecords', hcalls⟩ := run_stats course hrecords
  have hle : s.calls ≤ s'.calls := by omega
  have ht : t = ⟨_, _, s, s'⟩ := PromptCache.turn_stats.trans (by rw [hrun])
  have hevent : eventOf course t = none := by
    rw [ht]
    by_cases hstats : fails course s.calls .stats = true
    · rw [if_pos hstats]
      rfl
    · rw [if_neg hstats]
      rfl
  rw [hevent, ht]
  exact h.keep ⟨records, hrecords', hmatches⟩ hle (fun _ => rfl) fun _ => rfl

theorem follows_get (hclock : Forward course) (prompt : String) {c : PromptCache}
    (h : Follows c.ttl.micros course past s) :
    let t := turn (PromptCache.Operation.plan c) course (.get prompt) s
    Follows c.ttl.micros course ((eventOf course t).toList ++ past) t.after := by
  intro t
  obtain ⟨records, hrecords, hmatches⟩ := h.records
  obtain ⟨reply, records', s', hrun, hrecords', hcalls, hgot⟩ := run_get course c prompt hrecords
  have hle : s.calls ≤ s'.calls := by omega
  have ht : t = ⟨_, _, s, s'⟩ := PromptCache.turn_get.trans (by rw [hrun])
  have hheld : records.get? (promptKey prompt) = held c.ttl.micros prompt past :=
    hmatches.get?_eq prompt
  have hkeep (hlive : ∀ r, held c.ttl.micros prompt past = some r →
      r.isExpired c.ttl.micros (course (s.calls + 1)).clock = false)
      (hsame : s'.Records records) :
      Follows c.ttl.micros course (.get prompt (course (s.calls + 1)).clock :: past) s' :=
    h.keep ⟨records, hsame, hmatches.keep fun _ => held_get_of_live hlive⟩ hle
      (fun _ => rfl) fun _ => held_get_of_live hlive
  rw [ht]
  cases hgot with
  | down => exact h.keep ⟨records, hrecords', hmatches⟩ hle (fun _ => rfl) fun _ => rfl
  | stuck => exact h.keep ⟨records, hrecords', hmatches⟩ hle (fun _ => rfl) fun _ => rfl
  | missing hmissing =>
    refine hkeep (fun r hr => ?_) hrecords'
    rw [← hheld, hmissing] at hr
    cases hr
  | live r hr hlive =>
    refine hkeep (fun r' hr' => ?_) hrecords'
    rw [← hheld, hr] at hr'
    exact Option.some.inj hr' ▸ hlive
  | expired r hr hexpired =>
    rw [hheld] at hr
    exact h.expire hclock hr hexpired hrecords' hmatches hle hcalls

/-- What a turn does to the surroundings is told by its event. -/
theorem follows_turn (hclock : Forward course) (c : PromptCache) (o : PromptCache.Operation)
    (h : Follows c.ttl.micros course past s) :
    let t := turn (PromptCache.Operation.plan c) course o s
    Follows c.ttl.micros course ((eventOf course t).toList ++ past) t.after := by
  cases o with
  | put prompt query intentText result => exact follows_put prompt query intentText result h
  | get prompt => exact follows_get hclock prompt h
  | delete prompt => exact follows_delete prompt h
  | stats => exact follows_stats h

theorem history_append_singleton (ts : List (Turn PromptCache.Operation PromptCache.Reply))
    (t : Turn PromptCache.Operation PromptCache.Reply) :
    history course (ts ++ [t]) = (eventOf course t).toList ++ history course ts := by
  unfold history
  rw [List.filterMap_append, List.reverse_append]
  cases h : eventOf course t with
  | none => simp [h]
  | some e => simp [h]

/-- **The surroundings after a run follow its history.** -/
theorem follows_finish (hclock : Forward course) (c : PromptCache)
    (operations : List PromptCache.Operation) (hs : s.Records .empty) :
    Follows c.ttl.micros course
      (history course (turns (PromptCache.Operation.plan c) course operations s))
      (finish (PromptCache.Operation.plan c) course operations s) := by
  have hstep : ∀ earlier o s', Follows c.ttl.micros course (history course earlier) s' →
      Follows c.ttl.micros course
        (history course (earlier ++ [turn (PromptCache.Operation.plan c) course o s']))
        (turn (PromptCache.Operation.plan c) course o s').after := by
    intro earlier o s' h
    rw [history_append_singleton]
    exact follows_turn hclock c o h
  have hfirst : Follows c.ttl.micros course (history course []) s := follows_empty hs
  have hrun := invariant_finish hstep operations hfirst
  rw [List.nil_append] at hrun
  exact hrun

end ConceptQuery.Cache
