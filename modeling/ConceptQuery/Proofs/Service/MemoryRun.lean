import ConceptQuery.Proofs.Service.Contract
import ConceptQuery.Proofs.Service.Run

/-!
# The cache over a memory

What the operations of a cache do to the records of a memory in the course of a run, told from the
moments of their calls.

* `Stage.Records` — the records of the memory;
* `answerAt_fetch`, `answerAt_save`, `answerAt_remove`, `answerAt_stats` — single calls;
* `liveRecord`, `swept`, `lookFails`, `run_look` — what a look into the cache finds and leaves
  behind;
* `Got`, `run_get` — the same by cases;
* `recordAt`, `run_put`, `run_delete` — writing and dropping a record.
-/

namespace ConceptQuery

open Cache

/-- The backend is a memory with these records. -/
def Stage.Records (s : Stage) (records : Table (Record String)) : Prop :=
  ∃ down, s.world.backend = .memory ⟨records, down⟩

/-- Whether an operation of the memory fails at a call. -/
def fails (course : Nat → Moment) (n : Nat) (o : Memory.Operation) : Bool :=
  (course n).down.contains o

variable {s : Stage} {records : Table (Record String)} {key : String}

/-! ### Single calls -/

/-- A call on a memory fails or does what it is meant to. -/
theorem guarded_eq {α : Type} (m : Memory) (o : Memory.Operation) (act : α × Memory) :
    m.guarded o act = (if m.down.contains o then .error Memory.isDown else .ok act.1,
      if m.down.contains o then m else act.2) := by
  unfold Memory.guarded
  split <;> rfl

theorem answerAt_now (course : Nat → Moment) (hs : s.Records records) :
    ∃ s', answerAt course .now s = (.ok (course s.calls).clock, s') ∧ s'.Records records
      ∧ s'.calls = s.calls + 1 := by
  obtain ⟨⟨clock, backend, stores, network⟩, calls⟩ := s
  obtain ⟨down, rfl⟩ := hs
  exact ⟨_, rfl, ⟨_, rfl⟩, rfl⟩

theorem answerAt_fetch (course : Nat → Moment) (key : String) (hs : s.Records records) :
    ∃ s', answerAt course (.fetch key) s
        = (if fails course s.calls .fetch then .error Memory.isDown
          else .ok ((records.get? key).map (·.map .string)), s')
      ∧ s'.Records records ∧ s'.calls = s.calls + 1 := by
  obtain ⟨⟨clock, backend, stores, network⟩, calls⟩ := s
  obtain ⟨down, rfl⟩ := hs
  have hanswer : answerAt course (.fetch key)
        ⟨⟨clock, .memory ⟨records, down⟩, stores, network⟩, calls⟩
      = (Backend.reported (Memory.fetch ⟨records, (course calls).down⟩ key).1,
        ⟨⟨(course calls).clock, .memory (Memory.fetch ⟨records, (course calls).down⟩ key).2, stores,
          network⟩, calls + 1⟩) := rfl
  have hreply : Backend.reported (if (course calls).down.contains .fetch then .error Memory.isDown
        else .ok (records.get? key))
      = if fails course calls .fetch then .error Memory.isDown
        else .ok ((records.get? key).map (·.map .string)) := by
    unfold fails
    split <;> rfl
  rw [Memory.fetch, guarded_eq, ite_self] at hanswer
  exact ⟨_, hanswer.trans (congrArg (Prod.mk · _) hreply), ⟨(course calls).down, rfl⟩, rfl⟩

theorem answerAt_save (course : Nat → Moment) (r : Record String) (hs : s.Records records) :
    ∃ s', answerAt course (.save r) s
        = (if fails course s.calls .save then .error Memory.isDown else .ok (), s')
      ∧ s'.Records (if fails course s.calls .save then records else records.insert r.key r)
      ∧ s'.calls = s.calls + 1 := by
  obtain ⟨⟨clock, backend, stores, network⟩, calls⟩ := s
  obtain ⟨down, rfl⟩ := hs
  have hanswer : answerAt course (.save r)
        ⟨⟨clock, .memory ⟨records, down⟩, stores, network⟩, calls⟩
      = ((Memory.save ⟨records, (course calls).down⟩ r).1, ⟨⟨(course calls).clock,
          .memory (Memory.save ⟨records, (course calls).down⟩ r).2, stores, network⟩,
          calls + 1⟩) := rfl
  rw [Memory.save, guarded_eq] at hanswer
  refine ⟨_, hanswer, ⟨(course calls).down, ?_⟩, rfl⟩
  unfold fails
  dsimp only
  split <;> rfl

theorem answerAt_remove (course : Nat → Moment) (key : String) (hs : s.Records records) :
    ∃ s', answerAt course (.remove key) s
        = (if fails course s.calls .remove then .error Memory.isDown else .ok (), s')
      ∧ s'.Records (if fails course s.calls .remove then records else records.erase key)
      ∧ s'.calls = s.calls + 1 := by
  obtain ⟨⟨clock, backend, stores, network⟩, calls⟩ := s
  obtain ⟨down, rfl⟩ := hs
  have hanswer : answerAt course (.remove key)
        ⟨⟨clock, .memory ⟨records, down⟩, stores, network⟩, calls⟩
      = ((Memory.remove ⟨records, (course calls).down⟩ key).1, ⟨⟨(course calls).clock,
          .memory (Memory.remove ⟨records, (course calls).down⟩ key).2, stores, network⟩,
          calls + 1⟩) := rfl
  rw [Memory.remove, guarded_eq] at hanswer
  refine ⟨_, hanswer, ⟨(course calls).down, ?_⟩, rfl⟩
  unfold fails
  dsimp only
  split <;> rfl

theorem answerAt_stats (course : Nat → Moment) (hs : s.Records records) :
    ∃ s', answerAt course .stats s
        = (if fails course s.calls .stats then .error Memory.isDown
          else .ok ⟨"memory", none, records.size⟩, s')
      ∧ s'.Records records ∧ s'.calls = s.calls + 1 := by
  obtain ⟨⟨clock, backend, stores, network⟩, calls⟩ := s
  obtain ⟨down, rfl⟩ := hs
  have hanswer : answerAt course .stats ⟨⟨clock, .memory ⟨records, down⟩, stores, network⟩, calls⟩
      = ((Memory.stats ⟨records, (course calls).down⟩).1, ⟨⟨(course calls).clock,
          .memory (Memory.stats ⟨records, (course calls).down⟩).2, stores, network⟩,
          calls + 1⟩) := rfl
  rw [Memory.stats, guarded_eq, ite_self] at hanswer
  exact ⟨_, hanswer, ⟨(course calls).down, rfl⟩, rfl⟩

/-! ### Operations of the cache -/

/-- The record of a key, if it has not reached its lifetime. -/
def liveRecord (ttl : Int) (now : Timestamp) (records : Table (Record String)) (key : String) :
    Option (Record String) :=
  (records.get? key).filter fun r => !r.isExpired ttl now

/-- Records without that of a key, if it has reached its lifetime. -/
def swept (ttl : Int) (now : Timestamp) (records : Table (Record String)) (key : String) :
    Table (Record String) :=
  if (records.get? key).any (·.isExpired ttl now) then records.erase key else records

/-- Whether a look for a key fails: the record cannot be fetched, or it has reached its lifetime and
cannot be taken away. The calls of the look begin at number `n`. -/
def lookFails (ttl : Int) (course : Nat → Moment) (n : Nat) (records : Table (Record String))
    (key : String) : Bool :=
  fails course n .fetch || (records.get? key).any (·.isExpired ttl (course (n + 1)).clock)
    && fails course (n + 2) .remove

/-- **A look into the cache** fails, or finds the live record and takes away one that is not. The
cases are what it finds: nothing, a record at the end of its lifetime, or a live one. -/
theorem run_look (course : Nat → Moment) (c : PromptCache) (prompt : String)
    (hs : s.Records records) :
    let key := promptKey prompt
    let now := (course (s.calls + 1)).clock
    let failed := lookFails c.ttl.micros course s.calls records key
    ∃ s', (c.get prompt).run (answerAt course) s
        = (if failed then .error Memory.isDown
          else .ok ((liveRecord c.ttl.micros now records key).map (·.map .string)), s')
      ∧ s'.Records (if failed then records else swept c.ttl.micros now records key)
      ∧ s.calls < s'.calls := by
  intro key now failed
  unfold PromptCache.get
  obtain ⟨s₁, hrun₁, hrecords₁, hcalls₁⟩ := answerAt_fetch course key hs
  by_cases hfetch : fails course s.calls .fetch = true
  · have hfailed : failed = true := by simp [failed, lookFails, hfetch]
    rw [if_pos hfetch] at hrun₁
    rw [hfailed]
    exact ⟨s₁, Plan.run_call_error hrun₁, hrecords₁, by omega⟩
  rw [if_neg hfetch] at hrun₁
  cases hget : records.get? key with
  | none =>
    have hfailed : failed = false := by simp [failed, lookFails, hfetch, hget]
    rw [hget] at hrun₁
    rw [hfailed, liveRecord, swept, hget]
    exact ⟨s₁, Plan.run_call_ok hrun₁, hrecords₁, by omega⟩
  | some r =>
    rw [hget] at hrun₁
    obtain ⟨s₂, hrun₂, hrecords₂, hcalls₂⟩ := answerAt_now course hrecords₁
    rw [hcalls₁] at hrun₂
    rw [Plan.run_call_ok hrun₁]
    show ∃ s', (Plan.call .now >>= _).run (answerAt course) s₁ = (_, s') ∧ _
    rw [Plan.run_call_ok hrun₂, liveRecord, swept, hget, Option.filter_some, Option.any_some]
    by_cases hexpired : r.isExpired c.ttl.micros now = true
    · obtain ⟨s₃, hrun₃, hrecords₃, hcalls₃⟩ := answerAt_remove course key hrecords₂
      rw [show s₂.calls = s.calls + 2 by omega] at hrun₃ hrecords₃
      have hfailed : failed = fails course (s.calls + 2) .remove := by
        simp [failed, lookFails, hfetch, hget, now, hexpired]
      have hdrop : (r.map Json.string).isExpired c.ttl.micros (course (s.calls + 1)).clock = true :=
        hexpired
      dsimp only
      rw [if_pos hdrop, hfailed, hexpired]
      by_cases hremove : fails course (s.calls + 2) .remove = true
      · rw [if_pos hremove] at hrun₃ hrecords₃
        rw [if_pos hremove, if_pos hremove]
        exact ⟨s₃, Plan.run_call_error hrun₃, hrecords₃, by omega⟩
      · rw [if_neg hremove] at hrun₃ hrecords₃
        rw [if_neg hremove, if_neg hremove]
        exact ⟨s₃, Plan.run_call_ok hrun₃, hrecords₃, by omega⟩
    · have hfailed : failed = false := by
        simp [failed, lookFails, hfetch, hget, now, hexpired]
      have hkeep :
          ¬ (r.map Json.string).isExpired c.ttl.micros (course (s.calls + 1)).clock = true :=
        hexpired
      dsimp only
      rw [if_neg hkeep, hfailed, Bool.eq_false_iff.2 hexpired]
      exact ⟨s₂, rfl, hrecords₂, by omega⟩

/-- What a look for a key finds, and the records that it leaves behind; its calls begin at number
`n`, and the second of them is made at a time `now`. -/
inductive Got (ttl : Int) (course : Nat → Moment) (n : Nat) (records : Table (Record String))
    (key : String) : Except Failure (Option (Record Json)) → Table (Record String) → Prop where
  | down (h : fails course n .fetch = true) :
    Got ttl course n records key (.error Memory.isDown) records
  | stuck (r : Record String) (h : records.get? key = some r)
      (hexpired : r.isExpired ttl (course (n + 1)).clock = true)
      (hremove : fails course (n + 2) .remove = true) :
    Got ttl course n records key (.error Memory.isDown) records
  | missing (h : records.get? key = none) : Got ttl course n records key (.ok none) records
  | live (r : Record String) (h : records.get? key = some r)
      (hlive : r.isExpired ttl (course (n + 1)).clock = false) :
    Got ttl course n records key (.ok (some (r.map .string))) records
  | expired (r : Record String) (h : records.get? key = some r)
      (hexpired : r.isExpired ttl (course (n + 1)).clock = true) :
    Got ttl course n records key (.ok none) (records.erase key)

theorem run_get (course : Nat → Moment) (c : PromptCache) (prompt : String)
    (hs : s.Records records) :
    ∃ reply records' s', (c.get prompt).run (answerAt course) s = (reply, s')
      ∧ s'.Records records' ∧ s.calls < s'.calls
      ∧ Got c.ttl.micros course s.calls records (promptKey prompt) reply records' := by
  obtain ⟨s', hrun, hrecords, hcalls⟩ := run_look course c prompt hs
  refine ⟨_, _, s', hrun, hrecords, hcalls, ?_⟩
  by_cases hfailed :
      lookFails c.ttl.micros course s.calls records (promptKey prompt) = true
  · rw [if_pos hfailed, if_pos hfailed]
    simp only [lookFails, Bool.or_eq_true, Bool.and_eq_true, Option.any_eq_true] at hfailed
    rcases hfailed with hfetch | ⟨⟨r, hr, hexpired⟩, hremove⟩
    · exact .down hfetch
    · exact .stuck r hr hexpired hremove
  rw [if_neg hfailed, if_neg hfailed, liveRecord, swept]
  cases hget : records.get? (promptKey prompt) with
  | none => exact .missing hget
  | some r =>
    rw [Option.filter_some, Option.any_some]
    cases hexpired : r.isExpired c.ttl.micros (course (s.calls + 1)).clock with
    | true => exact .expired r hget hexpired
    | false => exact .live r hget hexpired

/-- The record that is written for a prompt at a time. -/
def recordAt (prompt query intentText : String) (result : Option String) (createdAt : Timestamp) :
    Record String :=
  { key := promptKey prompt, prompt, intentText, query, result, createdAt }

theorem run_put (course : Nat → Moment) (prompt query intentText : String) (result : Option String)
    (hs : s.Records records) :
    let r := recordAt prompt query intentText result (course s.calls).clock
    ∃ s', (PromptCache.put prompt query intentText result).run (answerAt course) s
        = (if fails course (s.calls + 1) .save then .error Memory.isDown else .ok r, s')
      ∧ s'.Records (if fails course (s.calls + 1) .save then records
        else records.insert (promptKey prompt) r)
      ∧ s'.calls = s.calls + 2 := by
  intro r
  unfold PromptCache.put
  obtain ⟨s₁, hrun₁, hrecords₁, hcalls₁⟩ := answerAt_now course hs
  obtain ⟨s₂, hrun₂, hrecords₂, hcalls₂⟩ := answerAt_save course r hrecords₁
  rw [hcalls₁] at hrun₂ hrecords₂
  refine ⟨s₂, ?_, hrecords₂, by omega⟩
  rw [Plan.run_call_ok hrun₁]
  by_cases hsave : fails course (s.calls + 1) .save = true
  · rw [if_pos hsave] at hrun₂ ⊢
    exact Plan.run_call_error hrun₂
  · rw [if_neg hsave] at hrun₂ ⊢
    exact Plan.run_call_ok hrun₂

theorem run_delete (course : Nat → Moment) (prompt : String) (hs : s.Records records) :
    ∃ s', (PromptCache.delete prompt).run (answerAt course) s
        = (if fails course s.calls .remove then .error Memory.isDown else .ok (), s')
      ∧ s'.Records
        (if fails course s.calls .remove then records else records.erase (promptKey prompt))
      ∧ s'.calls = s.calls + 1 :=
  answerAt_remove course (promptKey prompt) hs

theorem run_stats (course : Nat → Moment) (hs : s.Records records) :
    ∃ s', PromptCache.stats.run (answerAt course) s
        = (if fails course s.calls .stats then .error Memory.isDown
          else .ok ⟨"memory", none, records.size⟩, s')
      ∧ s'.Records records ∧ s'.calls = s.calls + 1 :=
  answerAt_stats course hs

end ConceptQuery
