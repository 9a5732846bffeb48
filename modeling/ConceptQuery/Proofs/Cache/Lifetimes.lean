import ConceptQuery.Proofs.Cache.History
import ConceptQuery.Startup
import Mathlib.Data.List.Nodup

/-!
# A cache answers by its history

Over a memory, whose operations may be out of order at any call, and with a clock that never goes
back, a look for a prompt finds the record that was written last for exactly this prompt, for as
long as its lifetime is not over.

* `FindsLast` — what a look for a prompt finds by the history;
* `DropsExpired` — what it leaves of the records;
* `CountsWritten` — what there is to count;
* `promptCache_integer` — the caches for a number of seconds;
* `lifetimes_finish` — after every run, all of these hold.
-/

namespace ConceptQuery.Cache

open Settings

/-- A look for a prompt that finds the store in order is answered with the record that was written
last for this very prompt, if its age is below the lifetime, and with none otherwise. A look that
does not find the store in order tells so: the record cannot be looked up, or this record has
reached its lifetime and cannot be taken away. -/
def FindsLast (c : PromptCache) (course : Nat → Moment) (past : List Event) (s : Stage) : Prop :=
  ∀ prompt, match (turn (PromptCache.Operation.plan c) course (.get prompt) s).reply with
    | .error f =>
      f = Memory.isDown ∧ (fails course s.calls .fetch ∨ fails course (s.calls + 2) .remove
        ∧ ∃ w, lastWrite prompt past = some (some w)
          ∧ c.ttl.micros ≤ (course (s.calls + 1)).clock.instant - w.createdAt.instant)
    | .ok reply => ∃ found, reply = .found found ∧ ∀ r, found = some r ↔
      ∃ w, lastWrite prompt past = some (some w)
        ∧ (course (s.calls + 1)).clock.instant - w.createdAt.instant < c.ttl.micros
        ∧ r = w.map .string

/-- A look for a prompt that finds a record at the end of its lifetime takes it away, and leaves
every other record. All other looks leave all records. -/
def DropsExpired (c : PromptCache) (course : Nat → Moment) (s : Stage) : Prop :=
  ∀ prompt records, s.Records records →
    let t := turn (PromptCache.Operation.plan c) course (.get prompt) s
    ∃ records', t.after.Records records' ∧
      if t.reply.isOk ∧ ∃ w, records.get? (promptKey prompt) = some w ∧
          c.ttl.micros ≤ (course (s.calls + 1)).clock.instant - w.createdAt.instant then
        promptKey prompt ∉ records'.keys ∧
          ∀ key, key ≠ promptKey prompt → records'.get? key = records.get? key
      else records' = records

/-- The records are counted as many as there are prompts whose latest event of effect is a put. -/
def CountsWritten (c : PromptCache) (course : Nat → Moment) (past : List Event) (s : Stage) :
    Prop :=
  ∃ prompts : List String, prompts.Nodup ∧
    (∀ p, p ∈ prompts ↔ ∃ r, lastEffect c.ttl.micros p past = some (.written r)) ∧
    (turn (PromptCache.Operation.plan c) course .stats s).reply
      = if fails course s.calls .stats then .error Memory.isDown
        else .ok (.stats ⟨"memory", none, prompts.length⟩)

variable {c : PromptCache} {course : Nat → Moment} {past : List Event} {s : Stage}

/-! ### Looking -/

theorem Follows.findsLast (h : Follows c.ttl.micros course past s) : FindsLast c course past s := by
  intro prompt
  obtain ⟨records, hrecords, hmatches⟩ := h.records
  obtain ⟨reply, records', s', hrun, -, -, hgot⟩ := run_get course c prompt hrecords
  have hreply : (turn (PromptCache.Operation.plan c) course (.get prompt) s).reply
      = reply.map .found := by
    rw [PromptCache.turn_get, hrun]
  have hheld : records.get? (promptKey prompt) = held c.ttl.micros prompt past :=
    hmatches.get?_eq prompt
  -- what was written last is in place, or has outlived its lifetime
  have hlast (w : Record String) (hw : lastWrite prompt past = some (some w))
      (hyoung : (course (s.calls + 1)).clock.instant - w.createdAt.instant < c.ttl.micros) :
      records.get? (promptKey prompt) = some w := by
    rcases h.outlived prompt w hw with hin | hlate
    · rw [hheld, hin]
    · have hage := of_decide_eq_true (hlate (s.calls + 1) (Nat.le_succ _))
      exact absurd hyoung (Int.not_lt.2 hage)
  rw [hreply]
  cases hgot with
  | down hfetch => exact ⟨rfl, .inl hfetch⟩
  | stuck r hr hexpired hremove =>
    have hwritten : lastWrite prompt past = some (some r) :=
      lastWrite_of_held (hheld.symm.trans hr)
    exact ⟨rfl, .inr ⟨hremove, r, hwritten, of_decide_eq_true hexpired⟩⟩
  | missing hmissing =>
    refine ⟨none, rfl, fun r => Iff.intro (fun hr => ?_) ?_⟩
    · cases hr
    · rintro ⟨w, hw, hyoung, -⟩
      rw [hlast w hw hyoung] at hmissing
      cases hmissing
  | live r hr hlive =>
    have hwritten : lastWrite prompt past = some (some r) :=
      lastWrite_of_held (hheld.symm.trans hr)
    have hyoung : (course (s.calls + 1)).clock.instant - r.createdAt.instant < c.ttl.micros :=
      Int.not_le.1 (of_decide_eq_false hlive)
    refine ⟨_, rfl, fun r' => ⟨fun hr' => ?_, ?_⟩⟩
    · exact ⟨r, hwritten, hyoung, (Option.some.inj hr').symm⟩
    · rintro ⟨w, hw, -, rfl⟩
      rw [hwritten] at hw
      rw [Option.some.inj (Option.some.inj hw)]
  | expired r hr hexpired =>
    refine ⟨none, rfl, fun r' => Iff.intro (fun hr' => ?_) ?_⟩
    · cases hr'
    · rintro ⟨w, hw, hyoung, -⟩
      rw [hlast w hw hyoung] at hr
      obtain rfl := Option.some.inj hr
      have hage : c.ttl.micros ≤ w.age (course (s.calls + 1)).clock := of_decide_eq_true hexpired
      exact absurd hyoung (Int.not_lt.2 hage)

theorem dropsExpired (c : PromptCache) (course : Nat → Moment) (s : Stage) :
    DropsExpired c course s := by
  intro prompt records hs t
  obtain ⟨reply, records', s', hrun, hrecords', -, hgot⟩ := run_get course c prompt hs
  have ht : t = ⟨_, _, s, s'⟩ := PromptCache.turn_get.trans (by rw [hrun])
  refine ⟨records', ht ▸ hrecords', ?_⟩
  have hreply : t.reply = reply.map .found := congrArg Turn.reply ht
  rw [hreply]
  cases hgot with
  | down hfetch =>
    rw [if_neg]
    rintro ⟨hok, -⟩
    cases hok
  | stuck r hr hexpired hremove =>
    rw [if_neg]
    rintro ⟨hok, -⟩
    cases hok
  | missing hmissing =>
    rw [if_neg]
    rintro ⟨-, w, hw, -⟩
    rw [hmissing] at hw
    cases hw
  | live r hr hlive =>
    rw [if_neg]
    rintro ⟨-, w, hw, hage⟩
    rw [hr] at hw
    obtain rfl := Option.some.inj hw
    exact of_decide_eq_false hlive hage
  | expired r hr hexpired =>
    rw [if_pos ⟨rfl, r, hr, of_decide_eq_true hexpired⟩]
    refine ⟨fun hkey => (Table.mem_keys_erase.1 hkey).1 rfl, fun key hkey => ?_⟩
    exact Table.get?_erase_of_ne records hkey

/-! ### Counting -/

/-- The keys are those of as many prompts. -/
theorem Matches.prompts {ttl : Int} {records : Table (Record String)}
    (h : Matches ttl past records) :
    ∃ prompts : List String, prompts.Nodup ∧
      (∀ p, p ∈ prompts ↔ ∃ r, lastEffect ttl p past = some (.written r)) ∧
      records.size = prompts.length := by
  have hkeys : ∃ prompts : List String, prompts.map promptKey = records.keys := by
    have hall := h.keys
    generalize records.keys = keys at hall
    induction keys with
    | nil => exact ⟨[], rfl⟩
    | cons key rest ih =>
      obtain ⟨prompt, rfl⟩ := hall key List.mem_cons_self
      obtain ⟨prompts, hprompts⟩ := ih fun k hk => hall k (List.mem_cons_of_mem _ hk)
      exact ⟨prompt :: prompts, by rw [List.map_cons, hprompts]⟩
  obtain ⟨prompts, hprompts⟩ := hkeys
  refine ⟨prompts, ?_, fun p => ?_, ?_⟩
  · have hnodup := records.nodup_keys
    rw [← hprompts] at hnodup
    exact List.Nodup.of_map _ hnodup
  · rw [← List.mem_map_of_injective promptKey_injective, hprompts, Table.mem_keys_iff]
    simp only [h.get?_eq, held_eq_some]
  · rw [Table.size_eq_length_keys, ← hprompts, List.length_map]

theorem Follows.countsWritten (h : Follows c.ttl.micros course past s) :
    CountsWritten c course past s := by
  obtain ⟨records, hrecords, hmatches⟩ := h.records
  obtain ⟨prompts, hnodup, hmem, hsize⟩ := hmatches.prompts
  obtain ⟨s', hrun, -, -⟩ := run_stats course hrecords
  refine ⟨prompts, hnodup, hmem, ?_⟩
  rw [PromptCache.turn_stats, hrun, ← hsize]
  show Except.map PromptCache.Reply.stats (if fails course s.calls .stats then _ else _) = _
  split
  · rfl
  · rfl

/-! ### Lifetimes -/

theorem ofMicros_eq_ok {micros : Int}
    (h : -Time.maxDays ≤ micros / Time.dayMicros ∧ micros / Time.dayMicros ≤ Time.maxDays) :
    Duration.ofMicros micros = .ok ⟨micros, h.1, h.2⟩ := by
  have hnear : (decide (micros / Time.dayMicros < -2147483648)
      || decide (2147483648 ≤ micros / Time.dayMicros)) = false := by
    unfold Time.maxDays at h
    rw [Bool.or_eq_false_iff, decide_eq_false_iff_not, decide_eq_false_iff_not]
    omega
  rw [Duration.ofMicros, hnear, if_neg Bool.false_ne_true, dif_pos h]

/-- A number of seconds that spans less than a billion days is the lifetime of a cache. -/
theorem promptCache_integer (settings : Settings) {seconds : Nat} (hpos : 1 ≤ seconds)
    (hmax : seconds ≤ 86399999999999) :
    ∃ c, settings.promptCache (.integer seconds) = .ok c ∧ c.ttl.micros = seconds * 1000000 := by
  have htruthy : (Json.integer seconds).truthy = true := by
    rw [Json.truthy, bne_iff_ne]
    omega
  have hdays : -Time.maxDays ≤ (seconds : Int) * 1000000 / Time.dayMicros
      ∧ (seconds : Int) * 1000000 / Time.dayMicros ≤ Time.maxDays := by
    unfold Time.dayMicros Time.maxDays
    omega
  refine ⟨⟨seconds * 1000000, hdays.1, hdays.2⟩, ?_, rfl⟩
  rw [Settings.promptCache, if_pos htruthy, Duration.ofSeconds, ofMicros_eq_ok hdays]
  rfl

/-- **A cache is a map with lifetimes.** A number of seconds up to a billion days makes a cache
whose records live for so long. After every run of its operations over a memory that was empty, with
failures at any calls and a clock that never goes back, a look for a prompt finds what was written
last for this very prompt, as long as it lives; it takes away what it finds at the end of its life
and nothing else; and there are as many records as prompts whose latest event of effect is a put. -/
theorem lifetimes_finish (settings : Settings) {seconds : Nat} (hpos : 1 ≤ seconds)
    (hmax : seconds ≤ 86399999999999) {course : Nat → Moment} (hclock : Forward course) {s : Stage}
    (hs : s.Records .empty) (operations : List PromptCache.Operation) :
    ∃ c, settings.promptCache (.integer seconds) = .ok c ∧ c.ttl.micros = seconds * 1000000 ∧
      let past := history course (turns (PromptCache.Operation.plan c) course operations s)
      let s' := finish (PromptCache.Operation.plan c) course operations s
      FindsLast c course past s' ∧ DropsExpired c course s' ∧ CountsWritten c course past s' := by
  obtain ⟨c, hcache, hmicros⟩ := promptCache_integer settings hpos hmax
  have hfollows := follows_finish hclock c operations hs
  refine ⟨c, hcache, hmicros, ?_⟩
  exact ⟨hfollows.findsLast, dropsExpired c course _, hfollows.countsWritten⟩

/-- One second after the first moment of the calendar. -/
def nextSecond : Timestamp := (Timestamp.ofClock? 1000000 0).get (by decide)

/-- A clock that stands still for four calls and then shows the next second, with an outage of one
call that takes a record away. -/
def standingStill (outage : Nat) (n : Nat) : Moment where
  clock := if n < 4 then Moment.first.clock else nextSecond
  down := if n = outage then [.remove] else []

theorem forward_standingStill (outage : Nat) : Forward (standingStill outage) := by
  intro i j hij
  have hclock (n : Nat) :
      (standingStill outage n).clock.instant = if n < 4 then 0 else 1000000 := by
    unfold standingStill
    split
    · rfl
    · rfl
  rw [hclock, hclock]
  split
  · split
    · exact Int.le_refl 0
    · decide
  · have hj : ¬ j < 4 := by omega
    exact Int.le_of_eq (if_neg hj).symm

/-- Two prompts that differ in one letter, and a record that reaches the end of its lifetime of one
second at the very look that fails to take it away. -/
theorem lifetimes_finish_boundary :
    let course := standingStill 6
    let s : Stage := ⟨⟨Moment.first.clock, .memory {}, ⟨default, .ofList [], .empty⟩,
      .always default⟩, 0⟩
    let operations : List PromptCache.Operation :=
      [.put "tea" "q" "t" (some "r"), .put "Tea" "q" "t" none, .get "tea", .delete "Tea"]
    ∃ c, Settings.standard.promptCache (.integer (1 : Nat)) = .ok c
      ∧ c.ttl.micros = (1 : Nat) * 1000000 ∧
      let past := history course (turns (PromptCache.Operation.plan c) course operations s)
      let s' := finish (PromptCache.Operation.plan c) course operations s
      FindsLast c course past s' ∧ DropsExpired c course s' ∧ CountsWritten c course past s' := by
  intro course s operations
  have hs : s.Records .empty := ⟨[], rfl⟩
  exact lifetimes_finish Settings.standard (by decide) (by decide) (forward_standingStill 6) hs
    operations

end ConceptQuery.Cache
