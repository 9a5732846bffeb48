import ConceptQuery.Cache.Redis
import ConceptQuery.Proofs.Except
import ConceptQuery.Proofs.Table
import ConceptQuery.Proofs.Text.Glob
import ConceptQuery.Proofs.Time.Reading
import Mathlib.Data.List.Nodup

/-!
# Hashes that stand for records

A server of which no command fails keeps records as a table of them would.

* `recordOf_hashOf` — a record is read back from its hash, its time and a missing result included;
* `perform_eq`, `perform_of_failing_eq_nil` — commands that may fail, and commands that do not;
* `Mirrors` — the hashes are those of a table of records;
* `Mirrors.fetch`, `Mirrors.save`, `Mirrors.remove`, `Mirrors.stats` — and stay so.
-/

namespace ConceptQuery.Cache.Redis

open Text

/-! ### Hashes -/

theorem get?_hashOf (r : Record String) :
    (hashOf r).get? "prompt" = some r.prompt ∧ (hashOf r).get? "intent" = some r.intentText
      ∧ (hashOf r).get? "query" = some r.query
      ∧ (hashOf r).get? "created_at" = some r.createdAt.toText
      ∧ (hashOf r).get? "result" = r.result := by
  unfold hashOf
  cases r.result with
  | none => simp [Table.ofList, Table.get?_insert]
  | some text => simp [Table.ofList, Table.get?_insert]

theorem size_hashOf_ne_zero (r : Record String) : (hashOf r).size ≠ 0 := by
  have hmem : "prompt" ∈ (hashOf r).keys := Table.mem_keys_iff.2 ⟨_, (get?_hashOf r).1⟩
  rw [Table.size_eq_length_keys]
  exact Nat.ne_of_gt (List.length_pos_of_mem hmem)

theorem need_eq_ok {key name text : String} {hash : Hash} (h : hash.get? name = some text) :
    need key hash name = .ok text := by
  rw [need, h]

/-- **A record is read back from its hash.** -/
theorem recordOf_hashOf {r : Record String} (h : r.createdAt.offset = 0) :
    recordOf r.key (some (hashOf r)) = .ok (some r) := by
  obtain ⟨hprompt, hintent, hquery, hcreated, hresult⟩ := get?_hashOf r
  have htime : timeOf r.key r.createdAt.toText = .ok r.createdAt := by
    delta timeOf
    rw [Timestamp.readUtc_toText h]
  have hrecord : recordOfHash r.key (hashOf r) = .ok r := by
    refine Except.bind_eq_ok.2 ⟨_, need_eq_ok hprompt, ?_⟩
    refine Except.bind_eq_ok.2 ⟨_, need_eq_ok hintent, ?_⟩
    refine Except.bind_eq_ok.2 ⟨_, need_eq_ok hquery, ?_⟩
    refine Except.bind_eq_ok.2 ⟨_, need_eq_ok hcreated, ?_⟩
    refine Except.bind_eq_ok.2 ⟨_, htime, ?_⟩
    rw [hresult]
    rfl
  rw [recordOf, if_neg (size_hashOf_ne_zero r), hrecord]
  rfl

/-! ### Keys -/

variable {r : Redis} {key key' : String}

theorem hashKey_inj : r.hashKey key = r.hashKey key' ↔ key = key' := by
  constructor
  · intro h
    have hlist := congrArg String.toList h
    simp only [hashKey, keyStart, String.toList_append] at hlist
    exact String.toList_inj.1 (List.append_cancel_left hlist)
  · rintro rfl
    rfl

/-- A prefix without brackets and backslashes is matched by the pattern for its keys. -/
theorem accepts_hashKey (h : Glob.Unbracketed r.keyPrefix) (key : String) :
    Glob.accepts r.keyPattern (r.hashKey key) = true :=
  Glob.accepts_append (h.append (by decide)) key

/-! ### Commands -/

/-- Commands are all sent if none of them fails, and sending them changes no hash. -/
theorem receiveAll_eq (s : Server) (commands : List Command) :
    (s.receiveAll commands).1 = commands.all (fun c => !s.fails c)
      ∧ (s.receiveAll commands).2.failing = s.failing
      ∧ (s.receiveAll commands).2.hashes = s.hashes := by
  induction commands generalizing s with
  | nil => exact ⟨rfl, rfl, rfl⟩
  | cons c rest ih =>
    rw [Server.receiveAll, List.all_cons]
    by_cases hc : s.fails c = true
    · rw [if_pos hc, hc]
      exact ⟨rfl, rfl, rfl⟩
    · rw [if_neg hc, Bool.eq_false_iff.2 hc]
      exact ih (s.receive c)

/-- Which commands fail decides over an operation, and stays as it is. -/
theorem perform_eq {α : Type} (r : Redis) (commands : List Command)
    (act : Table Hash → α × Table Hash) :
    (r.perform commands act).1 = (if commands.all fun c => !r.server.fails c
        then .ok (act r.server.hashes).1 else .error unavailable)
      ∧ (r.perform commands act).2.server.failing = r.server.failing
      ∧ (r.perform commands act).2.server.hashes = (if commands.all fun c => !r.server.fails c
        then (act r.server.hashes).2 else r.server.hashes) := by
  obtain ⟨hall, hfailing, hhashes⟩ := receiveAll_eq r.server commands
  unfold perform
  rcases hreceived : r.server.receiveAll commands with ⟨succeeds, server⟩
  rw [hreceived] at hall hfailing hhashes
  rw [← hall, ← hhashes]
  cases succeeds with
  | true => exact ⟨rfl, hfailing, rfl⟩
  | false => exact ⟨rfl, hfailing, rfl⟩

theorem keyPrefix_perform {α : Type} (r : Redis) (commands : List Command)
    (act : Table Hash → α × Table Hash) : (r.perform commands act).2.keyPrefix = r.keyPrefix := by
  unfold perform
  split <;> rfl

theorem keyPrefix_fetch (r : Redis) (key : String) :
    (r.fetch key).2.keyPrefix = r.keyPrefix :=
  r.keyPrefix_perform [.readHash (r.hashKey key)] fun hashes =>
    (hashes.get? (r.hashKey key), hashes)

theorem keyPrefix_save (r : Redis) (record : Record String) :
    (r.save record).2.keyPrefix = r.keyPrefix :=
  keyPrefix_perform _ _ _

theorem keyPrefix_remove (r : Redis) (key : String) :
    (r.remove key).2.keyPrefix = r.keyPrefix :=
  keyPrefix_perform _ _ _

theorem keyPrefix_stats (r : Redis) : r.stats.2.keyPrefix = r.keyPrefix :=
  r.keyPrefix_perform [.scan r.keyPattern] fun hashes => (r.countKeys hashes, hashes)

theorem Server.fails_of_failing_eq_nil {s : Server} (h : s.failing = []) (c : Command) :
    s.fails c = false := by
  rw [fails, h]
  rfl

theorem receiveAll_of_failing_eq_nil {s : Server} (h : s.failing = []) (commands : List Command) :
    s.receiveAll commands = (true, { s with received := s.received ++ commands }) := by
  induction commands generalizing s with
  | nil =>
    rw [List.append_nil]
    rfl
  | cons c rest ih =>
    rw [Server.receiveAll, Server.fails_of_failing_eq_nil h, if_neg Bool.false_ne_true,
      ih (s := s.receive c) h]
    simp [Server.receive]

/-- Commands that do not fail are all sent, and have their effect. -/
theorem perform_of_failing_eq_nil {α : Type} (h : r.server.failing = []) (commands : List Command)
    (act : Table Hash → α × Table Hash) :
    r.perform commands act = (.ok (act r.server.hashes).1,
      { r with server := { r.server with
          hashes := (act r.server.hashes).2, received := r.server.received ++ commands } }) := by
  rw [perform, receiveAll_of_failing_eq_nil h]

/-! ### Records -/

/-- No command fails, and the hashes are those of a table of records, each of which is under its own
key and was made in universal time. -/
structure Mirrors (r : Redis) (records : Table (Record String)) : Prop where
  failing_eq : r.server.failing = []
  get?_eq : ∀ key, r.server.hashes.get? (r.hashKey key) = (records.get? key).map hashOf
  keys : ∀ k ∈ r.server.hashes.keys, ∃ key, k = r.hashKey key
  made : ∀ key record, records.get? key = some record →
    record.key = key ∧ record.createdAt.offset = 0

variable {records : Table (Record String)}

theorem mirrors_empty (hfailing : r.server.failing = []) (hempty : r.server.hashes = .empty) :
    r.Mirrors .empty where
  failing_eq := hfailing
  get?_eq := by
    intro key
    rw [hempty]
    rfl
  keys := by
    intro k hk
    rw [hempty] at hk
    cases hk
  made := by
    intro key record hrecord
    cases hrecord

theorem Mirrors.fetch (h : r.Mirrors records) (key : String) :
    (r.fetch key).1 = .ok (records.get? key) ∧ (r.fetch key).2.Mirrors records := by
  have hfetch : r.fetch key = (recordOf key ((records.get? key).map hashOf),
      { r with server := { r.server with
          received := r.server.received ++ [.readHash (r.hashKey key)] } }) := by
    rw [← h.get?_eq, Redis.fetch, perform_of_failing_eq_nil h.failing_eq]
    rfl
  rw [hfetch]
  refine ⟨?_, ⟨h.failing_eq, h.get?_eq, h.keys, h.made⟩⟩
  cases hget : records.get? key with
  | none => rfl
  | some record =>
    obtain ⟨rfl, hutc⟩ := h.made key record hget
    exact recordOf_hashOf hutc

theorem Mirrors.save (h : r.Mirrors records) {record : Record String}
    (hutc : record.createdAt.offset = 0) :
    (r.save record).1 = .ok () ∧ (r.save record).2.Mirrors (records.insert record.key record) := by
  rw [Redis.save, perform_of_failing_eq_nil h.failing_eq]
  refine ⟨rfl, h.failing_eq, ?_, ?_, ?_⟩
  · intro key
    show ((r.server.hashes.erase (r.hashKey record.key)).insert (r.hashKey record.key) _).get?
      (r.hashKey key) = _
    simp only [Table.get?_insert, Table.get?_erase, hashKey_inj]
    by_cases hkey : key = record.key
    · rw [if_pos hkey, if_pos hkey]
      rfl
    · rw [if_neg hkey, if_neg hkey, if_neg hkey]
      exact h.get?_eq key
  · intro k hk
    rcases Table.mem_keys_insert.1 hk with rfl | hk
    · exact ⟨record.key, rfl⟩
    · exact h.keys k (Table.mem_keys_erase.1 hk).2
  · intro key record' hrecord'
    rw [Table.get?_insert] at hrecord'
    by_cases hkey : key = record.key
    · rw [if_pos hkey] at hrecord'
      obtain rfl := Option.some.inj hrecord'
      exact ⟨hkey.symm, hutc⟩
    · rw [if_neg hkey] at hrecord'
      exact h.made key record' hrecord'

theorem Mirrors.remove (h : r.Mirrors records) (key : String) :
    (r.remove key).1 = .ok () ∧ (r.remove key).2.Mirrors (records.erase key) := by
  rw [Redis.remove, perform_of_failing_eq_nil h.failing_eq]
  refine ⟨rfl, h.failing_eq, ?_, ?_, ?_⟩
  · intro key'
    show (r.server.hashes.erase (r.hashKey key)).get? (r.hashKey key') = _
    simp only [Table.get?_erase, hashKey_inj]
    by_cases hkey : key' = key
    · rw [if_pos hkey, if_pos hkey]
      rfl
    · rw [if_neg hkey, if_neg hkey]
      exact h.get?_eq key'
  · intro k hk
    exact h.keys k (Table.mem_keys_erase.1 hk).2
  · intro key' record hrecord
    rw [Table.get?_erase] at hrecord
    by_cases hkey : key' = key
    · rw [if_pos hkey] at hrecord
      cases hrecord
    · rw [if_neg hkey] at hrecord
      exact h.made key' record hrecord

/-- There are as many hashes as records. -/
theorem Mirrors.keys_perm (h : r.Mirrors records) :
    (records.keys.map r.hashKey).Perm r.server.hashes.keys := by
  have hinjective : Function.Injective r.hashKey := fun _ _ hkey => hashKey_inj.1 hkey
  rw [List.perm_ext_iff_of_nodup (records.nodup_keys.map hinjective) r.server.hashes.nodup_keys]
  intro k
  rw [List.mem_map, Table.mem_keys_iff]
  constructor
  · rintro ⟨key, hkey, rfl⟩
    obtain ⟨record, hrecord⟩ := Table.mem_keys_iff.1 hkey
    exact ⟨hashOf record, by rw [h.get?_eq, hrecord]; rfl⟩
  · rintro ⟨hash, hhash⟩
    obtain ⟨key, rfl⟩ := h.keys k (Table.mem_keys_iff.2 ⟨hash, hhash⟩)
    rw [h.get?_eq] at hhash
    obtain ⟨record, hrecord, -⟩ := Option.map_eq_some_iff.1 hhash
    exact ⟨key, Table.mem_keys_iff.2 ⟨record, hrecord⟩, rfl⟩

theorem Mirrors.size_eq (h : r.Mirrors records) : r.server.hashes.size = records.size := by
  rw [Table.size_eq_length_keys, Table.size_eq_length_keys, ← h.keys_perm.length_eq,
    List.length_map]

/-- All hashes are counted if the pattern matches the prefix of their keys. -/
theorem Mirrors.stats (h : r.Mirrors records) (hglob : Glob.Unbracketed r.keyPrefix) :
    r.stats.1 = .ok ⟨"redis", some ("key_prefix", r.keyPrefix), records.size⟩
      ∧ r.stats.2.Mirrors records := by
  have hall : r.server.hashes.keys.countP (Glob.accepts r.keyPattern) = records.size := by
    rw [← h.size_eq, Table.size_eq_length_keys, List.countP_eq_length]
    intro k hk
    obtain ⟨key, rfl⟩ := h.keys k hk
    exact accepts_hashKey hglob key
  rw [Redis.stats, countAll, perform_of_failing_eq_nil h.failing_eq]
  dsimp only
  rw [countKeys, hall]
  exact ⟨rfl, h.failing_eq, h.get?_eq, h.keys, h.made⟩

end ConceptQuery.Cache.Redis
