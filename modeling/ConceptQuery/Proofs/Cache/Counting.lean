import ConceptQuery.Proofs.Cache.Prefixes
import Mathlib.Data.Set.List

/-!
# What is counted at a shared server

A cache looks a prompt up under one key, but counts all keys that match the pattern of its prefix, a
colon and a star. If nothing in the prefix has a meaning in patterns, these are the keys that begin
with the prefix and a colon. The keys of other caches can begin so too: those of a cache whose
prefix goes on with a colon, and those of a cache whose keys go on with a colon where this prefix
ends. Their records are counted as well.

* `Redis.Server.Written`, `Written.afterAll` — every hash was saved under the key of a prompt, which
  is kept by runs;
* `Redis.Overlaps`, `accepts_keyOf_iff` — the prefixes of keys that begin as those of another one;
* `Redis.Finds`, `Redis.Matched`, `Written.matched` — the records that make up the number;
* `Redis.Counts`, `Matched.counts` — the same for prefixes without a meaning in patterns;
* `Redis.CountsOwn`, `Counts.countsOwn_iff` — when it is the number of the cache's own records;
* `counts_overlapping`, `counts_staged_record` — both, and a record that is counted by a cache that
  does not have it.
-/

namespace ConceptQuery.Cache.Redis

open Text

/-! ### Servers that caches have written -/

/-- Every hash is that of a record, under the key of a prompt in the cache with some prefix. -/
def Server.Written (s : Server) : Prop :=
  ∀ key hash, s.hashes.get? key = some hash → ∃ keyPrefix record prompt,
    record.key = promptKey prompt ∧ key = keyOf keyPrefix prompt ∧ hash = hashOf record

variable {s : Server} {keyPrefix other prompt : String}

theorem written_empty (h : s.hashes = .empty) : s.Written := by
  intro key hash hget
  rw [h] at hget
  cases hget

theorem Server.Written.carryOut {o : Operation} (h : s.Written) (ho : o.Keyed) :
    (s.carryOut keyPrefix o).2.Written := by
  obtain ⟨prompt, hkey⟩ := ho
  obtain ⟨-, -, hhashes⟩ := carryOut_eq s keyPrefix o
  intro key hash hget
  rw [hhashes] at hget
  split at hget
  · rw [get?_act] at hget
    split at hget
    · case isTrue hown =>
      cases o with
      | save record =>
        refine ⟨keyPrefix, record, prompt, hkey, ?_, (Option.some.inj hget).symm⟩
        rw [hown, hkey]
        rfl
      | fetch key' => exact h key hash hget
      | remove key' => cases hget
    · exact h key hash hget
  · exact h key hash hget

/-- **In every run** the server stays one that caches have written. -/
theorem Server.Written.afterAll {events : List Event} (h : s.Written)
    (hkeyed : ∀ e ∈ events, e.Keyed) : (s.afterAll events).Written := by
  induction events generalizing s with
  | nil => exact h
  | cons e rest ih =>
    obtain ⟨he, hrest⟩ := List.forall_mem_cons.1 hkeyed
    cases e with
    | act keyPrefix o => exact ih (h.carryOut he) hrest
    | outage failing => exact ih (s := { s with failing }) h hrest

/-! ### Prefixes that overlap -/

/-- The keys of the cache with another prefix begin as those of the cache with this one: the other
prefix goes on with a colon, or this one ends before a colon in what all keys have in common. -/
def Overlaps (keyPrefix other : String) : Prop :=
  (∃ rest, other = keyPrefix ++ ":" ++ rest) ∨ keyPrefix = other ++ ":urn"
    ∨ keyPrefix = other ++ ":urn:prompt"

theorem append_colon_prefix_iff {s t u : List Char} : s ++ [':'] <+: t ++ ':' :: u
    ↔ s ++ [':'] <+: t ∨ s = t ∨ ∃ rest, s = t ++ ':' :: rest ∧ rest ++ [':'] <+: u := by
  constructor
  · rintro ⟨v, h⟩
    rw [List.append_assoc, List.singleton_append] at h
    rcases List.append_eq_append_iff.1 h with ⟨w, rfl, hw⟩ | ⟨w, rfl, hw⟩
    · cases w with
      | nil => exact .inr (.inl (List.append_nil s).symm)
      | cons c w =>
        obtain ⟨rfl, -⟩ := List.cons.inj hw
        exact .inl ⟨w, List.append_assoc s [':'] w⟩
    · cases w with
      | nil => exact .inr (.inl (List.append_nil t))
      | cons c w =>
        obtain ⟨rfl, rfl⟩ := List.cons.inj hw
        exact .inr (.inr ⟨w, rfl, v, List.append_assoc w [':'] v⟩)
  · rintro (h | rfl | ⟨rest, rfl, v, rfl⟩)
    · exact h.trans (List.prefix_append t _)
    · exact ⟨u, List.append_assoc s [':'] u⟩
    · exact ⟨v, by simp⟩

theorem not_append_colon_prefix {s t : List Char} (h : ':' ∉ t) : ¬ s ++ [':'] <+: t :=
  fun hbegin => h (hbegin.subset (by simp))

/-- **The keys that are counted** by a cache with a plain prefix are its own, and those of the caches
whose prefixes overlap, whatever the prompts. -/
theorem accepts_keyOf_iff {r : Redis} (h : Glob.Plain r.keyPrefix) (other prompt : String) :
    Glob.accepts r.keyPattern (keyOf other prompt) = true
      ↔ other = r.keyPrefix ∨ Overlaps r.keyPrefix other := by
  have hkey : (keyOf other prompt).toList = other.toList ++ ':' :: ("urn".toList
      ++ ':' :: ("prompt".toList ++ ':' :: (formEncode prompt).toList)) := by
    simp [toList_keyOf]
  have hstart : r.keyStart.toList = r.keyPrefix.toList ++ [':'] := String.toList_append
  have hurn : ':' ∉ "urn".toList := by decide
  have hprompt : ':' ∉ "prompt".toList := by decide
  have hencoded : ':' ∉ (formEncode prompt).toList := not_colon_of_encoded
  have hplain : Glob.Plain r.keyStart := h.append (by decide)
  rw [keyPattern, Glob.accepts_plain_iff hplain, hkey, hstart, append_colon_prefix_iff]
  simp only [append_colon_prefix_iff, not_append_colon_prefix hurn, not_append_colon_prefix hprompt,
    not_append_colon_prefix hencoded, false_or, and_false, exists_false, or_false]
  constructor
  · rintro (⟨rest, h⟩ | h | ⟨_, h, rfl | ⟨_, rfl, rfl⟩⟩)
    · exact .inr (.inl ⟨.ofList rest, String.toList_inj.1 (by simp [← h])⟩)
    · exact .inl (String.toList_inj.1 h.symm)
    · exact .inr (.inr (.inl (String.toList_inj.1 (by simp [h]))))
    · exact .inr (.inr (.inr (String.toList_inj.1 (by simp [h]))))
  · rintro (rfl | ⟨rest, rfl⟩ | h | h)
    · exact .inr (.inl rfl)
    · exact .inl ⟨rest.toList, by simp⟩
    · exact .inr (.inr ⟨_, by simp [h], .inl rfl⟩)
    · exact .inr (.inr ⟨_, by simp [h], .inr ⟨_, rfl, rfl⟩⟩)

/-- No prefix overlaps with itself. -/
theorem Overlaps.ne (h : Overlaps keyPrefix other) : other ≠ keyPrefix := by
  intro heq
  have hlength := congrArg String.length heq
  rcases h with ⟨rest, rfl⟩ | rfl | rfl
  all_goals
    simp only [String.length_append] at hlength
    have hcolon : ":".length = 1 := rfl
    have hurn : ":urn".length = 4 := rfl
    have hurnPrompt : ":urn:prompt".length = 11 := rfl
    omega

/-! ### What the number is made of -/

/-- A look for a prompt is answered with a hash. -/
def Finds (r : Redis) (prompt : String) : Prop :=
  ∃ hash, r.Reads (promptKey prompt) hash

/-- The number is that of the prompts of which the cache finds a hash, no prompt twice. -/
def CountsOwn (r : Redis) : Prop :=
  ∃ own : List String, own.Nodup ∧ (∀ prompt, prompt ∈ own ↔ r.Finds prompt)
    ∧ r.countAll.1 = .ok own.length

/-- The number is that of the prefixes and prompts whose keys match the pattern, where the cache of
the prefix finds a hash of the prompt. -/
structure Matched (r : Redis) (found : List (String × String)) : Prop where
  nodup : found.Nodup
  mem_iff : ∀ other prompt, (other, prompt) ∈ found
    ↔ Glob.accepts r.keyPattern (keyOf other prompt) = true ∧ Finds ⟨other, r.server⟩ prompt
  countAll : r.countAll.1 = .ok found.length
  stats : r.stats.1 = .ok ⟨"redis", some ("key_prefix", r.keyPrefix), found.length⟩

/-- The number is that of the prompts of which the cache finds a hash, and of the prefixes that
overlap, each with the prompts of which its cache finds one. -/
structure Counts (r : Redis) (own : List String) (others : List (String × String)) : Prop where
  nodup : own.Nodup
  nodup_others : others.Nodup
  mem_own : ∀ prompt, prompt ∈ own ↔ r.Finds prompt
  mem_others : ∀ other prompt, (other, prompt) ∈ others
    ↔ Overlaps r.keyPrefix other ∧ Finds ⟨other, r.server⟩ prompt
  countAll : r.countAll.1 = .ok (own.length + others.length)
  stats : r.stats.1 = .ok ⟨"redis", some ("key_prefix", r.keyPrefix), own.length + others.length⟩

/-- A prompt is found exactly if there is a hash under its key, for a hash that was saved has
fields. -/
theorem Server.Written.finds_iff (h : s.Written) (hup : s.failing = []) :
    Finds ⟨keyPrefix, s⟩ prompt ↔ keyOf keyPrefix prompt ∈ s.hashes.keys := by
  constructor
  · rintro ⟨hash, hreads⟩
    exact Table.mem_keys_iff.2 ⟨hash, hreads.found⟩
  · intro hmem
    obtain ⟨hash, hget⟩ := Table.mem_keys_iff.1 hmem
    obtain ⟨-, record, -, -, -, rfl⟩ := h _ _ hget
    exact ⟨_, Server.fails_of_failing_eq_nil hup _, hget, size_hashOf_ne_zero record⟩

/-- The keys of a server, as prefixes and prompts. -/
structure Server.Owners (s : Server) (owners : List (String × String)) : Prop where
  map_eq : owners.map (fun own => keyOf own.1 own.2) = s.hashes.keys
  nodup : owners.Nodup
  mem_iff : ∀ keyPrefix prompt, (keyPrefix, prompt) ∈ owners ↔ Finds ⟨keyPrefix, s⟩ prompt

theorem Server.Written.exists_owners (h : s.Written) (hup : s.failing = []) :
    ∃ owners, s.Owners owners := by
  have hrange : s.hashes.keys ∈ Set.range (List.map fun own : String × String =>
      keyOf own.1 own.2) := by
    rw [Set.range_list_map]
    intro key hkey
    obtain ⟨hash, hget⟩ := Table.mem_keys_iff.1 hkey
    obtain ⟨keyPrefix, -, prompt, -, rfl, -⟩ := h key hash hget
    exact ⟨(keyPrefix, prompt), rfl⟩
  obtain ⟨owners, howners⟩ := hrange
  have hnodup := s.hashes.nodup_keys
  rw [← howners] at hnodup
  refine ⟨owners, howners, hnodup.of_map, fun keyPrefix prompt => ?_⟩
  rw [h.finds_iff hup, ← howners, List.mem_map]
  constructor
  · intro hin
    exact ⟨_, hin, rfl⟩
  · rintro ⟨own, hin, hkey⟩
    obtain ⟨rfl, rfl⟩ := keyOf_inj.1 hkey
    exact hin

theorem stats_eq {r : Redis} (hup : r.server.failing = []) :
    r.stats.1 = r.countAll.1.map fun n => ⟨"redis", some ("key_prefix", r.keyPrefix), n⟩ := by
  rw [stats, countAll, perform_of_failing_eq_nil hup]

/-- **What is counted** at a server that caches have written, whatever the pattern. -/
theorem Server.Written.matched (h : s.Written) (hup : s.failing = []) (keyPrefix : String) :
    ∃ found, Matched ⟨keyPrefix, s⟩ found := by
  obtain ⟨owners, howners⟩ := h.exists_owners hup
  let r : Redis := ⟨keyPrefix, s⟩
  let counted (own : String × String) : Bool := Glob.accepts r.keyPattern (keyOf own.1 own.2)
  have hcountAll : r.countAll.1 = .ok (owners.filter counted).length := by
    rw [countAll, perform_of_failing_eq_nil hup]
    show Except.ok ((s.hashes.keys.countP _ : Nat) : Int) = _
    rw [← howners.map_eq, List.countP_map, List.countP_eq_length_filter]
    rfl
  refine ⟨owners.filter counted, howners.nodup.filter _, ?_, hcountAll, ?_⟩
  · intro other prompt
    rw [List.mem_filter, howners.mem_iff, and_comm]
  · rw [stats_eq hup, hcountAll]
    rfl

/-- What is counted with a plain prefix: the records of the cache and those of the caches whose
prefixes overlap. -/
theorem Matched.counts {found : List (String × String)} {r : Redis} (h : r.Matched found)
    (hplain : Glob.Plain r.keyPrefix) : ∃ own others, r.Counts own others := by
  have hmem (other prompt : String) : (other, prompt) ∈ found
      ↔ (other = r.keyPrefix ∨ Overlaps r.keyPrefix other) ∧ Finds ⟨other, r.server⟩ prompt := by
    rw [h.mem_iff, accepts_keyOf_iff hplain]
  have hlength : (found.length : Int) = (found.filter fun own => own.1 == r.keyPrefix).length
      + (found.filter fun own => !own.1 == r.keyPrefix).length := by
    rw [List.length_eq_length_filter_add fun own : String × String => own.1 == r.keyPrefix,
      Int.natCast_add]
  refine ⟨(found.filter fun own => own.1 == r.keyPrefix).map Prod.snd,
    found.filter fun own => !own.1 == r.keyPrefix, ?_, h.nodup.filter _, ?_, ?_, ?_, ?_⟩
  · refine (h.nodup.filter _).map_on fun own hown own' hown' hsame => Prod.ext ?_ hsame
    exact (eq_of_beq (List.mem_filter.1 hown).2).trans (eq_of_beq (List.mem_filter.1 hown').2).symm
  · intro prompt
    simp [hmem]
  · intro other prompt
    rw [List.mem_filter, hmem]
    simp only [Bool.not_eq_true', beq_eq_false_iff_ne]
    constructor
    · rintro ⟨⟨heq | hoverlaps, hfinds⟩, hne⟩
      · exact absurd heq hne
      · exact ⟨hoverlaps, hfinds⟩
    · rintro ⟨hoverlaps, hfinds⟩
      exact ⟨⟨.inr hoverlaps, hfinds⟩, hoverlaps.ne⟩
  · rw [h.countAll, hlength, List.length_map]
  · rw [h.stats, hlength, List.length_map]

/-- The number is that of the cache's own records exactly if there is no other record in it. -/
theorem Counts.countsOwn_iff {r : Redis} {own : List String} {others : List (String × String)}
    (h : r.Counts own others) : r.CountsOwn ↔ others = [] := by
  constructor
  · rintro ⟨own', hnodup, hmem, hnumber⟩
    have hperm : own'.Perm own := (List.perm_ext_iff_of_nodup hnodup h.nodup).2 fun prompt =>
      (hmem prompt).trans (h.mem_own prompt).symm
    have hsum := Except.ok.inj (hnumber.symm.trans h.countAll)
    rw [hperm.length_eq] at hsum
    exact List.eq_nil_of_length_eq_zero (by omega)
  · rintro rfl
    exact ⟨own, h.nodup, h.mem_own, h.countAll.trans (by simp)⟩

/-- **What a cache counts** at a server that caches with any prefixes have written: the records whose
keys match its pattern. If nothing in its prefix has a meaning in patterns, these are its own records
and those of the caches whose prefixes overlap with its own, and the number is that of its own
records exactly if those caches have none. -/
theorem counts_overlapping (s : Server) (hwritten : s.Written) (hup : s.failing = [])
    (keyPrefix : String) :
    let r : Redis := ⟨keyPrefix, s⟩
    (∃ found, r.Matched found)
      ∧ (Glob.Plain keyPrefix → (∃ own others, r.Counts own others)
        ∧ (r.CountsOwn
          ↔ ∀ other, Overlaps keyPrefix other → ∀ prompt, ¬ Finds ⟨other, s⟩ prompt)) := by
  intro r
  obtain ⟨found, hmatched⟩ := hwritten.matched hup keyPrefix
  refine ⟨⟨found, hmatched⟩, fun hplain => ?_⟩
  obtain ⟨own, others, h⟩ := hmatched.counts hplain
  refine ⟨⟨own, others, h⟩, h.countsOwn_iff.trans ?_⟩
  rw [List.eq_nil_iff_forall_not_mem]
  constructor
  · intro hnone other hoverlaps prompt hfinds
    exact hnone (other, prompt) ((h.mem_others other prompt).2 ⟨hoverlaps, hfinds⟩)
  · intro hnone other hmem
    obtain ⟨hoverlaps, hfinds⟩ := (h.mem_others other.1 other.2).1 hmem
    exact hnone other.1 hoverlaps other.2 hfinds

/-- A server with one record, that of a cache for staging. -/
def staged : Server :=
  ({} : Server).afterAll [.act "semantic_query:staging" (.save (recordFor "tea"))]

theorem written_staged : staged.Written :=
  (written_empty rfl).afterAll (List.forall_mem_singleton.2 ⟨"tea", rfl⟩)

theorem counts_overlapping_staged : staged.Written ∧ staged.failing = [] ∧
    let r : Redis := ⟨"semantic_query", staged⟩
    (∃ found, r.Matched found) ∧ (∃ own others, r.Counts own others)
      ∧ (r.CountsOwn ↔ ∀ other, Overlaps "semantic_query" other → ∀ prompt,
        ¬ Finds ⟨other, staged⟩ prompt) := by
  obtain ⟨hfound, hcounts⟩ := counts_overlapping staged written_staged rfl "semantic_query"
  exact ⟨written_staged, rfl, hfound, hcounts (by decide)⟩

/-- A cache that has no record at this server counts the one of the other cache. -/
theorem counts_staged_record : staged.Written ∧ staged.failing = [] ∧
    let r : Redis := ⟨"semantic_query", staged⟩
    (∀ prompt, ¬ r.Finds prompt) ∧ r.countAll.1 = .ok 1 ∧ ¬ r.CountsOwn := by
  refine ⟨written_staged, rfl, ?_⟩
  intro r
  have hkeys : staged.hashes.keys = [keyOf "semantic_query:staging" "tea"] := by decide +kernel
  have hnone (prompt : String) : ¬ r.Finds prompt := by
    rw [written_staged.finds_iff rfl, hkeys, List.mem_singleton, keyOf_inj]
    rintro ⟨hbegin, -⟩
    exact absurd hbegin (by decide)
  have hnumber : r.countAll.1 = .ok 1 := by
    rw [countAll, perform_of_failing_eq_nil rfl]
    exact congrArg (fun n : Nat => Except.ok (n : Int)) (by decide +kernel)
  refine ⟨hnone, hnumber, ?_⟩
  rintro ⟨own, -, hmem, hown⟩
  obtain rfl : own = [] := List.eq_nil_iff_forall_not_mem.2 fun prompt hprompt =>
    hnone prompt ((hmem prompt).1 hprompt)
  cases hnumber.symm.trans hown

end ConceptQuery.Cache.Redis
