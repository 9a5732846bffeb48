import ConceptQuery.Proofs.Cache.Redis
import ConceptQuery.Proofs.Time.Range

/-!
# What any hash is read as

Whatever texts a hash holds, it is the hash of a record, or malformed, or its time is outside of the
calendar of universal time.

* `Hash.Stands`, `Hash.Malformed`, `Hash.Outside` — the three kinds of hashes;
* `Hash.kinds` — there are no others;
* `Hash.Stands.read`, `Hash.Malformed.read`, `Hash.Outside.read` — what each of them is read as;
* `Reads`, `Ends`, `ends_fetch` — what a look for a key sees, and how it ends;
* `Classifies`, `classifies` — the outcomes of a look for a key, each with the only hashes that lead
  to it.
-/

namespace ConceptQuery

/-! ### Times -/

/-- A text spells a timestamp, of whatever offset. -/
def Timestamp.Spells (text : String) (t : Timestamp) : Prop :=
  Timestamp.read (Timestamp.spellZone text) = .ok t

theorem Timestamp.eq_of_instant_eq {t u : Timestamp} (hinstant : t.instant = u.instant)
    (hoffset : t.offset = u.offset) : t = u := by
  have hclock : t.clock = u.clock := by
    unfold instant at hinstant
    omega
  cases t
  cases u
  cases hclock
  cases hoffset
  rfl

namespace Cache.Redis

/-! ### The kinds of hashes -/

/-- The fields that every record has. -/
def fieldNames : List String :=
  ["prompt", "intent", "query", "created_at"]

/-- The hash of a record: its texts, the result only if there is one, and the moment of its making
as a clock of universal time shows it. Other fields may stand beside them. -/
structure Hash.Stands (hash : Hash) (record : Record String) : Prop where
  prompt : hash.get? "prompt" = some record.prompt
  intentText : hash.get? "intent" = some record.intentText
  query : hash.get? "query" = some record.query
  result : hash.get? "result" = record.result
  made : ∃ text t, hash.get? "created_at" = some text ∧ Timestamp.Spells text t ∧ t.InCalendar
    ∧ record.createdAt.instant = t.instant ∧ record.createdAt.offset = 0

/-- A hash that lacks a field of every record, or whose time is no timestamp. -/
inductive Hash.Malformed (hash : Hash) : Prop where
  | missing {name : String} (hname : name ∈ fieldNames) (h : hash.get? name = none)
  | untimed {text : String} (h : hash.get? "created_at" = some text)
    (hnone : ∀ t, ¬ Timestamp.Spells text t)

/-- A hash with all fields whose time is a timestamp that no clock of universal time shows. -/
structure Hash.Outside (hash : Hash) : Prop where
  complete : ∀ name ∈ fieldNames, ∃ text, hash.get? name = some text
  time : ∃ text t, hash.get? "created_at" = some text ∧ Timestamp.Spells text t ∧ ¬ t.InCalendar

variable {r : Redis} {key name : String} {hash : Hash} {record : Record String}

/-- Every hash has all fields, or one of them is missing. -/
theorem Hash.complete_or_missing (hash : Hash) :
    (∀ name ∈ fieldNames, ∃ text, hash.get? name = some text)
      ∨ ∃ name ∈ fieldNames, hash.get? name = none := by
  by_cases h : ∀ name ∈ fieldNames, ∃ text, hash.get? name = some text
  · exact .inl h
  · push Not at h
    obtain ⟨name, hname, hnone⟩ := h
    exact .inr ⟨name, hname, Option.eq_none_iff_forall_ne_some.2 hnone⟩

/-- **There are no other kinds of hashes.** With all fields, the time decides. -/
theorem Hash.kinds (key : String) (hash : Hash) :
    (∃ record, hash.Stands record ∧ record.key = key) ∨ hash.Malformed ∨ hash.Outside := by
  obtain hcomplete | ⟨name, hname, hnone⟩ := hash.complete_or_missing
  · obtain ⟨prompt, hprompt⟩ := hcomplete "prompt" (by decide)
    obtain ⟨intent, hintent⟩ := hcomplete "intent" (by decide)
    obtain ⟨query, hquery⟩ := hcomplete "query" (by decide)
    obtain ⟨created, hcreated⟩ := hcomplete "created_at" (by decide)
    obtain ⟨t, u, hread, hinside, -, hinstant, hoffset⟩ | ⟨text, hread, -⟩
      | ⟨t, hread, houtside, -⟩ := Timestamp.readUtc_cases created
    · exact .inl ⟨⟨key, prompt, intent, query, hash.get? "result", u⟩,
        ⟨hprompt, hintent, hquery, rfl, created, t, hcreated, hread, hinside, hinstant, hoffset⟩,
        rfl⟩
    · refine .inr (.inl (.untimed hcreated fun t ht => ?_))
      rw [Timestamp.Spells, hread] at ht
      cases ht
    · exact .inr (.inr ⟨hcomplete, created, t, hcreated, hread, houtside⟩)
  · exact .inr (.inl (.missing hname hnone))

/-! ### Reading them -/

theorem recordOfHash_eq {prompt intent query created : String}
    (hprompt : hash.get? "prompt" = some prompt) (hintent : hash.get? "intent" = some intent)
    (hquery : hash.get? "query" = some query)
    (hcreated : hash.get? "created_at" = some created) :
    recordOfHash key hash = (timeOf key created).map fun createdAt =>
      ⟨key, prompt, intent, query, hash.get? "result", createdAt⟩ := by
  have hnext {α : Type} (a : α) (f : α → Except Failure (Record String)) :
      (Except.ok a >>= f) = f a := rfl
  unfold recordOfHash
  rw [need_eq_ok hprompt, hnext, need_eq_ok hintent, hnext, need_eq_ok hquery, hnext,
    need_eq_ok hcreated, hnext]
  generalize timeOf key created = outcome
  cases outcome <;> rfl

theorem Hash.Stands.read (h : hash.Stands record) (hkey : record.key = key) :
    recordOfHash key hash = .ok record := by
  obtain ⟨created, t, hcreated, hspells, hinside, hinstant, hoffset⟩ := h.made
  have htime : timeOf key created = .ok record.createdAt := by
    obtain ⟨t', u, hread, -, hu, hinstant', hoffset'⟩ | ⟨text, hread, -⟩ | ⟨t', hread, houtside, -⟩ :=
      Timestamp.readUtc_cases created
    all_goals rw [hspells] at hread
    · obtain rfl := Except.ok.inj hread
      have hsame : u = record.createdAt :=
        Timestamp.eq_of_instant_eq (hinstant'.trans hinstant.symm) (hoffset'.trans hoffset.symm)
      delta timeOf
      rw [hu, hsame]
    · cases hread
    · obtain rfl := Except.ok.inj hread
      exact absurd hinside houtside
  rw [recordOfHash_eq h.prompt h.intentText h.query hcreated, htime, h.result, ← hkey]
  rfl

/-- A field that is missing ends the reading of a hash; one that is there leaves it to the rest. -/
theorem need_bind {f : String → Except Failure (Record String)}
    (h : ∀ text, hash.get? name = some text → ∃ reason, f text = .error (malformed key reason)) :
    ∃ reason, (need key hash name >>= f) = .error (malformed key reason) := by
  cases hget : hash.get? name with
  | none =>
    rw [need, hget]
    exact ⟨_, rfl⟩
  | some text =>
    rw [need_eq_ok hget]
    exact h text hget

theorem Hash.Malformed.read (h : hash.Malformed) :
    ∃ reason, recordOfHash key hash = .error (malformed key reason) := by
  refine need_bind fun prompt hprompt => need_bind fun intent hintent =>
    need_bind fun query hquery => need_bind fun created hcreated => ?_
  cases h with
  | @missing name hname hnone =>
    have hthere : ∃ text, hash.get? name = some text := by
      simp only [fieldNames, List.mem_cons, List.not_mem_nil, or_false] at hname
      obtain rfl | rfl | rfl | rfl := hname
      · exact ⟨prompt, hprompt⟩
      · exact ⟨intent, hintent⟩
      · exact ⟨query, hquery⟩
      · exact ⟨created, hcreated⟩
    obtain ⟨text, htext⟩ := hthere
    exact absurd (hnone.symm.trans htext) nofun
  | untimed hcreated' hnone =>
    obtain rfl := Option.some.inj (hcreated.symm.trans hcreated')
    obtain ⟨t, u, hread, -⟩ | ⟨reason, -, hreason⟩ | ⟨t, hread, -⟩ := Timestamp.readUtc_cases created
    · exact absurd hread (hnone t)
    · refine ⟨reason, ?_⟩
      delta timeOf
      rw [hreason]
      rfl
    · exact absurd hread (hnone t)

theorem Hash.Outside.read (h : hash.Outside) :
    recordOfHash key hash = .error Timestamp.outOfRange := by
  obtain ⟨prompt, hprompt⟩ := h.complete "prompt" (by decide)
  obtain ⟨intent, hintent⟩ := h.complete "intent" (by decide)
  obtain ⟨query, hquery⟩ := h.complete "query" (by decide)
  obtain ⟨created, t, hcreated, hspells, houtside⟩ := h.time
  have htime : timeOf key created = .error Timestamp.outOfRange := by
    obtain ⟨t', u, hread, hinside, -⟩ | ⟨text, hread, -⟩ | ⟨t', -, -, hfails⟩ :=
      Timestamp.readUtc_cases created
    · obtain rfl := Except.ok.inj (hspells.symm.trans hread)
      exact absurd hinside houtside
    · exact absurd (hspells.symm.trans hread) nofun
    · delta timeOf
      rw [hfails]
      rfl
  rw [recordOfHash_eq hprompt hintent hquery hcreated, htime]
  rfl

/-! ### Looks for a key -/

/-- A look for a key that is answered with a hash: its command does not fail, and there are fields
under the key. -/
structure Reads (r : Redis) (key : String) (hash : Hash) : Prop where
  answered : r.server.fails (.readHash (r.hashKey key)) = false
  found : r.server.hashes.get? (r.hashKey key) = some hash
  size_ne_zero : hash.size ≠ 0

/-- A look sends one command, and changes no hash. -/
theorem fetch_eq (r : Redis) (key : String) : r.fetch key
    = (if r.server.fails (.readHash (r.hashKey key)) then .error unavailable
        else recordOf key (r.server.hashes.get? (r.hashKey key)),
      { r with server := r.server.receive (.readHash (r.hashKey key)) }) := by
  unfold fetch perform Server.receiveAll
  by_cases h : r.server.fails (.readHash (r.hashKey key)) = true
  · rw [if_pos h, if_pos h]
    rfl
  · rw [if_neg h, if_neg h]
    rfl

theorem Reads.fetch_eq (h : r.Reads key hash) :
    (r.fetch key).1 = (recordOfHash key hash).map some := by
  rw [Redis.fetch_eq, h.answered, h.found]
  exact if_neg h.size_ne_zero

theorem fetch_unanswered (h : r.server.fails (.readHash (r.hashKey key)) = true) :
    (r.fetch key).1 = .error unavailable := by
  rw [fetch_eq]
  exact if_pos h

theorem fetch_absent (h : r.server.fails (.readHash (r.hashKey key)) = false)
    (hempty : ∀ hash, r.server.hashes.get? (r.hashKey key) = some hash → hash.size = 0) :
    (r.fetch key).1 = .ok none := by
  rw [fetch_eq, h]
  cases hget : r.server.hashes.get? (r.hashKey key) with
  | none => rfl
  | some hash => exact if_pos (hempty hash hget)

theorem Reads.fetch_stands (h : r.Reads key hash) (hstands : hash.Stands record)
    (hkey : record.key = key) : (r.fetch key).1 = .ok (some record) := by
  rw [h.fetch_eq, hstands.read hkey]
  rfl

theorem Reads.fetch_malformed (h : r.Reads key hash) (hmalformed : hash.Malformed) :
    ∃ reason, (r.fetch key).1 = .error (malformed key reason) := by
  obtain ⟨reason, hreason⟩ : ∃ reason, recordOfHash key hash = .error (malformed key reason) :=
    hmalformed.read
  refine ⟨reason, ?_⟩
  rw [h.fetch_eq, hreason]
  rfl

theorem Reads.fetch_outside (h : r.Reads key hash) (houtside : hash.Outside) :
    (r.fetch key).1 = .error Timestamp.outOfRange := by
  rw [h.fetch_eq, houtside.read]
  rfl

/-- The ways in which a look for a key can end. -/
inductive Ends (r : Redis) (key : String) : Except Failure (Option (Record String)) → Prop where
  | unanswered (h : r.server.fails (.readHash (r.hashKey key)) = true) :
    Ends r key (.error unavailable)
  | absent (h : r.server.fails (.readHash (r.hashKey key)) = false)
    (hempty : ∀ hash, r.server.hashes.get? (r.hashKey key) = some hash → hash.size = 0) :
    Ends r key (.ok none)
  | stands {hash : Hash} {record : Record String} (h : r.Reads key hash)
    (hstands : hash.Stands record) (hkey : record.key = key) : Ends r key (.ok (some record))
  | malformed {hash : Hash} (h : r.Reads key hash) (hmalformed : hash.Malformed)
    (reason : String) : Ends r key (.error (malformed key reason))
  | outside {hash : Hash} (h : r.Reads key hash) (houtside : hash.Outside) :
    Ends r key (.error Timestamp.outOfRange)

theorem ends_fetch (r : Redis) (key : String) : r.Ends key (r.fetch key).1 := by
  cases hfails : r.server.fails (.readHash (r.hashKey key)) with
  | true =>
    rw [fetch_unanswered hfails]
    exact .unanswered hfails
  | false =>
    by_cases hempty : ∀ hash, r.server.hashes.get? (r.hashKey key) = some hash → hash.size = 0
    · rw [fetch_absent hfails hempty]
      exact .absent hfails hempty
    · push Not at hempty
      obtain ⟨hash, hfound, hsize⟩ := hempty
      have h : r.Reads key hash := ⟨hfails, hfound, hsize⟩
      obtain ⟨record, hstands, hkey⟩ | hmalformed | houtside := hash.kinds key
      · rw [h.fetch_stands hstands hkey]
        exact .stands h hstands hkey
      · obtain ⟨reason, hreason⟩ := h.fetch_malformed hmalformed
        rw [hreason]
        exact .malformed h hmalformed reason
      · rw [h.fetch_outside houtside]
        exact .outside h houtside

/-- **The outcomes of a look for a key**, each with all that leads to it. -/
structure Classifies (r : Redis) (key : String) : Prop where
  /-- Nothing is found if there is no hash, or one without fields. -/
  absent : (r.fetch key).1 = .ok none ↔ r.server.fails (.readHash (r.hashKey key)) = false
    ∧ ∀ hash, r.server.hashes.get? (r.hashKey key) = some hash → hash.size = 0
  /-- A record is found if it is the hash of this record. -/
  record : ∀ record, (r.fetch key).1 = .ok (some record) ↔
    record.key = key ∧ ∃ hash, r.Reads key hash ∧ hash.Stands record
  /-- The look is a failure of the cache if its command fails, or the hash is malformed. -/
  unavailable : (∃ text, (r.fetch key).1 = .error (.cacheUnavailable text)) ↔
    r.server.fails (.readHash (r.hashKey key)) = true ∨ ∃ hash, r.Reads key hash ∧ hash.Malformed
  /-- There is one other failure, that of a time outside of the calendar. -/
  other : ∀ f, (∀ text, f ≠ .cacheUnavailable text) →
    ((r.fetch key).1 = .error f ↔
      f = Timestamp.outOfRange ∧ ∃ hash, r.Reads key hash ∧ hash.Outside)

/-- **Every look is classified.** -/
theorem classifies (r : Redis) (key : String) : r.Classifies key := by
  have hends := ends_fetch r key
  constructor
  · constructor
    · intro houtcome
      rw [houtcome] at hends
      cases hends with
      | absent h hempty => exact ⟨h, hempty⟩
    · rintro ⟨h, hempty⟩
      exact fetch_absent h hempty
  · intro record
    constructor
    · intro houtcome
      rw [houtcome] at hends
      cases hends with
      | stands h hstands hkey => exact ⟨hkey, _, h, hstands⟩
    · rintro ⟨hkey, hash, h, hstands⟩
      exact h.fetch_stands hstands hkey
  · constructor
    · rintro ⟨text, houtcome⟩
      rw [houtcome] at hends
      cases hends with
      | unanswered h => exact .inl h
      | malformed h hmalformed => exact .inr ⟨_, h, hmalformed⟩
    · rintro (h | ⟨hash, h, hmalformed⟩)
      · exact ⟨_, fetch_unanswered h⟩
      · obtain ⟨reason, hreason⟩ := h.fetch_malformed hmalformed
        exact ⟨_, hreason⟩
  · intro f hf
    constructor
    · intro houtcome
      rw [houtcome] at hends
      cases hends with
      | unanswered => exact absurd rfl (hf _)
      | malformed => exact absurd rfl (hf _)
      | outside h houtside => exact ⟨rfl, _, h, houtside⟩
    · rintro ⟨rfl, hash, h, houtside⟩
      exact h.fetch_outside houtside

end Cache.Redis

end ConceptQuery
