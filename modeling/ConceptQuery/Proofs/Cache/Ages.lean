import ConceptQuery.Proofs.Cache.Blazegraph
import ConceptQuery.Proofs.Cache.Hashes
import ConceptQuery.Proofs.Time.Moments

/-!
# Ages of stored records

The moment at which a record was made outlives every way through text: neither the offset of the
clock that told it nor the way in which a fraction was written changes the age of the record by a
microsecond. Only an offset of less than a second is lost where it is written down as it is.

* `Timestamp.ReadsAs` — a text that is read as a moment;
* `Record.SameAge` — records of one age;
* `Redis.Since`, `Redis.get?_save`, `Redis.fetch_hashOf` — a hash that stays as it was saved;
* `Blazegraph.sameAge_of_turns` — a record that is found in a run;
* `keeps_ages` — timestamps and records are read back;
* `loses_short_offset` — an offset of a microsecond.
-/

namespace ConceptQuery

/-- A text is read as the moment of a timestamp, in universal time. -/
def Timestamp.ReadsAs (text : String) (t : Timestamp) : Prop :=
  ∃ u, Timestamp.readUtc text = .ok u ∧ u.instant = t.instant ∧ u.offset = 0

namespace Cache

variable {τ σ : Type}

/-- Two records are equally old at every time, so they reach every lifetime at the same time. -/
def Record.SameAge (r : Record τ) (r' : Record σ) : Prop :=
  ∀ now, r.age now = r'.age now ∧ ∀ ttl, r.isExpired ttl now = r'.isExpired ttl now

theorem Record.sameAge_of_instant_eq {r : Record τ} {r' : Record σ}
    (h : r.createdAt.instant = r'.createdAt.instant) : r.SameAge r' := by
  intro now
  have hage : r.age now = r'.age now := by
    unfold age
    rw [h]
  refine ⟨hage, fun ttl => ?_⟩
  unfold isExpired
  rw [hage]

/-! ### Hashes -/

namespace Redis

variable {r r' : Redis} {record : Record String} {key : String}

/-- A later state of a server in which a hash is still what it was, and can be read. -/
structure Since (r r' : Redis) (key : String) : Prop where
  prefix_eq : r'.keyPrefix = r.keyPrefix
  hash_eq : r'.server.hashes.get? (r'.hashKey key) = r.server.hashes.get? (r'.hashKey key)
  answered : r'.server.fails (.readHash (r'.hashKey key)) = false

/-- A save that is answered leaves the hash of the record. -/
theorem get?_save (h : (r.save record).1 = .ok ()) :
    (r.save record).2.server.hashes.get? (r.hashKey record.key) = some (hashOf record) := by
  unfold save at h ⊢
  obtain ⟨hanswer, -, hhashes⟩ := r.perform_eq
    [.queueDelete (r.hashKey record.key), .queueWrite (r.hashKey record.key) (hashOf record),
      .execute] fun hashes =>
      ((), (hashes.erase (r.hashKey record.key)).insert (r.hashKey record.key) (hashOf record))
  dsimp only at h ⊢
  rw [hhashes]
  rw [hanswer] at h
  split at h
  · next hall => rw [if_pos hall, Table.get?_insert_self]
  · cases h

/-- The hash of a record is read as the record, made when its time is read. -/
theorem fetch_hashOf {u : Timestamp} (h : r.Reads record.key (hashOf record))
    (hu : Timestamp.readUtc record.createdAt.toText = .ok u) :
    (r.fetch record.key).1 = .ok (some { record with createdAt := u }) := by
  obtain ⟨hprompt, hintent, hquery, hcreated, hresult⟩ := get?_hashOf record
  have htime : timeOf record.key record.createdAt.toText = .ok u := by
    delta timeOf
    rw [hu]
  rw [h.fetch_eq, recordOfHash_eq hprompt hintent hquery hcreated, htime, hresult]
  rfl

/-- What was saved is what is read later. -/
theorem Since.reads (h : (r.save record).2.Since r' record.key)
    (hsaved : (r.save record).1 = .ok ()) : r'.Reads record.key (hashOf record) := by
  have hkey : r'.hashKey record.key = r.hashKey record.key := by
    unfold hashKey keyStart
    rw [h.prefix_eq, keyPrefix_save]
  refine ⟨h.answered, ?_, size_hashOf_ne_zero record⟩
  rw [h.hash_eq, hkey, get?_save hsaved]

end Redis

/-! ### Triples -/

namespace Blazegraph

open Http Sparql Statement

/-- In a run, what is found under a key is as old as the record that was saved last. -/
theorem sameAge_of_turns {b : Blazegraph} {g₀ g' : Rdf.Graph} {n : Network}
    {operations : List Operation} (hkeyed : ∀ o ∈ operations, o.Keyed) (hforeign : Foreign g₀)
    (hserved : Conversation b.endpoint g₀ (n.exchanges (b.finish operations n)) g')
    {earlier later : List Turn} {key : String} {answer : Except Failure Answer}
    {sent : List Request}
    (hturn : b.turns operations n = earlier ++ ⟨.fetch key, answer, sent⟩ :: later)
    {record : Record String} {time : Timestamp}
    (hlast : lastSaved key (earlier.map Turn.operation).reverse = some (record, time)) :
    ∃ found, answer = .ok (.found (some found)) ∧ ReadBack record found
      ∧ found.SameAge record := by
  obtain ⟨hturns, -⟩ :=
    meets_of_conversation hforeign hkeyed (List.forall_mem_nil _) (holds_nil g₀) hserved
  have hmeets := hturns earlier _ later hturn
  rw [List.append_nil] at hmeets
  unfold Turn.Meets at hmeets
  dsimp only at hmeets
  rw [hlast] at hmeets
  obtain ⟨found, hanswer, hread⟩ := hmeets
  exact ⟨found, hanswer, hread, Record.sameAge_of_instant_eq hread.instant⟩

end Blazegraph

/-! ### All ways through text -/

open Http Timestamp Blazegraph Statement

/-- **Moments are read back, and records keep their age.** Every timestamp whose moment is in the
calendar of universal time is read back from its text as this moment, with whatever offset, down to
the microsecond, that is zero or not shorter than a second; and from its text in universal time,
whatever the offset is. What was read from any text at all is read back from its own text. So a
record that was saved as a hash and is read when the hash is still the same has its age at all
times, for offsets as above; and so has a record that was saved as triples and is read in any run
of operations at an endpoint that carries out what is sent to it, for all offsets. -/
theorem keeps_ages :
    (∀ t : Timestamp, t.InCalendar → Kept t.offset → ReadsAs t.toText t)
      ∧ (∀ t : Timestamp, t.InCalendar → ∃ u, t.toUtc = .ok u ∧ ReadsAs u.toText t)
      ∧ (∀ text u, readUtc text = .ok u → readUtc u.toText = .ok u)
      ∧ (∀ (r r' : Redis) (record : Record String), record.createdAt.InCalendar →
        Kept record.createdAt.offset → (r.save record).1 = .ok () →
        (r.save record).2.Since r' record.key →
        ∃ found, (r'.fetch record.key).1 = .ok (some found) ∧ found.SameAge record
          ∧ found = { record with createdAt := found.createdAt })
      ∧ ∀ (b : Blazegraph) (g₀ g' : Rdf.Graph) (n : Network) (operations : List Operation),
        (∀ o ∈ operations, o.Keyed) → Foreign g₀ →
        Sparql.Conversation b.endpoint g₀ (n.exchanges (b.finish operations n)) g' →
        ∀ earlier key answer sent later,
          b.turns operations n = earlier ++ ⟨.fetch key, answer, sent⟩ :: later →
          ∀ record time, lastSaved key (earlier.map Turn.operation).reverse = some (record, time) →
            ∃ found, answer = .ok (.found (some found)) ∧ found.SameAge record
              ∧ ReadBack record found := by
  refine ⟨fun t hin hkept => hkept.readUtc_toText hin, fun t hin => ?_,
    fun text u hread => readUtc_readUtc_toText hread, ?_, ?_⟩
  · obtain ⟨u, hu, hinstant, hoffset, hread⟩ := readUtc_toUtc_toText hin
    exact ⟨u, hu, u, hread, hinstant, hoffset⟩
  · intro r r' record hin hkept hsaved hsince
    obtain ⟨u, hread, hinstant, -⟩ := hkept.readUtc_toText hin
    exact ⟨{ record with createdAt := u }, Redis.fetch_hashOf (hsince.reads hsaved) hread,
      Record.sameAge_of_instant_eq hinstant, rfl⟩
  · intro b g₀ g' n operations hkeyed hforeign hserved earlier key answer sent later hturn record
      time hlast
    obtain ⟨found, hanswer, hread, hage⟩ := sameAge_of_turns hkeyed hforeign hserved hturn hlast
    exact ⟨found, hanswer, hage, hread⟩

/-- A record that was made one microsecond into the year two, by a clock that is half an hour,
fifteen and a half seconds ahead of universal time: its moment is in the year one. -/
theorem keeps_ages_across_years :
    let made : Timestamp := (ofClock? 31536000000001 1815500000).get (by decide)
    let record : Record String :=
      ⟨promptKey "tea", "tea", "\x7b\x7d", "\x7b x \x7d", some "", made⟩
    let r : Redis := ⟨"p", {}⟩
    let b : Blazegraph := ⟨"http://localhost:9999/sparql"⟩
    let time : Timestamp := (ofClock? 31534184500001 0).get (by decide)
    let update : Sparql.Operation := .insertData (triples record time)
    let held := Sparql.update [.deleteWhere [everything record.key], update] .empty
    let n : Network :=
      ⟨[default, .response (Sparql.report (recordQuery record.key) held)], default, []⟩
    made.toText = "0002-01-01T00:00:00.000001+00:30:15.500000"
      ∧ ReadsAs made.toText made
      ∧ (∃ u, made.toUtc = .ok u ∧ ReadsAs u.toText made)
      ∧ (∃ found, ((r.save record).2.fetch record.key).1 = .ok (some found) ∧ found.SameAge record)
      ∧ ∃ t ∈ b.turns [.save record, .fetch record.key] n, ∃ found,
        t.answer = .ok (.found (some found)) ∧ found.SameAge record := by
  intro made record r b time update held n
  obtain ⟨htext, hutc, -, hhash, htriples⟩ := keeps_ages
  have hin : made.InCalendar := ⟨by decide, by decide⟩
  have hkept : Kept made.offset := by decide
  refine ⟨by decide +kernel, htext made hin hkept, hutc made hin, ?_, ?_⟩
  · obtain ⟨found, hfound, hage, -⟩ :=
      hhash r (r.save record).2 record hin hkept rfl ⟨rfl, rfl, rfl⟩
    exact ⟨found, hfound, hage⟩
  · have htime : record.createdAt.toUtc = .ok time := rfl
    have hkeyed : ∀ o ∈ [Blazegraph.Operation.save record, .fetch record.key], o.Keyed :=
      List.forall_mem_cons.2 ⟨⟨_, rfl⟩, List.forall_mem_singleton.2 ⟨_, rfl⟩⟩
    have hforeign : Foreign .empty := by
      intro t ht
      cases ht
    have hserved : Sparql.Conversation b.endpoint .empty
        (n.exchanges (b.finish [.save record, .fetch record.key] n)) held := by
      obtain ⟨text, hreplace, hread⟩ := readUpdate?_replace (r := record) rfl htime
      have hselect : Sparql.readQuery? (select record.key) = some (recordQuery record.key) :=
        readQuery?_select _
      refine conversation_of_exchange (perform_save hreplace)
        ((Sparql.serves_update_iff hread).2 ⟨rfl, ⟨200, [], [], {}⟩, rfl, rfl⟩) ?_
      refine conversation_of_exchange (b.perform_fetch record.key _)
        ((Sparql.serves_query_iff hselect).2 ⟨rfl, _, rfl, Sparql.reports_report _ _⟩) ?_
      exact .nil
    obtain ⟨answer, sent, hfetch⟩ : ∃ answer sent,
        b.turn (.fetch record.key) (b.perform (.save record) n).2
          = ⟨.fetch record.key, answer, sent⟩ :=
      ⟨_, _, turn_of_exchange (b.perform_fetch record.key _)⟩
    have hturns : b.turns [.save record, .fetch record.key] n
        = [b.turn (.save record) n] ++ [⟨.fetch record.key, answer, sent⟩] := by
      rw [← hfetch]
      rfl
    have hlast : lastSaved record.key [.save record] = some (record, time) := by
      rw [lastSaved_save htime, if_pos rfl]
    obtain ⟨found, hfound, hage, -⟩ :=
      htriples b .empty held n _ hkeyed hforeign hserved _ _ _ _ _ hturns record time hlast
    rw [hturns]
    exact ⟨_, List.mem_append_right _ (List.mem_singleton_self _), found, hfound, hage⟩

/-- One microsecond ahead of universal time, noon is read as noon of universal time. -/
theorem loses_short_offset :
    ¬ ∀ t : Timestamp, t.InCalendar → ReadsAs t.toText t := by
  intro h
  let noon : Timestamp := (ofClock? 43200000000 1).get (by decide)
  obtain ⟨u, hread, hinstant, -⟩ := h noon ⟨by decide, by decide⟩
  have hshort : ¬ Kept noon.offset := by decide
  obtain ⟨u', hread', hinstant', -⟩ := readUtc_toText_of_not_kept hshort
  obtain rfl := Except.ok.inj (hread.symm.trans hread')
  exact absurd (hinstant.symm.trans hinstant') (by decide)

end Cache

end ConceptQuery
