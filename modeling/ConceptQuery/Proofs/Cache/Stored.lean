import ConceptQuery.Proofs.Cache.Statement
import Mathlib.Data.List.Dedup

/-!
# Records as they are stored

A graph that was changed by nothing but the statements of the cache, from a graph that says nothing
about keys of prompts, holds what it held before and the records that were saved last.

* `Blazegraph.Operation` — the operations of the backend;
* `Blazegraph.lastSaved` — the record that was saved last under a key and not removed since;
* `Blazegraph.Foreign` — a graph that says nothing about keys of prompts;
* `Blazegraph.Holds` — a graph that holds the last records and what was there before;
* `Holds.save`, `Holds.remove` — the graph behind an update;
* `Holds.rows_of_some`, `Holds.rows_of_none` — the solutions of the query for a record;
* `rows_totalQuery`, `Holds.entryCount_eq` — the number of records.
-/

namespace ConceptQuery.Cache.Blazegraph

open Rdf Sparql Statement

/-! ### Operations -/

/-- An operation of the backend. -/
inductive Operation where
  | save (r : Record String)
  | remove (key : String)
  | fetch (key : String)
  | countAll

/-- The key of an operation is the key of a prompt. -/
def Operation.Keyed : Operation → Prop
  | .save r => ∃ p, r.key = promptKey p
  | .remove key => ∃ p, key = promptKey p
  | .fetch key => ∃ p, key = promptKey p
  | .countAll => True

/-- The record that was saved last under a key and not removed since, with its time in universal
time; the latest operation comes first. A record whose time has no such form is not saved. -/
def lastSaved (key : String) : List Operation → Option (Record String × Timestamp)
  | [] => none
  | .save r :: past =>
    match r.createdAt.toUtc with
    | .ok time => if r.key = key then some (r, time) else lastSaved key past
    | .error _ => lastSaved key past
  | .remove key' :: past => if key' = key then none else lastSaved key past
  | .fetch _ :: past => lastSaved key past
  | .countAll :: past => lastSaved key past

variable {past : List Operation} {g₀ g : Graph} {key : String} {r : Record String}
  {time : Timestamp}

theorem lastSaved_save (htime : r.createdAt.toUtc = .ok time) :
    lastSaved key (.save r :: past)
      = if r.key = key then some (r, time) else lastSaved key past := by
  rw [lastSaved, htime]

theorem lastSaved_save_of_error {f : Failure} (htime : r.createdAt.toUtc = .error f) :
    lastSaved key (.save r :: past) = lastSaved key past := by
  rw [lastSaved, htime]

/-- What was saved under a key has this key, and is a record that some operation saved. -/
theorem key_of_lastSaved (h : lastSaved key past = some (r, time)) :
    r.key = key ∧ r.createdAt.toUtc = .ok time ∧ .save r ∈ past := by
  induction past with
  | nil => cases h
  | cons o past ih =>
    have hearlier (h : lastSaved key past = some (r, time)) :
        r.key = key ∧ r.createdAt.toUtc = .ok time ∧ .save r ∈ o :: past := by
      obtain ⟨hkey, htime, hmem⟩ := ih h
      exact ⟨hkey, htime, List.mem_cons_of_mem o hmem⟩
    cases o with
    | save r' =>
      cases htime : r'.createdAt.toUtc with
      | ok time' =>
        rw [lastSaved_save htime] at h
        split at h
        · next hkey =>
          obtain ⟨rfl, rfl⟩ := Prod.mk.inj (Option.some.inj h)
          exact ⟨hkey, htime, List.mem_cons_self⟩
        · exact hearlier h
      | error f =>
        rw [lastSaved_save_of_error htime] at h
        exact hearlier h
    | remove key' =>
      rw [lastSaved] at h
      split at h
      · cases h
      · exact hearlier h
    | fetch key' => exact hearlier h
    | countAll => exact hearlier h

/-! ### Graphs that hold records -/

/-- The graph says nothing about keys of prompts. -/
def Foreign (g : Graph) : Prop :=
  ∀ t ∈ g.triples, ∀ p, t.subject ≠ .iri (promptKey p)

/-- The graph holds what another one held, and the records that were saved last. -/
def Holds (g₀ : Graph) (past : List Operation) (g : Graph) : Prop :=
  ∀ t, t ∈ g.triples ↔ t ∈ g₀.triples
    ∨ ∃ key r time, lastSaved key past = some (r, time) ∧ t ∈ triples r time

theorem holds_nil (g : Graph) : Holds g [] g := by
  intro t
  simp [lastSaved]

/-- An operation that leaves the last records what they are. -/
theorem Holds.keep (h : Holds g₀ past g) {past' : List Operation}
    (hsame : ∀ key, lastSaved key past' = lastSaved key past) : Holds g₀ past' g := by
  intro t
  simp only [h t, hsame]

theorem mem_triples {t : Triple} : t ∈ triples r time ↔
    t.subject = .iri r.key ∧ (t.predicate, t.object) ∈ properties r time := by
  unfold triples
  rw [List.mem_map]
  constructor
  · rintro ⟨property, hproperty, rfl⟩
    exact ⟨rfl, hproperty⟩
  · rintro ⟨hsubject, hproperty⟩
    exact ⟨_, hproperty, by rw [← hsubject]⟩

theorem match?_everything (t : Triple) :
    ((everything key).match? t .empty).isSome = true ↔ t.subject = .iri key := by
  have hpredicate : Node.match? (.var "p") t.predicate .empty
      = some (Solution.empty.bind "p" t.predicate) := Node.match?_var rfl t.predicate
  have hobject : Node.match? (.var "o") t.object (Solution.empty.bind "p" t.predicate)
      = some ((Solution.empty.bind "p" t.predicate).bind "o" t.object) :=
    Node.match?_var (Solution.bind_of_ne _ _ (by decide)) t.object
  unfold everything Pattern.match?
  rw [Node.match?_term]
  by_cases hsubject : Term.iri key = t.subject
  · rw [if_pos hsubject]
    simp [hpredicate, hobject, hsubject]
  · rw [if_neg hsubject]
    simp [Ne.symm hsubject]

/-- Everything about a key is deleted, and nothing else. -/
theorem mem_delete {t : Triple} :
    t ∈ ((Sparql.Operation.deleteWhere [everything key]).apply g).triples ↔
      t ∈ g.triples ∧ t.subject ≠ .iri key := by
  rw [Sparql.Operation.apply, mem_triples_without, mem_instances_singleton, match?_everything,
    not_and]
  constructor
  · rintro ⟨ht, hother⟩
    exact ⟨ht, hother ht⟩
  · rintro ⟨ht, hother⟩
    exact ⟨ht, fun _ => hother⟩

/-- The triples about other keys stay, and so do those that were there before. -/
theorem Holds.mem_others (h : Holds g₀ past g) (hforeign : Foreign g₀) {p : String} (t : Triple) :
    (t ∈ g.triples ∧ t.subject ≠ .iri (promptKey p)) ↔ t ∈ g₀.triples
      ∨ ∃ key r time, key ≠ promptKey p ∧ lastSaved key past = some (r, time)
        ∧ t ∈ triples r time := by
  rw [h t]
  constructor
  · rintro ⟨ht | ⟨key, r, time, hlast, ht⟩, hother⟩
    · exact .inl ht
    · refine .inr ⟨key, r, time, ?_, hlast, ht⟩
      rintro rfl
      exact hother ((mem_triples.1 ht).1.trans (congrArg _ (key_of_lastSaved hlast).1))
  · rintro (ht | ⟨key, r, time, hother, hlast, ht⟩)
    · exact ⟨.inl ht, hforeign t ht p⟩
    · refine ⟨.inr ⟨key, r, time, hlast, ht⟩, fun hsubject => hother ?_⟩
      rw [← (key_of_lastSaved hlast).1]
      exact Term.iri.inj ((mem_triples.1 ht).1.symm.trans hsubject)

/-- **The graph behind a removal.** -/
theorem Holds.remove (h : Holds g₀ past g) (hforeign : Foreign g₀) (p : String) :
    Holds g₀ (.remove (promptKey p) :: past)
      (Sparql.update [.deleteWhere [everything (promptKey p)]] g) := by
  intro t
  show t ∈ ((Sparql.Operation.deleteWhere _).apply g).triples ↔ _
  rw [mem_delete, h.mem_others hforeign]
  refine or_congr_right ?_
  constructor
  · rintro ⟨key, r, time, hother, hlast, ht⟩
    exact ⟨key, r, time, by rw [lastSaved, if_neg (Ne.symm hother), hlast], ht⟩
  · rintro ⟨key, r, time, hlast, ht⟩
    rw [lastSaved] at hlast
    split at hlast
    · cases hlast
    · next hother => exact ⟨key, r, time, Ne.symm hother, hlast, ht⟩

/-- **The graph behind a saving.** -/
theorem Holds.save (h : Holds g₀ past g) (hforeign : Foreign g₀) {p : String}
    (hkey : r.key = promptKey p) (htime : r.createdAt.toUtc = .ok time) :
    Holds g₀ (.save r :: past)
      (Sparql.update [.deleteWhere [everything r.key], .insertData (triples r time)] g) := by
  intro t
  show t ∈ (Graph.addAll ((Sparql.Operation.deleteWhere _).apply g) _).triples ↔ _
  rw [Graph.mem_triples_addAll, mem_delete, hkey, h.mem_others hforeign, or_left_comm]
  refine or_congr_right ?_
  constructor
  · rintro (ht | ⟨key, r', time', hother, hlast, ht⟩)
    · exact ⟨r.key, r, time, by rw [lastSaved_save htime, if_pos rfl], ht⟩
    · refine ⟨key, r', time', ?_, ht⟩
      rw [lastSaved_save htime, if_neg (fun heq => hother (heq.symm.trans hkey)), hlast]
  · rintro ⟨key, r', time', hlast, ht⟩
    rw [lastSaved_save htime] at hlast
    split at hlast
    · obtain ⟨rfl, rfl⟩ := Prod.mk.inj (Option.some.inj hlast)
      exact .inl ht
    · next hother =>
      exact .inr ⟨key, r', time', fun heq => hother (hkey.trans heq.symm), hlast, ht⟩

/-! ### What a graph says about a key -/

/-- The triples about a key are those of the record that was saved last. -/
theorem Holds.mem_iff (h : Holds g₀ past g) (hforeign : Foreign g₀) {p : String}
    {predicate object : Term} : ⟨.iri (promptKey p), predicate, object⟩ ∈ g.triples ↔
      ∃ r time, lastSaved (promptKey p) past = some (r, time)
        ∧ (predicate, object) ∈ properties r time := by
  rw [h]
  constructor
  · rintro (ht | ⟨key, r, time, hlast, ht⟩)
    · exact absurd rfl (hforeign _ ht p)
    · obtain ⟨hsubject, hproperty⟩ := mem_triples.1 ht
      have hkey : key = promptKey p :=
        (key_of_lastSaved hlast).1.symm.trans (Term.iri.inj hsubject.symm)
      exact ⟨r, time, hkey ▸ hlast, hproperty⟩
  · rintro ⟨r, time, hlast, hproperty⟩
    refine .inr ⟨promptKey p, r, time, hlast, mem_triples.2 ⟨?_, hproperty⟩⟩
    rw [(key_of_lastSaved hlast).1]

/-- No property is stated twice. -/
theorem nodup_properties (r : Record String) (time : Timestamp) :
    ((properties r time).map Prod.fst).Nodup := by
  unfold properties
  cases r.result with
  | none =>
    show List.Nodup [typePredicate, cacheTerm "originalPrompt", cacheTerm "hasNLPResponse",
      cacheTerm "hasGraphQLQuery", cacheTerm "createdAt"]
    decide
  | some s =>
    show List.Nodup [typePredicate, cacheTerm "originalPrompt", cacheTerm "hasNLPResponse",
      cacheTerm "hasGraphQLQuery", cacheTerm "hasResult", cacheTerm "createdAt"]
    decide

/-- A property of a record is the only one of its kind. -/
theorem Holds.only (h : Holds g₀ past g) (hforeign : Foreign g₀) {p : String}
    (hlast : lastSaved (promptKey p) past = some (r, time)) {predicate object : Term}
    (hproperty : (predicate, object) ∈ properties r time) :
    Only g (.iri (promptKey p)) predicate object where
  mem := (h.mem_iff hforeign).2 ⟨r, time, hlast, hproperty⟩
  eq_of_mem := by
    intro other hother
    obtain ⟨r', time', hlast', hproperty'⟩ := (h.mem_iff hforeign).1 hother
    obtain ⟨rfl, rfl⟩ := Prod.mk.inj (Option.some.inj (hlast.symm.trans hlast'))
    exact congrArg Prod.snd
      (List.inj_on_of_nodup_map (nodup_properties r time) hproperty' hproperty rfl)

/-! ### The solutions of the query for a record -/

/-- The solution that gives the properties every record has. -/
def requiredSolution (r : Record String) (time : Timestamp) : Solution :=
  (((Solution.empty.bind "prompt" (.plain r.prompt)).bind "intent" (.plain r.intentText)).bind
    "query" (.plain r.query)).bind "createdAt" (timeTerm time)

/-- The solution that gives all properties of a record. -/
def solutionOf (r : Record String) (time : Timestamp) : Solution :=
  match r.result with
  | none => requiredSolution r time
  | some s => (requiredSolution r time).bind "result" (.plain s)

theorem fst_properties_of_none (hresult : r.result = none) (time : Timestamp) :
    (properties r time).map Prod.fst = [typePredicate, cacheTerm "originalPrompt",
      cacheTerm "hasNLPResponse", cacheTerm "hasGraphQLQuery", cacheTerm "createdAt"] := by
  unfold properties
  rw [hresult]
  rfl

/-- A record without a result states none. -/
theorem not_mem_properties_of_none (hresult : r.result = none) (object : Term) :
    (cacheTerm "hasResult", object) ∉ properties r time := by
  intro h
  have hfst : cacheTerm "hasResult" ∈ (properties r time).map Prod.fst := List.mem_map_of_mem h
  rw [fst_properties_of_none hresult] at hfst
  exact absurd hfst (by decide)

theorem result_mem_properties {s : String} (hresult : r.result = some s) (time : Timestamp) :
    (cacheTerm "hasResult", Term.plain s) ∈ properties r time := by
  simp [properties, hresult]

variable {p : String}

/-- A property of a record gives its value to a variable. -/
theorem Holds.solutions_about (h : Holds g₀ past g) (hforeign : Foreign g₀)
    (hlast : lastSaved (promptKey p) past = some (r, time)) {name v : String} {object : Term}
    (hproperty : (cacheTerm name, object) ∈ properties r time) {μ : Solution}
    (hfresh : μ v = none) (rest : List Pattern) :
    solutions g (about (promptKey p) name (.var v) :: rest) μ
      = solutions g rest (μ.bind v object) :=
  solutions_of_only (h.only hforeign hlast hproperty) (Node.match?_var hfresh object) rest

theorem Holds.solutions_of_some (h : Holds g₀ past g) (hforeign : Foreign g₀)
    (hlast : lastSaved (promptKey p) past = some (r, time)) :
    solutions g (recordQuery (promptKey p)).required .empty = [requiredSolution r time] := by
  have htype : (typePredicate, cacheTerm "CachedEntry") ∈ properties r time := by simp [properties]
  have hprompt : (cacheTerm "originalPrompt", Term.plain r.prompt) ∈ properties r time := by
    simp [properties]
  have hintent : (cacheTerm "hasNLPResponse", Term.plain r.intentText) ∈ properties r time := by
    simp [properties]
  have hquery : (cacheTerm "hasGraphQLQuery", Term.plain r.query) ∈ properties r time := by
    simp [properties]
  have htime : (cacheTerm "createdAt", timeTerm time) ∈ properties r time := by
    simp [properties]
  have hentry : Node.match? (.term (cacheTerm "CachedEntry")) (cacheTerm "CachedEntry")
      Solution.empty = some Solution.empty := by rw [Node.match?_term, if_pos rfl]
  unfold recordQuery
  rw [solutions_of_only (h.only hforeign hlast htype) hentry,
    h.solutions_about hforeign hlast hprompt rfl,
    h.solutions_about hforeign hlast hintent (by simp [Solution.bind, Solution.empty]),
    h.solutions_about hforeign hlast hquery (by simp [Solution.bind, Solution.empty]),
    h.solutions_about hforeign hlast htime (by simp [Solution.bind, Solution.empty])]
  rfl

/-- **The query for a record has one solution**, if there is a record: its properties. -/
theorem Holds.rows_of_some (h : Holds g₀ past g) (hforeign : Foreign g₀)
    (hlast : lastSaved (promptKey p) past = some (r, time)) :
    (recordQuery (promptKey p)).rows g = [solutionOf r time] := by
  have hfresh : requiredSolution r time "result" = none := by
    simp [requiredSolution, Solution.bind, Solution.empty]
  show (solutions g (recordQuery (promptKey p)).required .empty).flatMap (optionally g _) = _
  rw [h.solutions_of_some hforeign hlast, List.flatMap_singleton]
  unfold optionally solutionOf
  cases hresult : r.result with
  | none =>
    have habsent : ∀ object,
        ⟨.iri (promptKey p), cacheTerm "hasResult", object⟩ ∉ g.triples := by
      intro object hmem
      obtain ⟨r', time', hlast', hproperty⟩ := (h.mem_iff hforeign).1 hmem
      obtain ⟨rfl, rfl⟩ := Prod.mk.inj (Option.some.inj (hlast.symm.trans hlast'))
      exact not_mem_properties_of_none hresult object hproperty
    rw [about, solutions_of_absent habsent]
  | some s =>
    rw [h.solutions_about hforeign hlast (result_mem_properties hresult time) hfresh]
    rfl

/-- The query for a record has no solution if there is none. -/
theorem Holds.rows_of_none (h : Holds g₀ past g) (hforeign : Foreign g₀)
    (hlast : lastSaved (promptKey p) past = none) : (recordQuery (promptKey p)).rows g = [] := by
  have habsent : ∀ object, ⟨.iri (promptKey p), typePredicate, object⟩ ∉ g.triples := by
    intro object hmem
    obtain ⟨r, time, hlast', -⟩ := (h.mem_iff hforeign).1 hmem
    rw [hlast] at hlast'
    cases hlast'
  show (solutions g (recordQuery (promptKey p)).required .empty).flatMap (optionally g _) = _
  unfold recordQuery
  rw [solutions_of_absent habsent, List.flatMap_nil]

/-! ### The number of records -/

/-- Whether a triple says that its subject is a record. -/
def isEntry (t : Triple) : Bool :=
  t.predicate = typePredicate && t.object = cacheTerm "CachedEntry"

/-- The number of subjects that a graph says to be records. -/
def entryCount (g : Graph) : Nat :=
  g.triples.countP isEntry

/-- The query for the number of records has one solution, the number of entries. -/
theorem rows_totalQuery (g : Graph) : totalQuery.rows g
    = [Solution.empty.bind "total"
        (.literal ⟨toString (entryCount g), .datatype (xsd "integer")⟩)] := by
  have hmatch (t : Triple) : Pattern.match? ⟨.var "entry", .term typePredicate,
      .term (cacheTerm "CachedEntry")⟩ t .empty
        = if isEntry t then some (Solution.empty.bind "entry" t.subject) else none := by
    have hsubject : Node.match? (.var "entry") t.subject .empty
        = some (Solution.empty.bind "entry" t.subject) := Node.match?_var rfl t.subject
    unfold Pattern.match?
    rw [hsubject]
    simp only [Option.bind_eq_bind, Option.bind_some, Node.match?_term, isEntry]
    by_cases hpredicate : typePredicate = t.predicate
    · by_cases hobject : cacheTerm "CachedEntry" = t.object
      · simp [← hpredicate, ← hobject]
      · simp [← hpredicate, hobject, Ne.symm hobject]
    · simp [hpredicate, Ne.symm hpredicate]
  have hcount : (solutions g totalQuery.required .empty).countP (fun μ => (μ "entry").isSome)
      = entryCount g := by
    unfold totalQuery
    rw [solutions_singleton, List.countP_filterMap, entryCount]
    congr 1
    funext t
    rw [hmatch]
    by_cases hentry : isEntry t = true
    · simp [hentry]
    · simp [hentry]
  show [Solution.empty.bind "total" (.literal ⟨toString
    ((solutions g totalQuery.required .empty).countP fun μ => (μ "entry").isSome), _⟩)] = _
  rw [hcount]

/-- The key that an operation saves under. -/
def Operation.savedKey? : Operation → Option String
  | .save r => some r.key
  | _ => none

/-- The keys that have a record are finitely many. -/
theorem exists_keys (past : List Operation) :
    ∃ keys : List String, keys.Nodup ∧ ∀ key, key ∈ keys ↔ lastSaved key past ≠ none := by
  refine ⟨(past.filterMap Operation.savedKey?).dedup.filter fun key => (lastSaved key past).isSome,
    (List.nodup_dedup _).filter _, fun key => ?_⟩
  rw [List.mem_filter, List.mem_dedup, List.mem_filterMap, Option.isSome_iff_ne_none]
  constructor
  · exact fun h => h.2
  · intro h
    obtain ⟨⟨r, time⟩, hlast⟩ := Option.ne_none_iff_exists'.1 h
    obtain ⟨hkey, -, hmem⟩ := key_of_lastSaved hlast
    exact ⟨⟨_, hmem, congrArg some hkey⟩, h⟩

/-- The triple by which a key is an entry. -/
def entryTriple (key : String) : Triple :=
  ⟨.iri key, typePredicate, cacheTerm "CachedEntry"⟩

theorem isEntry_iff {t : Triple} : isEntry t = true ↔
    t.predicate = typePredicate ∧ t.object = cacheTerm "CachedEntry" := by
  simp [isEntry]

/-- Among the triples of a record one makes it an entry. -/
theorem mem_triples_entry {t : Triple} (hentry : isEntry t = true) :
    t ∈ triples r time ↔ t = entryTriple r.key := by
  obtain ⟨hpredicate, hobject⟩ := isEntry_iff.1 hentry
  rw [mem_triples, hpredicate, hobject]
  constructor
  · rintro ⟨hsubject, -⟩
    rw [entryTriple, ← hsubject, ← hpredicate, ← hobject]
  · rintro rfl
    exact ⟨rfl, by simp [properties]⟩

theorem Holds.mem_entries (h : Holds g₀ past g) {keys : List String}
    (hkeys : ∀ key, key ∈ keys ↔ lastSaved key past ≠ none) (t : Triple) :
    t ∈ g.triples.filter isEntry ↔ t ∈ keys.map entryTriple ++ g₀.triples.filter isEntry := by
  rw [List.mem_append, List.mem_map, List.mem_filter, List.mem_filter, h t]
  constructor
  · rintro ⟨ht | ⟨key, r, time, hlast, ht⟩, hentry⟩
    · exact .inr ⟨ht, hentry⟩
    · refine .inl ⟨key, (hkeys key).2 ?_, ?_⟩
      · rw [hlast]
        exact Option.some_ne_none _
      · rw [(mem_triples_entry hentry).1 ht, (key_of_lastSaved hlast).1]
  · rintro (⟨key, hkey, rfl⟩ | ⟨ht, hentry⟩)
    · have hentry : isEntry (entryTriple key) = true := isEntry_iff.2 ⟨rfl, rfl⟩
      obtain ⟨⟨r, time⟩, hlast⟩ := Option.ne_none_iff_exists'.1 ((hkeys key).1 hkey)
      refine ⟨.inr ⟨key, r, time, hlast, ?_⟩, hentry⟩
      rw [mem_triples_entry hentry, (key_of_lastSaved hlast).1]
    · exact ⟨.inl ht, hentry⟩

/-- **The entries of a graph** are the keys that have a record, and what was there before. -/
theorem Holds.entryCount_eq (h : Holds g₀ past g) (hforeign : Foreign g₀)
    (hkeyed : ∀ o ∈ past, o.Keyed) {keys : List String} (hnodup : keys.Nodup)
    (hkeys : ∀ key, key ∈ keys ↔ lastSaved key past ≠ none) :
    entryCount g = keys.length + entryCount g₀ := by
  have hinjective : Function.Injective entryTriple :=
    fun _ _ heq => Term.iri.inj (congrArg Triple.subject heq)
  have hapart : ∀ t ∈ keys.map entryTriple, t ∉ g₀.triples.filter isEntry := by
    rintro t ht hmem
    obtain ⟨key, hkey, rfl⟩ := List.mem_map.1 ht
    obtain ⟨⟨r, time⟩, hlast⟩ := Option.ne_none_iff_exists'.1 ((hkeys key).1 hkey)
    obtain ⟨hr, -, hsave⟩ := key_of_lastSaved hlast
    obtain ⟨p, hp⟩ := hkeyed _ hsave
    exact hforeign _ (List.mem_filter.1 hmem).1 p (congrArg Term.iri (hr.symm.trans hp))
  have hsum : (keys.map entryTriple ++ g₀.triples.filter isEntry).Nodup :=
    (hnodup.map hinjective).append (g₀.nodup.filter _) hapart
  have hperm := (List.perm_ext_iff_of_nodup (g.nodup.filter isEntry) hsum).2 (h.mem_entries hkeys)
  rw [entryCount, entryCount, List.countP_eq_length_filter, List.countP_eq_length_filter,
    hperm.length_eq, List.length_append, List.length_map]

end ConceptQuery.Cache.Blazegraph
