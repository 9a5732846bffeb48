import ConceptQuery.Cache.Blazegraph
import ConceptQuery.Proofs.Except
import ConceptQuery.Proofs.Json.Document
import ConceptQuery.Proofs.Json.Printing

/-!
# Which replies are told as failures of the cache

Whatever a triple store replies, updates and the check of its health end as callers expect: with a
result, or with a failure of the cache.  Queries do so for some shapes of answers only, and these
shapes are told here.

* `Json.Leads`, `Json.walk_cases` — where a path of names leads to in a value, and looking it up;
* `Timestamp.of_readUtc_error` — why a text gives no time;
* `Ends`, `Settled` — outcomes with an expected result or an allowed failure;
* `Whole`, `Answers`, `Cells`, `RecordValues`, `RecordRow`, `TotalRow` — the shapes of answers;
* `settled_post`, `settled_answer` — replies to queries, down to the first row;
* `settled_recordOfRow`, `settled_totalRow` — first rows;
* `settles_by_shape` — all operations.
-/

namespace ConceptQuery.Json

/-! ### Paths -/

/-- Where a path of names leads to, object by object: to a value, or to nothing if one of the
objects has no such member. From anything but an object a name leads nowhere at all. -/
inductive Leads : Json → List String → Option Json → Prop where
  | here (v : Json) : Leads v [] (some v)
  | missing {members : List (String × Json)} {name : String} {path : List String}
    (h : lookup members name = none) : Leads (.object members) (name :: path) none
  | member {members : List (String × Json)} {name : String} {path : List String} {w : Json}
    {found : Option Json} (h : lookup members name = some w) (hrest : Leads w path found) :
    Leads (.object members) (name :: path) found

variable {v w : Json} {name : String} {path : List String} {found : Option Json} {f : Failure}

/-- A path is looked up name by name. -/
def walk (v : Json) (path : List String) : Except Failure Json :=
  path.foldlM item v

theorem walk_cons (v : Json) (name : String) (path : List String) :
    v.walk (name :: path) = v.item name >>= fun w => w.walk path :=
  List.foldlM_cons

/-- An item of a value is a member of an object, or this member is missing, or there are no members
at all. -/
theorem item_cases (v : Json) (name : String) :
    (∃ members w, v = .object members ∧ lookup members name = some w ∧ v.item name = .ok w)
      ∨ (∃ members, v = .object members ∧ lookup members name = none
        ∧ v.item name = .error (.missingKey (.string name)))
      ∨ (∀ members, v ≠ .object members) ∧ ∃ text, v.item name = .error (.wrongType text) := by
  cases v with
  | object members =>
    cases hlookup : lookup members name with
    | some w => exact .inl ⟨members, w, rfl, hlookup, by rw [item, hlookup]⟩
    | none => exact .inr (.inl ⟨members, rfl, hlookup, by rw [item, hlookup]⟩)
  | _ => exact .inr (.inr ⟨nofun, _, rfl⟩)

/-- A path is looked up to the value that it leads to, or to the member that is missing, or it meets
a value without members. -/
theorem walk_cases (v : Json) (path : List String) :
    (∃ w, v.walk path = .ok w ∧ Leads v path (some w))
      ∨ (∃ key, v.walk path = .error (.missingKey key) ∧ Leads v path none)
      ∨ (∃ text, v.walk path = .error (.wrongType text) ∧ ∀ found, ¬ Leads v path found) := by
  induction path generalizing v with
  | nil => exact .inl ⟨v, rfl, .here v⟩
  | cons name path ih =>
    rw [walk_cons]
    obtain ⟨members, u, rfl, hlookup, hitem⟩ | ⟨members, rfl, hlookup, hitem⟩
      | ⟨hnone, text, hitem⟩ := v.item_cases name
    all_goals rw [hitem]
    · obtain ⟨w, hw, hleads⟩ | ⟨key, hkey, hleads⟩ | ⟨text, htext, hnowhere⟩ := ih u
      · exact .inl ⟨w, hw, .member hlookup hleads⟩
      · exact .inr (.inl ⟨key, hkey, .member hlookup hleads⟩)
      · refine .inr (.inr ⟨text, htext, fun found h => ?_⟩)
        cases h with
        | missing hlookup' => exact absurd (hlookup.symm.trans hlookup') nofun
        | member hlookup' hrest =>
          obtain rfl := Option.some.inj (hlookup.symm.trans hlookup')
          exact hnowhere found hrest
    · exact .inr (.inl ⟨_, rfl, .missing hlookup⟩)
    · refine .inr (.inr ⟨text, rfl, fun found h => ?_⟩)
      cases h with
      | missing => exact hnone _ rfl
      | member => exact hnone _ rfl

/-- A path leads to one place. -/
theorem Leads.unique {found' : Option Json} (h : Leads v path found) (h' : Leads v path found') :
    found = found' := by
  induction h with
  | here v =>
    cases h'
    rfl
  | missing hlookup =>
    cases h' with
    | missing => rfl
    | member hlookup' => exact absurd (hlookup.symm.trans hlookup') nofun
  | member hlookup _ ih =>
    cases h' with
    | missing hlookup' => exact absurd (hlookup.symm.trans hlookup') nofun
    | member hlookup' hrest' =>
      obtain rfl := Option.some.inj (hlookup.symm.trans hlookup')
      exact ih hrest'

end ConceptQuery.Json

namespace ConceptQuery.Timestamp

/-! ### Times -/

theorem of_ofClock_error {clock offset : Int} {f : Failure} (h : ofClock clock offset = .error f) :
    f = outOfRange := by
  unfold ofClock at h
  split at h
  · cases h
  · exact (Except.error.inj h).symm

/-- A text that gives no time spells none, or one outside of the calendar. -/
theorem of_readUtc_error {s : String} {f : Failure} (h : readUtc s = .error f) :
    (∃ text, f = .invalidValue text) ∨ f = outOfRange := by
  unfold readUtc at h
  split at h
  · next hread =>
    obtain rfl := Except.error.inj h
    unfold read at hread
    split at hread
    · exact .inl ⟨_, (Except.error.inj hread).symm⟩
    · unfold ofParts at hread
      dsimp only at hread
      split at hread
      · exact .inl ⟨_, (Except.error.inj hread).symm⟩
      · split at hread
        · exact .inl ⟨_, (Except.error.inj hread).symm⟩
        · exact .inr (of_ofClock_error hread)
  · exact .inr (of_ofClock_error h)

end ConceptQuery.Timestamp

namespace ConceptQuery.Cache.Blazegraph

open Http

/-! ### Outcomes -/

variable {α β : Type} {expected : α → Prop} {allowed : Failure → Prop}

/-- A result is as expected, or a failure is one of those that are allowed. -/
def Ends (expected : α → Prop) (allowed : Failure → Prop) : Except Failure α → Prop
  | .ok a => expected a
  | .error f => allowed f

/-- A failure of the cache. -/
def OfCache (f : Failure) : Prop :=
  ∃ text, f = .cacheUnavailable text

/-- A failure that is turned into one of the cache. -/
inductive Blamable : Failure → Prop where
  | missingKey (key : Json) : Blamable (.missingKey key)
  | invalidValue (text : String) : Blamable (.invalidValue text)
  | cacheUnavailable (text : String) : Blamable (.cacheUnavailable text)

/-- A result is as expected, or there is a failure of the cache. -/
def Settled (expected : α → Prop) : Except Failure α → Prop :=
  Ends expected OfCache

theorem ends_bind {x : Except Failure β} {f : β → Except Failure α} :
    Ends expected allowed (x >>= f) ↔ Ends (fun a => Ends expected allowed (f a)) allowed x := by
  cases x with
  | ok a => rfl
  | error f => rfl

theorem settled_bind {x : Except Failure β} {f : β → Except Failure α} :
    Settled expected (x >>= f) ↔ Settled (fun a => Settled expected (f a)) x :=
  ends_bind

theorem ends_map {x : Except Failure β} {f : β → α} :
    Ends expected allowed (x.map f) ↔ Ends (fun a => expected (f a)) allowed x := by
  cases x with
  | ok a => rfl
  | error f => rfl

theorem ofCache_blamed {announcement : String} {f : Failure} :
    OfCache (blamed announcement f) ↔ Blamable f := by
  constructor
  · rintro ⟨text, h⟩
    cases f with
    | missingKey key => exact .missingKey key
    | invalidValue text => exact .invalidValue text
    | cacheUnavailable text => exact .cacheUnavailable text
    | _ => cases h
  · rintro (_ | _ | _)
    all_goals exact ⟨_, rfl⟩

theorem settled_blamed {announcement : String} {x : Except Failure α} :
    Settled expected (x.mapError (blamed announcement)) ↔ Ends expected Blamable x := by
  cases x with
  | ok a => rfl
  | error f => exact ofCache_blamed

/-- A path is looked up as expected if it leads to an expected value, or to nothing where missing
members are allowed. -/
theorem ends_walk (missing : Prop) {expected : Json → Prop} {v : Json} {path : List String}
    (htype : ∀ text, ¬ allowed (.wrongType text))
    (hkey : ∀ key, allowed (.missingKey key) ↔ missing) :
    Ends expected allowed (v.walk path)
      ↔ (missing ∧ v.Leads path none) ∨ ∃ w, v.Leads path (some w) ∧ expected w := by
  obtain ⟨w, hw, hleads⟩ | ⟨key, hw, hleads⟩ | ⟨text, hw, hnowhere⟩ := v.walk_cases path
  all_goals rw [hw]
  · refine ⟨fun h => .inr ⟨w, hleads, h⟩, ?_⟩
    rintro (⟨-, hnone⟩ | ⟨w', hleads', h⟩)
    · exact absurd (hnone.unique hleads) nofun
    · obtain rfl := Option.some.inj (hleads'.unique hleads)
      exact h
  · refine ⟨fun h => .inl ⟨(hkey key).1 h, hleads⟩, ?_⟩
    rintro (⟨h, -⟩ | ⟨w', hleads', -⟩)
    · exact (hkey key).2 h
    · exact absurd (hleads'.unique hleads) nofun
  · refine ⟨fun h => absurd h (htype text), ?_⟩
    rintro (⟨-, h⟩ | ⟨w', h, -⟩)
    · exact absurd h (hnowhere _)
    · exact absurd h (hnowhere _)

theorem blamable_walk {expected : Json → Prop} {v : Json} {path : List String} :
    Ends expected Blamable (v.walk path)
      ↔ v.Leads path none ∨ ∃ w, v.Leads path (some w) ∧ expected w := by
  rw [ends_walk True nofun fun key => iff_true_intro (.missingKey key), true_and]

theorem settled_walk {expected : Json → Prop} {v : Json} {path : List String} :
    Settled expected (v.walk path) ↔ ∃ w, v.Leads path (some w) ∧ expected w := by
  rw [Settled, ends_walk False nofun fun key => iff_false_intro nofun, false_and, false_or]

/-! ### Answers to queries -/

/-- The document of a response spells no half of a surrogate pair that stands alone, as far as it is
read. What is read from such a document is not told here. -/
def Whole (r : Response) : Prop :=
  r.json ≠ .error .loneSurrogate

/-- A document is not nested too deeply, and what is found on the way to the rows of an answer is as
expected: it is no JSON, or one of the members on this way is missing, or there are expected rows. -/
structure LeadsToRows (r : Response) (expected : Json → Prop) : Prop where
  followed : ∀ text, r.json ≠ .error (.tooDeep text)
  rows : ∀ v, r.json = .ok v → v.Leads ["results", "bindings"] none
    ∨ ∃ rows, v.Leads ["results", "bindings"] (some rows) ∧ expected rows

/-- An answer whose rows, if there is anything in them, are an array whose first row is good. -/
def Answers (r : Response) (Good : Json → Prop) : Prop :=
  LeadsToRows r fun rows =>
    rows.truthy = true → ∃ row rest, rows = .array (row :: rest) ∧ Good row

/-- The rows of an answer to a query. -/
theorem settled_bindings {expected : Json → Prop} {r : Response} (hwhole : Whole r) :
    Settled expected (bindings r) ↔ LeadsToRows r expected := by
  have hpath (answer : Json) : (do (← answer.item "results").item "bindings" : Except Failure Json)
      = answer.walk ["results", "bindings"] := by
    simp only [Json.walk, List.foldlM_cons, List.foldlM_nil, bind_pure]
  unfold bindings
  rw [settled_blamed]
  simp only [hpath]
  rw [ends_bind]
  cases hjson : r.json with
  | error refusal =>
    cases refusal with
    | malformed text =>
      refine iff_of_true (.invalidValue text) ⟨fun _ h => ?_, fun _ h => ?_⟩
      all_goals cases hjson.symm.trans h
    | tooDeep text => exact iff_of_false nofun fun h => h.followed text hjson
    | loneSurrogate => exact absurd hjson hwhole
  | ok v =>
    refine blamable_walk.trans ⟨fun h => ⟨fun _ hdeep => ?_, fun w hw => ?_⟩,
      fun h => h.rows v hjson⟩
    · cases hjson.symm.trans hdeep
    · obtain rfl := Except.ok.inj (hjson.symm.trans hw)
      exact h

/-- The first row of an answer to a query, if there is one, is what the outcome depends on. A text
has a first item as well, but nothing can be read from it. -/
theorem settled_answer {read : Json → Except Failure α} {nothing : α} {r : Response}
    (hwhole : Whole r) (hnothing : expected nothing)
    (htext : ∀ s, ¬ Settled expected (read (.string s))) :
    Settled expected
        (bindings r >>= fun rows => if rows.truthy then rows.first >>= read else .ok nothing)
      ↔ Answers r fun row => Settled expected (read row) := by
  have hrows (rows : Json) :
      Settled expected (if rows.truthy then rows.first >>= read else .ok nothing)
        ↔ (rows.truthy = true →
          ∃ row rest, rows = .array (row :: rest) ∧ Settled expected (read row)) := by
    split
    · next htruthy =>
      rw [iff_true_intro htruthy, true_imp_iff]
      cases rows with
      | array items =>
        cases items with
        | nil => cases htruthy
        | cons row rest => exact ⟨fun h => ⟨row, rest, rfl, h⟩, fun ⟨_, _, rfl, h⟩ => h⟩
      | string s => exact iff_of_false (htext _) nofun
      | _ => exact iff_of_false nofun nofun
    · next hfalse => exact iff_of_true hnothing fun htruthy => absurd htruthy hfalse
  rw [settled_bind, settled_bindings hwhole]
  simp only [hrows]
  rfl

/-- Only the response to a form counts, if there is one that reports success. -/
theorem settled_post {b : Blazegraph} {form : Request} {read : Response → Except Failure α}
    {network : Network} (haddress : ∀ reason, network.next ≠ .invalidUrl reason) :
    Settled expected (b.post form read network).1
      ↔ ∀ r, network.next = .response r → r.isSuccess = true → Settled expected (read r) := by
  show Settled expected (b.accepted network.next >>= read) ↔ _
  cases hnext : network.next with
  | invalidUrl reason => exact absurd hnext (haddress reason)
  | failed reason => exact iff_of_true ⟨_, rfl⟩ nofun
  | response r =>
    rw [accepted]
    split
    · next hsuccess =>
      exact ⟨fun h _ heq _ => Reply.response.inj heq ▸ h, fun h => h r rfl hsuccess⟩
    · next hfailure =>
      refine iff_of_true ⟨_, rfl⟩ fun r' heq hsuccess => absurd hsuccess ?_
      rwa [← Reply.response.inj heq]

/-! ### Rows -/

/-- The cells that are read from the row of a record, in this order. -/
def recordCells (row : Json) : List String :=
  ["prompt", "intent", "query"] ++ (if (row.member? "result").isSome then ["result"] else [])
    ++ ["createdAt"]

/-- The values of the cells of a row, or nothing if a member is missing; cells behind it do not
count. -/
inductive Cells (row : Json) : List String → Option (List Json) → Prop where
  | nil : Cells row [] (some [])
  | missing {name : String} {names : List String} (h : row.Leads [name, "value"] none) :
    Cells row (name :: names) none
  | value {name : String} {names : List String} {v : Json} {values : Option (List Json)}
    (h : row.Leads [name, "value"] (some v)) (hrest : Cells row names values) :
    Cells row (name :: names) (values.map (v :: ·))

/-- Values that a record is made of, or that are told to spell no time: the last one is a text, and
if it spells a time the others are texts, or null for the result. -/
inductive RecordValues : List Json → Prop where
  | undated {values : List Json} {s reason : String}
    (h : Timestamp.readUtc s = .error (.invalidValue reason)) : RecordValues (values ++ [.string s])
  | dated {prompt intentText query s : String} {result : List Json} {time : Timestamp}
    (hresult : ∀ v ∈ result, v = .null ∨ ∃ t, v = .string t)
    (h : Timestamp.readUtc s = .ok time) :
    RecordValues ([.string prompt, .string intentText, .string query] ++ result ++ [.string s])

/-- A row of which a record is made, or which is told to be malformed. -/
def RecordRow (row : Json) : Prop :=
  ∃ values, Cells row (recordCells row) values ∧ ∀ vs ∈ values, RecordValues vs

/-- A row that gives a number. -/
def TotalRow (row : Json) : Prop :=
  ∃ v n, row.Leads ["total", "value"] (some v) ∧ v.toWhole = .ok n

/-- A record whose texts are texts, if there is one. -/
def Textual (found : Option (Record Json)) : Prop :=
  ∃ written : Option (Record String), found = written.map (·.map .string)

theorem cell_eq_walk (row : Json) (name : String) : cell row name = row.walk [name, "value"] := by
  simp only [cell, Json.walk, List.foldlM_cons, List.foldlM_nil, bind_pure]

/-- The first cell, and what is read after it. -/
theorem blamable_cell {row : Json} {name : String} {f : Json → Except Failure α} :
    Ends expected Blamable (cell row name >>= f) ↔ row.Leads [name, "value"] none
      ∨ ∃ v, row.Leads [name, "value"] (some v) ∧ Ends expected Blamable (f v) := by
  rw [ends_bind, cell_eq_walk, blamable_walk]

/-- The first cell, and the values of those after it. -/
theorem exists_cells_cons {row : Json} {name : String} {names : List String}
    {Good : List Json → Prop} :
    (∃ values, Cells row (name :: names) values ∧ ∀ vs ∈ values, Good vs)
      ↔ row.Leads [name, "value"] none ∨ ∃ v, row.Leads [name, "value"] (some v)
        ∧ ∃ values, Cells row names values ∧ ∀ vs ∈ values, Good (v :: vs) := by
  constructor
  · rintro ⟨_, h | h | ⟨h, hrest⟩, hgood⟩
    · exact .inl h
    · exact .inr ⟨_, h, _, hrest, fun vs hvs => hgood _ (Option.mem_map_of_mem _ hvs)⟩
  · rintro (h | ⟨v, h, values, hrest, hgood⟩)
    · exact ⟨none, .missing h, nofun⟩
    · refine ⟨_, .value h hrest, fun vs hvs => ?_⟩
      obtain ⟨vs', hvs', rfl⟩ := Option.map_eq_some_iff.1 hvs
      exact hgood vs' hvs'

theorem exists_cells_nil {row : Json} {Good : List Json → Prop} :
    (∃ values, Cells row [] values ∧ ∀ vs ∈ values, Good vs) ↔ Good [] := by
  constructor
  · rintro ⟨_, ⟨⟩, hgood⟩
    exact hgood _ rfl
  · intro h
    exact ⟨_, .nil, fun vs hvs => Option.some.inj hvs ▸ h⟩

theorem recordValues_concat {values : List Json} {created : Json} :
    RecordValues (values ++ [created]) ↔ ∃ s, created = .string s
      ∧ ((∃ reason, Timestamp.readUtc s = .error (.invalidValue reason))
        ∨ (∃ time, Timestamp.readUtc s = .ok time) ∧ ∃ prompt intentText query result,
          values = [.string prompt, .string intentText, .string query] ++ result
            ∧ ∀ v ∈ result, v = .null ∨ ∃ t, v = .string t) := by
  constructor
  · intro h
    generalize hall : values ++ [created] = all at h
    cases h with
    | undated h =>
      obtain ⟨-, hlast⟩ := List.append_inj' hall rfl
      exact ⟨_, (List.cons.inj hlast).1, .inl ⟨_, h⟩⟩
    | dated hresult h =>
      obtain ⟨hfirst, hlast⟩ := List.append_inj' hall rfl
      exact ⟨_, (List.cons.inj hlast).1, .inr ⟨⟨_, h⟩, _, _, _, _, hfirst, hresult⟩⟩
  · rintro ⟨s, rfl, ⟨reason, h⟩ | ⟨⟨time, h⟩, prompt, intentText, query, result, rfl, hresult⟩⟩
    · exact .undated h
    · exact .dated hresult h

/-- A record whose values are texts. -/
theorem textual_some_iff {key : String} {prompt intentText query : Json} {result : Option Json}
    {time : Timestamp} :
    Textual (some ⟨key, prompt, intentText, query, result, time⟩)
      ↔ (∃ s, prompt = .string s) ∧ (∃ s, intentText = .string s) ∧ (∃ s, query = .string s)
        ∧ ∀ v ∈ result, ∃ s, v = .string s := by
  constructor
  · rintro ⟨_ | written, h⟩
    · cases h
    · cases h
      refine ⟨⟨_, rfl⟩, ⟨_, rfl⟩, ⟨_, rfl⟩, fun v hv => ?_⟩
      obtain ⟨s, -, rfl⟩ := Option.map_eq_some_iff.1 hv
      exact ⟨s, rfl⟩
  · rintro ⟨⟨prompt, rfl⟩, ⟨intentText, rfl⟩, ⟨query, rfl⟩, hresult⟩
    cases result with
    | none => exact ⟨some ⟨key, prompt, intentText, query, none, time⟩, rfl⟩
    | some v =>
      obtain ⟨s, rfl⟩ := hresult v rfl
      exact ⟨some ⟨key, prompt, intentText, query, some s, time⟩, rfl⟩

/-- A result of null counts as none. -/
theorem textual_result {result : Option Json} :
    (∀ v ∈ result.bind Json.present?, ∃ s, v = .string s)
      ↔ ∀ v ∈ result.toList, v = .null ∨ ∃ s, v = .string s := by
  cases result with
  | none => exact iff_of_true nofun nofun
  | some v => cases v <;> simp [Json.present?]

/-- The values of the cells of a row are those of a record, the result if there is one. -/
theorem blamable_values {key : String} {prompt intentText query created : Json}
    {result : Option Json} :
    Ends (fun r => Textual (some r)) Blamable (do
        let createdAt ← timeOf created
        return ⟨key, prompt, intentText, query, result.bind Json.present?, createdAt⟩)
      ↔ RecordValues ([prompt, intentText, query] ++ result.toList ++ [created]) := by
  rw [recordValues_concat]
  cases created with
  | string s =>
    rw [timeOf]
    cases hread : Timestamp.readUtc s with
    | error f =>
      constructor
      · intro h
        obtain ⟨text, rfl⟩ | rfl := Timestamp.of_readUtc_error hread
        · exact ⟨s, rfl, .inl ⟨text, hread⟩⟩
        · cases h
      · rintro ⟨_, ⟨⟩, ⟨reason, h⟩ | ⟨⟨time, h⟩, -⟩⟩
        · rw [Except.error.inj (hread.symm.trans h)]
          exact .invalidValue reason
        · cases hread.symm.trans h
    | ok time =>
      refine textual_some_iff.trans ?_
      rw [textual_result]
      constructor
      · rintro ⟨⟨prompt, rfl⟩, ⟨intentText, rfl⟩, ⟨query, rfl⟩, hresult⟩
        exact ⟨s, rfl, .inr ⟨⟨time, hread⟩, prompt, intentText, query, _, rfl, hresult⟩⟩
      · rintro ⟨_, ⟨⟩, ⟨reason, h⟩ | ⟨-, prompt, intentText, query, values, hvalues, hresult⟩⟩
        · cases hread.symm.trans h
        · cases hvalues
          exact ⟨⟨_, rfl⟩, ⟨_, rfl⟩, ⟨_, rfl⟩, hresult⟩
  | _ => exact iff_of_false nofun nofun

/-- **The row of a record.** The cells are read in order, and what is missing first is told. -/
theorem settled_recordOfRow {key : String} {row : Json} :
    Settled Textual ((recordOfRow key row).map some) ↔ RecordRow row := by
  rw [Settled, ends_map, recordOfRow]
  refine settled_blamed.trans ?_
  unfold RecordRow recordCells
  cases (row.member? "result").isSome with
  | false =>
    have hvalues (prompt intentText query created : Json) :=
      @blamable_values key prompt intentText query created none
    simp only [Option.bind_none, Option.toList_none, List.cons_append, List.nil_append] at hvalues
    simp only [List.cons_append, List.nil_append, blamable_cell, exists_cells_cons,
      exists_cells_nil, if_neg Bool.false_ne_true, pure_bind, Json.present?, hvalues]
  | true =>
    have hvalues (prompt intentText query v created : Json) :=
      @blamable_values key prompt intentText query created (some v)
    simp only [Option.bind_some, Option.toList_some, List.cons_append, List.nil_append] at hvalues
    simp only [List.cons_append, List.nil_append, blamable_cell, exists_cells_cons,
      exists_cells_nil, if_pos, hvalues]

/-- What is no whole number is never told as a failure of the cache. -/
theorem settled_toWhole {v : Json} :
    Settled (fun _ => True) v.toWhole ↔ ∃ n, v.toWhole = .ok n := by
  cases hwhole : v.toWhole with
  | ok n => exact iff_of_true trivial ⟨n, rfl⟩
  | error f =>
    refine iff_of_false ?_ nofun
    rintro ⟨text, rfl⟩
    unfold Json.toWhole at hwhole
    split at hwhole
    case h_3 s =>
      cases hread : readInt s with
      | ok n =>
        rw [hread] at hwhole
        cases hwhole
      | error e =>
        rw [hread] at hwhole
        cases hwhole
    all_goals cases hwhole

/-- **The row of a number.** Nothing that goes wrong in it is told as a failure of the cache. -/
theorem settled_totalRow {row : Json} :
    Settled (fun _ => True) (cell row "total" >>= Json.toWhole) ↔ TotalRow row := by
  rw [settled_bind, cell_eq_walk, settled_walk]
  simp only [settled_toWhole, ← exists_and_left]
  rfl

theorem not_recordRow_string (s : String) : ¬ RecordRow (.string s) := by
  rintro ⟨values, hcells, -⟩
  unfold recordCells at hcells
  cases hcells with
  | missing h => cases h
  | value h => cases h

theorem not_totalRow_string (s : String) : ¬ TotalRow (.string s) := by
  rintro ⟨v, n, h, -⟩
  cases h

/-! ### Operations -/

theorem recordOf_eq (key : String) :
    recordOf key = fun rows => if rows.truthy then
      rows.first >>= fun row => (recordOfRow key row).map some else .ok none := by
  funext rows
  unfold recordOf
  cases rows.first with
  | error f => rfl
  | ok row => cases recordOfRow key row <;> rfl

/-- A store is healthy if it reports success. -/
theorem isHealthy_eq {b : Blazegraph} {network : Network}
    (haddress : ∀ reason, network.next ≠ .invalidUrl reason) :
    ∃ healthy, (b.isHealthy network).1 = .ok healthy
      ∧ (healthy = true ↔ ∃ r, network.next = .response r ∧ r.isSuccess = true) := by
  have hpost : b.post (b.queryForm Statement.probe) (fun _ => .ok true) network
      = (b.accepted network.next >>= fun _ => .ok true,
        (network.exchange (b.queryForm Statement.probe)).2) := rfl
  unfold isHealthy
  rw [hpost]
  cases hnext : network.next with
  | invalidUrl reason => exact absurd hnext (haddress reason)
  | failed reason => exact ⟨false, rfl, iff_of_false Bool.false_ne_true nofun⟩
  | response r =>
    cases hsuccess : r.isSuccess with
    | true =>
      rw [accepted, if_pos hsuccess]
      exact ⟨true, rfl, iff_of_true rfl ⟨r, rfl, hsuccess⟩⟩
    | false =>
      rw [accepted, if_neg (by rw [hsuccess]; decide)]
      refine ⟨false, rfl, iff_of_false Bool.false_ne_true ?_⟩
      rintro ⟨r', heq, htrue⟩
      rw [← Reply.response.inj heq, hsuccess] at htrue
      cases htrue

/-- Looking up a record and counting depend on the shape of the answer. -/
theorem settled_query {b : Blazegraph} {form : Request} {read : Json → Except Failure α}
    {nothing : α} {Good : Json → Prop} {network : Network}
    (haddress : ∀ reason, network.next ≠ .invalidUrl reason)
    (hwhole : ∀ r, network.next = .response r → Whole r) (hnothing : expected nothing)
    (hread : ∀ row, Settled expected (read row) ↔ Good row) (htext : ∀ s, ¬ Good (.string s)) :
    Settled expected (b.post form (fun r => bindings r >>= fun rows =>
        if rows.truthy then rows.first >>= read else .ok nothing) network).1
      ↔ ∀ r, network.next = .response r → r.isSuccess = true → Answers r Good := by
  refine (settled_post haddress).trans (forall_congr' fun r => forall_congr' fun hr => ?_)
  have hanswer := settled_answer (hwhole r hr) hnothing fun s h => htext s ((hread _).1 h)
  simp only [hread] at hanswer
  exact imp_congr_right fun _ => hanswer

end ConceptQuery.Cache.Blazegraph
