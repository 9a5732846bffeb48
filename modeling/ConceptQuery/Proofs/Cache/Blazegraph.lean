import ConceptQuery.Proofs.Cache.Results

/-!
# A triple store keeps the records

Over an endpoint that carries out what is sent to it, the backend is a store of records: whatever
the texts of the records are, a record is read back as it was saved last, and nothing else in the
store changes.

* `Blazegraph.perform`, `Blazegraph.turns`, `Blazegraph.finish` — runs of operations;
* `Blazegraph.Carries` — a request that carries an update;
* `Turn.Meets` — what a turn must come to, given the operations before it;
* `Blazegraph.ReadBack` — a record that was read back;
* `Steps`, `steps_save`, `steps_remove`, `steps_fetch`, `steps_countAll`, `steps` — one operation;
* `Steps.of_conversation`, `meets_of_conversation` — operations that follow others;
* `keeps_records` — the runs.
-/

namespace ConceptQuery.Cache.Blazegraph

open Http Sparql Statement

/-! ### Runs -/

/-- What an operation is answered with. -/
inductive Answer where
  | finished
  | found (record : Option (Record Json))
  | total (n : Int)

/-- Carries out an operation. -/
def perform (b : Blazegraph) (o : Operation) (n : Network) : Except Failure Answer × Network :=
  match o with
  | .save r => let (a, n) := b.save r n; (a.map fun _ => .finished, n)
  | .remove key => let (a, n) := b.remove key n; (a.map fun _ => .finished, n)
  | .fetch key => let (a, n) := b.fetch key n; (a.map .found, n)
  | .countAll => let (a, n) := b.countAll n; (a.map .total, n)

/-- One operation of a run, with its answer and the requests that were sent for it. -/
structure Turn where
  operation : Operation
  answer : Except Failure Answer
  sent : List Request

/-- The turn of an operation. -/
def turn (b : Blazegraph) (o : Operation) (n : Network) : Turn :=
  let (answer, after) := b.perform o n
  ⟨o, answer, after.sent.drop n.sent.length⟩

/-- The turns of operations, one after the other. -/
def turns (b : Blazegraph) : List Operation → Network → List Turn
  | [], _ => []
  | o :: rest, n => b.turn o n :: turns b rest (b.perform o n).2

/-- The network after operations. -/
def finish (b : Blazegraph) : List Operation → Network → Network
  | [], n => n
  | o :: rest, n => finish b rest (b.perform o n).2

/-! ### What is expected of a turn -/

/-- A request to the endpoint whose form carries an update with the given operations. -/
def Carries (b : Blazegraph) (request : Request) (os : List Sparql.Operation) : Prop :=
  request.url = b.endpoint
    ∧ ∃ text, formField? request = some ("update", text) ∧ readUpdate? text = some os

/-- A record that was read back: the texts are the same, and so is the moment, told in universal
time. -/
structure ReadBack (r : Record String) (r' : Record Json) : Prop where
  key : r'.key = r.key
  prompt : r'.prompt = .string r.prompt
  intentText : r'.intentText = .string r.intentText
  query : r'.query = .string r.query
  result : r'.result = r.result.map .string
  instant : r'.createdAt.instant = r.createdAt.instant
  offset : r'.createdAt.offset = 0

/-- What a turn must come to, given the operations before it, the latest first, and the graph that
the endpoint held at first.

A record is saved by one request, which deletes everything about its key and then inserts the
triples of the record, five, or six with a result; if its time has no form in universal time nothing
is sent. A record is
removed by one request, which deletes everything about its key. What is found is the record saved
last. The total is the number of keys that have a record and of the entries that were there at
first, as long as its digits are not too many to be read. -/
def Turn.Meets (b : Blazegraph) (g₀ : Rdf.Graph) (past : List Operation) : Turn → Prop
  | ⟨.save r, answer, sent⟩ =>
    match r.createdAt.toUtc with
    | .ok time => answer = .ok .finished ∧ ∃ request, sent = [request]
      ∧ b.Carries request [.deleteWhere [everything r.key], .insertData (triples r time)]
      ∧ (triples r time).length = if r.result.isSome then 6 else 5
    | .error f => answer = .error f ∧ sent = []
  | ⟨.remove key, answer, sent⟩ => answer = .ok .finished ∧ ∃ request, sent = [request]
    ∧ b.Carries request [.deleteWhere [everything key]]
  | ⟨.fetch key, answer, _⟩ =>
    match lastSaved key past with
    | none => answer = .ok (.found none)
    | some (r, _) => ∃ r', answer = .ok (.found (some r')) ∧ ReadBack r r'
  | ⟨.countAll, answer, _⟩ => ∃ keys : List String, keys.Nodup
    ∧ (∀ key, key ∈ keys ↔ lastSaved key past ≠ none)
    ∧ ((Nat.toDigits 10 (keys.length + entryCount g₀)).length ≤ digitLimit →
      answer = .ok (.total (keys.length + entryCount g₀)))

/-! ### One operation -/

variable {b : Blazegraph} {g₀ g : Rdf.Graph} {past : List Operation} {n : Network} {o : Operation}
  {r : Record String} {p : String}

/-- An operation does what is expected of it: it sends one request, and whatever the endpoint
replies its turn is as it must be and the endpoint holds what it must hold; or it sends none. -/
inductive Steps (b : Blazegraph) (g₀ g : Rdf.Graph) (past : List Operation) (o : Operation)
    (n : Network) : Prop where
  | exchange (request : Request) (hafter : (b.perform o n).2 = (n.exchange request).2)
    (hmeets : ∀ g', Serves b.endpoint g request n.next g' →
      (b.turn o n).Meets b g₀ past ∧ Holds g₀ (o :: past) g')
  | silent (hafter : (b.perform o n).2 = n) (hmeets : (b.turn o n).Meets b g₀ past)
    (hholds : Holds g₀ (o :: past) g)

@[simp] theorem turn_operation (b : Blazegraph) (o : Operation) (n : Network) :
    (b.turn o n).operation = o := rfl

/-- The turn of an operation that sends one request. -/
theorem turn_of_exchange {request : Request} {answer : Except Failure Answer}
    (h : b.perform o n = (answer, (n.exchange request).2)) :
    b.turn o n = ⟨o, answer, [request]⟩ := by
  have hsent : (n.exchange request).2.sent.drop n.sent.length = [request] := by
    rw [Network.exchange_sent, List.drop_left]
  unfold turn
  rw [h]
  dsimp only
  rw [hsent]

/-- The turn of an operation that sends nothing. -/
theorem turn_of_silence {answer : Except Failure Answer} (h : b.perform o n = (answer, n)) :
    b.turn o n = ⟨o, answer, []⟩ := by
  unfold turn
  rw [h]
  dsimp only
  rw [List.drop_length]

theorem accepted_of_success {response : Response} (h : response.isSuccess = true) :
    b.accepted (.response response) = .ok response :=
  if_pos h

/-- The request of an update. -/
theorem carries_updateForm {text : String} {os : List Sparql.Operation}
    (h : readUpdate? text = some os) : b.Carries (b.updateForm text) os :=
  ⟨rfl, text, formField?_formBody isFieldName_update _ _ text, h⟩

theorem perform_save {text : String} (htext : replace r = .ok text) : b.perform (.save r) n
    = ((b.accepted n.next >>= fun _ => .ok ()).map fun _ => .finished,
      (n.exchange (b.updateForm text)).2) := by
  have hsave : b.save r n
      = (b.accepted n.next >>= fun _ => .ok (), (n.exchange (b.updateForm text)).2) := by
    unfold save
    rw [htext]
    rfl
  unfold perform
  dsimp only
  rw [hsave]

theorem perform_save_of_error {f : Failure} (htime : r.createdAt.toUtc = .error f) :
    b.perform (.save r) n = (.error f, n) := by
  have hreplace : replace r = .error f := by
    unfold replace
    rw [htime]
    rfl
  have hsave : b.save r n = (.error f, n) := by
    unfold save
    rw [hreplace]
  unfold perform
  dsimp only
  rw [hsave]
  rfl

theorem perform_remove (b : Blazegraph) (key : String) (n : Network) : b.perform (.remove key) n
    = ((b.accepted n.next >>= fun _ => .ok ()).map fun _ => .finished,
      (n.exchange (b.updateForm (delete key))).2) := rfl

theorem perform_fetch (b : Blazegraph) (key : String) (n : Network) : b.perform (.fetch key) n
    = ((b.accepted n.next >>= fun r => bindings r >>= recordOf key).map .found,
      (n.exchange (b.queryForm (select key))).2) := rfl

theorem perform_countAll (b : Blazegraph) (n : Network) : b.perform .countAll n
    = ((b.accepted n.next >>= fun r => bindings r >>= countOf).map .total,
      (n.exchange (b.queryForm count)).2) := rfl

theorem steps_save (hkey : r.key = promptKey p) (h : Holds g₀ past g) (hforeign : Foreign g₀) :
    Steps b g₀ g past (.save r) n := by
  cases htime : r.createdAt.toUtc with
  | error f =>
    have hperform := perform_save_of_error htime (b := b) (n := n)
    apply Steps.silent (by rw [hperform])
    · rw [turn_of_silence hperform]
      unfold Turn.Meets
      dsimp only
      rw [htime]
      exact ⟨rfl, rfl⟩
    · exact h.keep fun _ => lastSaved_save_of_error htime
  | ok time =>
    obtain ⟨text, htext, hread⟩ := readUpdate?_replace hkey htime
    have hperform := perform_save htext (b := b) (n := n)
    apply Steps.exchange (b.updateForm text) (by rw [hperform])
    intro g' hserves
    obtain ⟨rfl, response, hreply, hsuccess⟩ := (serves_update_iff hread).1 hserves
    refine ⟨?_, h.save hforeign hkey htime⟩
    rw [turn_of_exchange hperform, hreply, accepted_of_success hsuccess]
    unfold Turn.Meets
    dsimp only
    rw [htime]
    exact ⟨rfl, b.updateForm text, rfl, carries_updateForm hread, length_triples r time⟩

theorem steps_remove (h : Holds g₀ past g) (hforeign : Foreign g₀) :
    Steps b g₀ g past (.remove (promptKey p)) n := by
  have hread := readUpdate?_delete p
  have hperform := b.perform_remove (promptKey p) n
  apply Steps.exchange (b.updateForm (delete (promptKey p))) (by rw [hperform])
  intro g' hserves
  obtain ⟨rfl, response, hreply, hsuccess⟩ := (serves_update_iff hread).1 hserves
  refine ⟨?_, h.remove hforeign p⟩
  rw [turn_of_exchange hperform, hreply, accepted_of_success hsuccess]
  exact ⟨rfl, b.updateForm (delete (promptKey p)), rfl, carries_updateForm hread⟩

/-- What the endpoint replies to a query, as the backend reads it. -/
theorem bindings_of_serves {text : String} {q : Query} {g' : Rdf.Graph}
    (hread : readQuery? text = some q) (h : Serves b.endpoint g (b.queryForm text) n.next g') :
    g' = g ∧ ∃ response rows μs, b.accepted n.next = .ok response
      ∧ bindings response = .ok (.array rows) ∧ μs.Perm (q.rows g)
      ∧ List.Forall₂ (RowOf q.selection.names) rows (q.limited μs) := by
  obtain ⟨hg, response, hreply, hsuccess, document, members, μs, hbody, htext, hperm, hdescribes⟩ :=
    (serves_query_iff hread).1 h
  obtain ⟨rows, hrows, hall⟩ := bindings_of_describes hbody htext hdescribes
  refine ⟨hg, response, rows, μs, ?_, hrows, hperm, hall⟩
  rw [hreply, accepted_of_success hsuccess]

theorem steps_fetch (h : Holds g₀ past g) (hforeign : Foreign g₀) :
    Steps b g₀ g past (.fetch (promptKey p)) n := by
  have hread := readQuery?_select p
  have hperform := b.perform_fetch (promptKey p) n
  apply Steps.exchange (b.queryForm (select (promptKey p))) (by rw [hperform])
  intro g' hserves
  obtain ⟨rfl, response, rows, μs, haccepted, hbindings, hperm, hall⟩ :=
    bindings_of_serves hread hserves
  refine ⟨?_, h.keep fun _ => rfl⟩
  rw [turn_of_exchange hperform, haccepted]
  show Turn.Meets b g₀ past ⟨_, (bindings response >>= recordOf (promptKey p)).map .found, _⟩
  rw [hbindings]
  unfold Turn.Meets
  dsimp only
  cases hlast : lastSaved (promptKey p) past with
  | none =>
    rw [h.rows_of_none hforeign hlast, List.perm_nil] at hperm
    subst hperm
    cases hall
    rfl
  | some saved =>
    obtain ⟨r, time⟩ := saved
    obtain ⟨hkey, htime, -⟩ := key_of_lastSaved hlast
    rw [h.rows_of_some hforeign hlast, List.perm_singleton] at hperm
    subst hperm
    obtain ⟨row, rest, hrow, hrest, rfl⟩ := List.forall₂_cons_right_iff.1 hall
    obtain rfl := List.forall₂_nil_right_iff.1 hrest
    obtain ⟨hoffset, hinstant⟩ := Timestamp.of_toUtc htime
    refine ⟨restored r time, ?_, ⟨rfl, rfl, rfl, rfl, rfl, hinstant, hoffset⟩⟩
    show (recordOf (promptKey p) (.array [row])).map Answer.found = _
    rw [recordOf_singleton hrow htime hkey]
    rfl

theorem steps_countAll (h : Holds g₀ past g) (hforeign : Foreign g₀)
    (hkeyed : ∀ o ∈ past, o.Keyed) : Steps b g₀ g past .countAll n := by
  have hperform := b.perform_countAll n
  apply Steps.exchange (b.queryForm count) (by rw [hperform])
  intro g' hserves
  obtain ⟨rfl, response, rows, μs, haccepted, hbindings, hperm, hall⟩ :=
    bindings_of_serves readQuery?_count hserves
  refine ⟨?_, h.keep fun _ => rfl⟩
  rw [turn_of_exchange hperform, haccepted]
  show Turn.Meets b g₀ past ⟨_, (bindings response >>= countOf).map .total, _⟩
  rw [hbindings]
  obtain ⟨keys, hnodup, hkeys⟩ := exists_keys past
  have hcount := h.entryCount_eq hforeign hkeyed hnodup hkeys
  refine ⟨keys, hnodup, hkeys, fun hlimit => ?_⟩
  rw [rows_totalQuery, List.perm_singleton] at hperm
  subst hperm
  obtain ⟨row, rest, hrow, hrest, rfl⟩ := List.forall₂_cons_right_iff.1 hall
  obtain rfl := List.forall₂_nil_right_iff.1 hrest
  rw [hcount] at hrow
  show (countOf (.array [row])).map Answer.total = _
  rw [countOf_singleton hrow hlimit]
  rfl

/-- **One operation** does what is expected of it. -/
theorem steps (ho : o.Keyed) (hkeyed : ∀ o ∈ past, o.Keyed) (h : Holds g₀ past g)
    (hforeign : Foreign g₀) (n : Network) : Steps b g₀ g past o n := by
  cases o with
  | save r =>
    obtain ⟨p, hp⟩ := ho
    exact steps_save hp h hforeign
  | remove key =>
    obtain ⟨p, rfl⟩ := ho
    exact steps_remove h hforeign
  | fetch key =>
    obtain ⟨p, rfl⟩ := ho
    exact steps_fetch h hforeign
  | countAll => exact steps_countAll h hforeign hkeyed

/-! ### Runs of operations -/

/-- An operation sends one request or none. -/
theorem perform_sent (b : Blazegraph) (o : Operation) (n : Network) :
    ∃ more, (b.perform o n).2.sent = n.sent ++ more := by
  cases o with
  | save r =>
    show ∃ more, (b.save r n).2.sent = n.sent ++ more
    unfold save
    split
    · exact ⟨[], (List.append_nil _).symm⟩
    · exact ⟨_, n.exchange_sent _⟩
  | remove key => exact ⟨_, n.exchange_sent _⟩
  | fetch key => exact ⟨_, n.exchange_sent _⟩
  | countAll => exact ⟨_, n.exchange_sent _⟩

theorem finish_sent (b : Blazegraph) (operations : List Operation) (n : Network) :
    ∃ more, (b.finish operations n).sent = n.sent ++ more := by
  induction operations generalizing n with
  | nil => exact ⟨[], (List.append_nil _).symm⟩
  | cons o rest ih =>
    obtain ⟨first, hfirst⟩ := b.perform_sent o n
    obtain ⟨more, hmore⟩ := ih (b.perform o n).2
    refine ⟨first ++ more, ?_⟩
    rw [finish, hmore, hfirst, List.append_assoc]

/-- The first operation of a run takes the first exchange of the conversation, or none. -/
theorem Steps.of_conversation {g' : Rdf.Graph} {n' : Network} (h : Steps b g₀ g past o n)
    (hsent : ∃ more, n'.sent = (b.perform o n).2.sent ++ more)
    (hserved : Conversation b.endpoint g (n.exchanges n') g') :
    (b.turn o n).Meets b g₀ past ∧ ∃ g₁, Holds g₀ (o :: past) g₁
      ∧ Conversation b.endpoint g₁ ((b.perform o n).2.exchanges n') g' := by
  cases h with
  | exchange request hafter hmeets =>
    obtain ⟨more, hmore⟩ := hsent
    rw [hafter] at hmore ⊢
    rw [Network.exchanges_exchange hmore] at hserved
    cases hserved with
    | @cons _ g₁ _ _ _ _ hserves hrest =>
      obtain ⟨hturn, hholds⟩ := hmeets g₁ hserves
      exact ⟨hturn, g₁, hholds, hrest⟩
  | silent hafter hmeets hholds =>
    rw [hafter]
    exact ⟨hmeets, g, hholds, hserved⟩

/-- A conversation is put together operation by operation. -/
theorem conversation_of_exchange {g₁ g' : Rdf.Graph} {request : Request} {rest : List Operation}
    {answer : Except Failure Answer} (hperform : b.perform o n = (answer, (n.exchange request).2))
    (hserves : Serves b.endpoint g request n.next g₁)
    (hrest : Conversation b.endpoint g₁
      ((n.exchange request).2.exchanges (b.finish rest (n.exchange request).2)) g') :
    Conversation b.endpoint g (n.exchanges (b.finish (o :: rest) n)) g' := by
  obtain ⟨more, hmore⟩ := b.finish_sent rest (n.exchange request).2
  rw [finish, hperform, Network.exchanges_exchange hmore]
  exact .cons hserves hrest

/-- Operations that follow others: the turns are as they must be, and the graph holds what it must
hold. -/
theorem meets_of_conversation {g' : Rdf.Graph} (hforeign : Foreign g₀) {operations : List Operation}
    (hkeyed : ∀ o ∈ operations, o.Keyed) (hpast : ∀ o ∈ past, o.Keyed) (h : Holds g₀ past g)
    (hserved : Conversation b.endpoint g (n.exchanges (b.finish operations n)) g') :
    (∀ earlier t later, b.turns operations n = earlier ++ t :: later →
      t.Meets b g₀ ((earlier.map Turn.operation).reverse ++ past))
      ∧ Holds g₀ (operations.reverse ++ past) g' := by
  induction operations generalizing past g n with
  | nil =>
    rw [finish, Network.exchanges_of_sent_eq rfl] at hserved
    cases hserved
    refine ⟨fun earlier t later hturns => ?_, h⟩
    cases earlier <;> cases hturns
  | cons o rest ih =>
    obtain ⟨ho, hrest⟩ := List.forall_mem_cons.1 hkeyed
    obtain ⟨hturn, g₁, hholds, hafter⟩ := (steps ho hpast h hforeign n).of_conversation
      (b.finish_sent rest (b.perform o n).2) hserved
    have hpast' : ∀ o' ∈ o :: past, o'.Keyed := List.forall_mem_cons.2 ⟨ho, hpast⟩
    obtain ⟨hturns, hend⟩ := ih hrest hpast' hholds hafter
    constructor
    · intro earlier t later hsplit
      cases earlier with
      | nil =>
        obtain ⟨rfl, -⟩ := List.cons.inj hsplit
        exact hturn
      | cons first earlier =>
        obtain ⟨rfl, hlater⟩ := List.cons.inj hsplit
        have ht := hturns earlier t later hlater
        rw [List.map_cons, List.reverse_cons, List.append_assoc]
        exact ht
    · rw [List.reverse_cons, List.append_assoc]
      exact hend

/-- **A triple store keeps the records.** Over an endpoint that carries out what is sent to it and
held nothing about keys of prompts at first, every operation of a run comes to what it must come to,
given the operations before it. In the end the endpoint holds what it held at first and the records
that were saved last. -/
theorem keeps_records {g' : Rdf.Graph} {operations : List Operation}
    (hkeyed : ∀ o ∈ operations, o.Keyed) (hforeign : Foreign g₀)
    (hserved : Conversation b.endpoint g₀ (n.exchanges (b.finish operations n)) g') :
    (∀ earlier t later, b.turns operations n = earlier ++ t :: later →
      t.Meets b g₀ (earlier.map Turn.operation).reverse) ∧ Holds g₀ operations.reverse g' := by
  have hall := meets_of_conversation hforeign hkeyed (List.forall_mem_nil _) (holds_nil g₀) hserved
  simpa only [List.append_nil] using hall

/-- A record whose texts are full of the marks of the languages they pass through, beside an entry
that was there before. -/
theorem keeps_records_awkward :
    let b : Blazegraph := ⟨"http://localhost:9999/sparql"⟩
    let entry : Rdf.Triple := ⟨.labelled "old", typePredicate, cacheTerm "CachedEntry"⟩
    let g₀ : Rdf.Graph := ⟨[entry], List.nodup_singleton entry⟩
    let key := promptKey "all of \"them\"> ?"
    let made : Timestamp := (Timestamp.ofClock? 7200000000 3600000000).get (by decide)
    let time : Timestamp := (Timestamp.ofClock? 3600000000 0).get (by decide)
    let r : Record String := ⟨key, "all of \"them\"> ?", "\x7b \"a\": \"\\u0022\" \x7d",
      "\x7b a \x7d\n# \" . \x7d ; DELETE WHERE \x7b ?s ?p ?o \x7d", some "\\\"\\ é", made⟩
    let operations : List Operation :=
      [.save r, .fetch key, .countAll, .remove key, .fetch key]
    let saved := Sparql.update [.deleteWhere [everything key], .insertData (triples r time)] g₀
    let removed := Sparql.update [.deleteWhere [everything key]] saved
    let n : Network := ⟨[default, .response (report (recordQuery key) saved),
      .response (report totalQuery saved), default, .response (report (recordQuery key) removed)],
      default, []⟩
    (∀ o ∈ operations, o.Keyed) ∧ Foreign g₀
      ∧ Conversation b.endpoint g₀ (n.exchanges (b.finish operations n)) removed
      ∧ (∃ t ∈ b.turns operations n, ∃ r', t.answer = .ok (.found (some r')) ∧ ReadBack r r')
      ∧ ∀ t, t ∈ removed.triples ↔ t = entry := by
  intro b entry g₀ key made time r operations saved removed n
  have htime : r.createdAt.toUtc = .ok time := rfl
  have hkeyed : ∀ o ∈ operations, o.Keyed := by
    simp only [operations, List.forall_mem_cons]
    exact ⟨⟨_, rfl⟩, ⟨_, rfl⟩, trivial, ⟨_, rfl⟩, ⟨_, rfl⟩, List.forall_mem_nil _⟩
  have hforeign : Foreign g₀ := by
    intro t ht p hsubject
    obtain rfl := List.mem_singleton.1 ht
    cases hsubject
  have hserved : Conversation b.endpoint g₀ (n.exchanges (b.finish operations n)) removed := by
    obtain ⟨text, htext, hsave⟩ := readUpdate?_replace (r := r) rfl htime
    have hselect : readQuery? (select key) = some (recordQuery key) := readQuery?_select _
    have hdelete : readUpdate? (delete key) = some [.deleteWhere [everything key]] :=
      readUpdate?_delete _
    refine conversation_of_exchange (perform_save htext)
      ((serves_update_iff hsave).2 ⟨rfl, ⟨200, [], [], {}⟩, rfl, rfl⟩) ?_
    refine conversation_of_exchange (b.perform_fetch key _)
      ((serves_query_iff hselect).2 ⟨rfl, _, rfl, reports_report _ _⟩) ?_
    refine conversation_of_exchange (b.perform_countAll _)
      ((serves_query_iff readQuery?_count).2 ⟨rfl, _, rfl, reports_report _ _⟩) ?_
    refine conversation_of_exchange (b.perform_remove key _)
      ((serves_update_iff hdelete).2 ⟨rfl, ⟨200, [], [], {}⟩, rfl, rfl⟩) ?_
    refine conversation_of_exchange (b.perform_fetch key _)
      ((serves_query_iff hselect).2 ⟨rfl, _, rfl, reports_report _ _⟩) ?_
    exact .nil
  obtain ⟨hturns, hend⟩ := keeps_records hkeyed hforeign hserved
  refine ⟨hkeyed, hforeign, hserved, ?_, fun t => ?_⟩
  · have hlast : lastSaved key [.save r] = some (r, time) := by
      rw [lastSaved_save htime, if_pos rfl]
    have hmem : b.turn (.fetch key) (b.perform (.save r) n).2 ∈ b.turns operations n :=
      .tail _ (.head _)
    have hfetch := hturns [b.turn (.save r) n] (b.turn (.fetch key) (b.perform (.save r) n).2) _ rfl
    rw [turn_of_exchange (b.perform_fetch key _)] at hfetch hmem
    unfold Turn.Meets at hfetch
    dsimp only at hfetch
    rw [List.map_singleton, List.reverse_singleton, turn_operation, hlast] at hfetch
    obtain ⟨r', hanswer, hread⟩ := hfetch
    refine ⟨_, hmem, r', ?_, hread⟩
    dsimp only
    rw [hanswer]
  · have hnone (other : String) : lastSaved other operations.reverse = none := by
      show lastSaved other [.fetch key, .remove key, .countAll, .fetch key, .save r] = none
      rw [lastSaved, lastSaved]
      split
      · rfl
      · next hother =>
        rw [lastSaved, lastSaved, lastSaved_save htime, if_neg hother]
        rfl
    rw [hend]
    simp [hnone, g₀]

end ConceptQuery.Cache.Blazegraph
