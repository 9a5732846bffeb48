import ConceptQuery.Proofs.Service.Account
import ConceptQuery.Proofs.Service.Bypass

/-!
# Clients that take turns

Any number of clients carry out plans over shared surroundings. A call is one step; between two
calls of a client any other clients may make theirs, new ones may arrive, the clock may move, and
operations of the memory may fail or recover. A client may also stop anywhere for good.

* `Client`, `Crowd` — clients in the middle of their plans, and their surroundings;
* `Move`, `Crowd.step`, `Crowd.after` — one step, and any run of them;
* `step_cases`, `invariant_after`, `forall_clients` — what every run keeps;
* `Client.Tells`, `tells_after` — clients are told by their calls;
* `Client.Timed`, `timed_after` — and by the course of the run;
* `Crowd.Kept`, `kept_after` — every record was written by one call of a client.
-/

namespace ConceptQuery

open Cache

/-- A client in the middle of an operation: the calls that it made, and what is left of its plan. -/
structure Client (ω ρ : Type) where
  operation : ω
  past : List Answered
  rest : Plan ρ

/-- Clients and the surroundings that they share. -/
structure Crowd (ω ρ : Type) where
  stage : Stage
  clients : List (Client ω ρ)

/-- What may happen next: a client arrives, or one of those that are there makes its next call. -/
inductive Move (ω : Type) where
  | arrive (o : ω)
  | call (n : Nat)

variable {ω ρ : Type} {plan : ω → Plan ρ} {course : Nat → Moment} {k k' : Crowd ω ρ}

/-- A client whose next call was answered. -/
def Client.answered (c : Client ω ρ) (a : Answered) (rest : Plan ρ) : Client ω ρ :=
  ⟨c.operation, c.past ++ [a], rest⟩

/-- A client makes its next call. One that has finished changes nothing. -/
def Client.call (course : Nat → Moment) (c : Client ω ρ) (s : Stage) : Client ω ρ × Stage :=
  match c.rest with
  | .done _ => (c, s)
  | .ask call next =>
    let (answer, s') := answerAt course call s
    (c.answered ⟨s.calls, call, answer⟩ (next answer), s')

/-- One step of a run. -/
def Crowd.step (plan : ω → Plan ρ) (course : Nat → Moment) (k : Crowd ω ρ) :
    Move ω → Crowd ω ρ
  | .arrive o => { k with clients := k.clients ++ [⟨o, [], plan o⟩] }
  | .call n =>
    match k.clients[n]? with
    | none => k
    | some c =>
      let (c', s) := c.call course k.stage
      ⟨s, k.clients.set n c'⟩

/-- Clients and surroundings after a run. -/
def Crowd.after (plan : ω → Plan ρ) (course : Nat → Moment) (k : Crowd ω ρ)
    (moves : List (Move ω)) : Crowd ω ρ :=
  moves.foldl (Crowd.step plan course) k

/-- Surroundings without clients. -/
def Stage.deserted (s : Stage) : Crowd ω ρ := ⟨s, []⟩

/-! ### Steps and runs -/

theorem Crowd.step_call {n : Nat} {c : Client ω ρ} (h : k.clients[n]? = some c) :
    k.step plan course (.call n)
      = ⟨(c.call course k.stage).2, k.clients.set n (c.call course k.stage).1⟩ := by
  simp only [Crowd.step, h]

theorem Client.call_done {c : Client ω ρ} {result : Except Failure ρ} (h : c.rest = .done result)
    (s : Stage) : c.call course s = (c, s) := by
  simp only [Client.call, h]

theorem Client.call_ask {c : Client ω ρ} {call : Call} {next : Except Failure call.Answer → Plan ρ}
    (h : c.rest = .ask call next) (s : Stage) :
    c.call course s = (c.answered ⟨s.calls, call, (answerAt course call s).1⟩
      (next (answerAt course call s).1), (answerAt course call s).2) := by
  simp only [Client.call, h]

/-- **What a step can be**: a client arrives, a client makes a call, or nothing happens. -/
theorem Crowd.step_cases (plan : ω → Plan ρ) (course : Nat → Moment) (k : Crowd ω ρ)
    (m : Move ω) :
    (∃ o, k.step plan course m = ⟨k.stage, k.clients ++ [⟨o, [], plan o⟩]⟩)
      ∨ k.step plan course m = k
      ∨ ∃ n c call next, k.clients[n]? = some c ∧ c.rest = .ask call next
        ∧ k.step plan course m = ⟨(answerAt course call k.stage).2, k.clients.set n
          (c.answered ⟨k.stage.calls, call, (answerAt course call k.stage).1⟩
            (next (answerAt course call k.stage).1))⟩ := by
  cases m with
  | arrive o => exact .inl ⟨o, rfl⟩
  | call n =>
    right
    cases hget : k.clients[n]? with
    | none =>
      left
      simp only [Crowd.step, hget]
    | some c =>
      cases hrest : c.rest with
      | done result =>
        left
        obtain ⟨hn, hc⟩ := List.getElem?_eq_some_iff.1 hget
        rw [step_call hget, Client.call_done hrest, ← hc, List.set_getElem_self hn]
      | ask call next =>
        right
        refine ⟨n, c, call, next, hget, hrest, ?_⟩
        rw [step_call hget, Client.call_ask hrest]

/-- What every step keeps is kept by every run. -/
theorem invariant_after {I : Crowd ω ρ → Prop}
    (hstep : ∀ k m, I k → I (k.step plan course m)) (hk : I k) (moves : List (Move ω)) :
    I (k.after plan course moves) := by
  induction moves generalizing k with
  | nil => exact hk
  | cons m moves ih => exact ih (hstep k m hk)

theorem after_concat (plan : ω → Plan ρ) (course : Nat → Moment) (k : Crowd ω ρ)
    (moves : List (Move ω)) (m : Move ω) :
    k.after plan course (moves ++ [m]) = (k.after plan course moves).step plan course m := by
  rw [Crowd.after, List.foldl_append]
  rfl

/-- **What every run keeps of its clients.** It holds of every client that arrives; a call keeps it
for the client that makes it and for all others. -/
theorem forall_clients {I : Stage → Prop} {P : Stage → Client ω ρ → Prop}
    (harrive : ∀ s o, I s → P s ⟨o, [], plan o⟩)
    (hcall : ∀ s c call next, I s → P s c → c.rest = .ask call next →
      let (answer, s') := answerAt course call s
      I s' ∧ P s' (c.answered ⟨s.calls, call, answer⟩ (next answer)))
    (hothers : ∀ s c call next d, I s → P s c → c.rest = .ask call next → P s d →
      P (answerAt course call s).2 d)
    (hstage : I k.stage) (hclients : ∀ c ∈ k.clients, P k.stage c) (moves : List (Move ω)) :
    I (k.after plan course moves).stage
      ∧ ∀ c ∈ (k.after plan course moves).clients, P (k.after plan course moves).stage c := by
  have hstep (k : Crowd ω ρ) (m : Move ω)
      (h : I k.stage ∧ ∀ c ∈ k.clients, P k.stage c) :
      I (k.step plan course m).stage
        ∧ ∀ c ∈ (k.step plan course m).clients, P (k.step plan course m).stage c := by
    obtain ⟨hstage, hclients⟩ := h
    obtain ⟨o, hk⟩ | hk | ⟨n, c, call, next, hget, hrest, hk⟩ := k.step_cases plan course m
    · rw [hk]
      refine ⟨hstage, fun c hc => ?_⟩
      rcases List.mem_append.1 hc with hc | hc
      · exact hclients c hc
      · obtain rfl := List.mem_singleton.1 hc
        exact harrive k.stage o hstage
    · rw [hk]
      exact ⟨hstage, hclients⟩
    · have hc := hclients c (List.mem_of_getElem? hget)
      obtain ⟨hstage', hc'⟩ := hcall k.stage c call next hstage hc hrest
      rw [hk]
      refine ⟨hstage', fun d hd => ?_⟩
      rcases List.mem_or_eq_of_mem_set hd with hd | rfl
      · exact hothers k.stage c call next d hstage hc hrest (hclients d hd)
      · exact hc'
  exact invariant_after hstep ⟨hstage, hclients⟩ moves

/-! ### The calls of clients -/

/-- An element of a list with one more at its end is this one, or stands at the same place of the
list without it. -/
theorem split_concat {α : Type} {xs earlier later : List α} {x a : α}
    (h : xs ++ [x] = earlier ++ a :: later) :
    earlier = xs ∧ a = x ∨ ∃ later', xs = earlier ++ a :: later' := by
  rcases List.eq_nil_or_concat later with rfl | ⟨later', last, rfl⟩
  · obtain ⟨hpre, hlast⟩ := List.append_inj' h rfl
    exact .inl ⟨hpre.symm, (List.cons.inj hlast).1.symm⟩
  · rw [List.concat_eq_append, ← List.cons_append, ← List.append_assoc] at h
    exact .inr ⟨later', (List.append_inj' h rfl).1⟩

/-- A client that has made only calls that follow those before, and will. -/
structure Client.Tells (asks : List Answered → Call → Prop)
    (ends : List Answered → Except Failure ρ → Prop) (c : Client ω ρ) : Prop where
  asked : ∀ earlier a later, c.past = earlier ++ a :: later → asks earlier a.call
  rest : c.rest.Tells asks ends c.past

theorem Client.Tells.answered {asks : List Answered → Call → Prop}
    {ends : List Answered → Except Failure ρ → Prop} {c : Client ω ρ} (h : c.Tells asks ends)
    {call : Call} {next : Except Failure call.Answer → Plan ρ} (hrest : c.rest = .ask call next)
    (n : Nat) (answer : Except Failure call.Answer) :
    (c.answered ⟨n, call, answer⟩ (next answer)).Tells asks ends := by
  have hask := h.rest
  rw [hrest] at hask
  refine ⟨fun earlier a later hpast => ?_, hask.2 n answer⟩
  rcases split_concat hpast with ⟨rfl, rfl⟩ | ⟨later', hbefore⟩
  · exact hask.1
  · exact h.asked earlier a later' hbefore

/-- **Clients are told by their calls**, each by those of its own operation. -/
theorem tells_after {asks : ω → List Answered → Call → Prop}
    {ends : ω → List Answered → Except Failure ρ → Prop}
    (hplan : ∀ o, (plan o).Tells (asks o) (ends o) []) (course : Nat → Moment) (s : Stage)
    (moves : List (Move ω)) :
    ∀ c ∈ (s.deserted.after plan course moves).clients,
      c.Tells (asks c.operation) (ends c.operation) := by
  refine (forall_clients (I := fun _ => True)
    (P := fun _ c => c.Tells (asks c.operation) (ends c.operation)) ?_ ?_ ?_ trivial ?_ moves).2
  · intro s o _
    refine ⟨fun earlier a later hpast => ?_, hplan o⟩
    exact absurd hpast.symm (by simp)
  · intro s c call next _ hc hrest
    exact ⟨trivial, hc.answered hrest _ _⟩
  · intro s c call next d _ _ _ hd
    exact hd
  · intro c hc
    cases hc

/-- The calls of a client in the course of a run, of which `calls` were made: they come one after
the other, and the clock tells the time of the call. -/
structure Client.Timed (course : Nat → Moment) (calls : Nat) (c : Client ω ρ) : Prop where
  increasing : c.past.Pairwise fun a b => a.number < b.number
  made : ∀ a ∈ c.past, a.number < calls
  clock : ∀ n answer, ⟨n, .now, answer⟩ ∈ c.past → answer = .ok (course n).clock

theorem Client.Timed.answered {c : Client ω ρ} {s : Stage} (h : c.Timed course s.calls)
    (call : Call) (rest : Plan ρ) :
    (c.answered ⟨s.calls, call, (answerAt course call s).1⟩ rest).Timed course (s.calls + 1) where
  increasing := by
    refine List.pairwise_append.2 ⟨h.increasing, List.pairwise_singleton _ _, fun a ha b hb => ?_⟩
    obtain rfl := List.mem_singleton.1 hb
    exact h.made a ha
  made := by
    intro a ha
    rcases List.mem_append.1 ha with ha | ha
    · exact Nat.lt_succ_of_lt (h.made a ha)
    · obtain rfl := List.mem_singleton.1 ha
      exact Nat.lt_succ_self _
  clock := by
    intro n answer ha
    rcases List.mem_append.1 ha with ha | ha
    · exact h.clock n answer ha
    · cases List.mem_singleton.1 ha
      rfl

/-- **The calls of every client come in the course of the run.** -/
theorem timed_after (plan : ω → Plan ρ) (course : Nat → Moment) (s : Stage)
    (moves : List (Move ω)) :
    ∀ c ∈ (s.deserted.after plan course moves).clients,
      c.Timed course (s.deserted.after plan course moves).stage.calls := by
  refine (forall_clients (I := fun _ => True)
    (P := fun s c => c.Timed course s.calls) ?_ ?_ ?_ trivial ?_ moves).2
  · intro s o _
    exact ⟨.nil, fun a ha => (by cases ha), fun n answer ha => (by cases ha)⟩
  · intro s c call next _ hc _
    exact ⟨trivial, hc.answered call _⟩
  · intro s c call next d _ _ _ hd
    exact ⟨hd.increasing, fun a ha => Nat.lt_succ_of_lt (hd.made a ha), hd.clock⟩
  · intro c hc
    cases hc

/-! ### The records -/

/-- A client made a call. -/
def Crowd.Called (k : Crowd ω ρ) (a : Answered) : Prop :=
  ∃ c ∈ k.clients, a ∈ c.past

/-- All clients are still there, and may have made more calls. -/
def Crowd.Grows (k k' : Crowd ω ρ) : Prop :=
  ∀ c ∈ k.clients, ∃ c' ∈ k'.clients, c'.operation = c.operation ∧ c.past <+: c'.past

theorem Crowd.grows_step (plan : ω → Plan ρ) (course : Nat → Moment) (k : Crowd ω ρ)
    (m : Move ω) : k.Grows (k.step plan course m) := by
  intro c hc
  obtain ⟨o, hk⟩ | hk | ⟨n, d, call, next, hget, -, hk⟩ := k.step_cases plan course m
  · rw [hk]
    exact ⟨c, List.mem_append_left _ hc, rfl, List.prefix_rfl⟩
  · rw [hk]
    exact ⟨c, hc, rfl, List.prefix_rfl⟩
  · rw [hk]
    obtain ⟨i, hi⟩ := List.mem_iff_getElem?.1 hc
    by_cases hin : i = n
    · subst hin
      rw [hget] at hi
      obtain rfl := Option.some.inj hi
      exact ⟨_, List.mem_set (List.getElem?_eq_some_iff.1 hget).1 _, rfl, List.prefix_append _ _⟩
    · refine ⟨c, List.mem_of_getElem? (i := i) ?_, rfl, List.prefix_rfl⟩
      rw [List.getElem?_set_ne (Ne.symm hin), hi]

theorem Crowd.Grows.called (h : k.Grows k') {a : Answered} (ha : k.Called a) : k'.Called a := by
  obtain ⟨c, hc, hpast⟩ := ha
  obtain ⟨c', hc', -, hpre⟩ := h c hc
  exact ⟨c', hc', hpre.subset hpast⟩

/-- A call that was made by the end of a step was made before, or is the one of the step. -/
theorem Crowd.Called.of_step {m : Move ω} {a : Answered} (h : (k.step plan course m).Called a) :
    k.Called a ∨ a.number = k.stage.calls ∧ a.answer = (answerAt course a.call k.stage).1
      ∧ (k.step plan course m).stage = (answerAt course a.call k.stage).2 := by
  obtain ⟨d, hd, ha⟩ := h
  obtain ⟨o, hk⟩ | hk | ⟨n, c, call, next, hget, -, hk⟩ := k.step_cases plan course m
  · rw [hk] at hd
    rcases List.mem_append.1 hd with hd | hd
    · exact .inl ⟨d, hd, ha⟩
    · obtain rfl := List.mem_singleton.1 hd
      cases ha
  · rw [hk] at hd
    exact .inl ⟨d, hd, ha⟩
  · rw [hk] at hd ⊢
    rcases List.mem_or_eq_of_mem_set hd with hd | rfl
    · exact .inl ⟨d, hd, ha⟩
    · rcases List.mem_append.1 ha with ha | ha
      · exact .inl ⟨c, List.mem_of_getElem? hget, ha⟩
      · obtain rfl := List.mem_singleton.1 ha
        exact .inr ⟨rfl, rfl, rfl⟩

/-- The backend stays a memory. -/
theorem records_after (plan : ω → Plan ρ) (course : Nat → Moment) {s : Stage}
    (hs : ∃ records, s.Records records) (moves : List (Move ω)) :
    ∃ records, ((s.deserted : Crowd ω ρ).after plan course moves).stage.Records records := by
  refine invariant_after (I := fun k => ∃ records, k.stage.Records records)
    (fun k m hk => ?_) hs moves
  obtain ⟨o, hstep⟩ | hstep | ⟨n, c, call, next, -, -, hstep⟩ := k.step_cases plan course m
  · rw [hstep]
    exact hk
  · rw [hstep]
    exact hk
  · rw [hstep]
    obtain ⟨records, hrecords⟩ := hk
    exact ⟨_, (records_answerAt course call hrecords).1⟩

/-- A record that is there after a call was there before, or is the one that the call wrote. -/
theorem get?_reflect {n : Nat} {records : Table (Record String)} {call : Call} {key : String}
    {r : Record String} (h : (reflect course n records call).get? key = some r) :
    records.get? key = some r ∨ call = .save r ∧ r.key = key ∧ fails course n .save = false := by
  cases call with
  | save r' =>
    rw [show reflect course n records (.save r')
      = if fails course n .save then records else records.insert r'.key r' from rfl] at h
    split at h
    · exact .inl h
    · next hup =>
      rw [Table.get?_insert] at h
      split at h
      · next hkey =>
        obtain rfl := Option.some.inj h
        exact .inr ⟨rfl, hkey.symm, Bool.eq_false_iff.2 hup⟩
      · exact .inl h
  | remove key' =>
    rw [show reflect course n records (.remove key')
      = if fails course n .remove then records else records.erase key' from rfl] at h
    split at h
    · exact .inl h
    · rw [Table.get?_erase] at h
      split at h
      · cases h
      · exact .inl h
  | _ => exact .inl h

/-- The surroundings keep records only as clients wrote them, each whole by one call. -/
def Crowd.Kept (k : Crowd ω ρ) : Prop :=
  ∃ records, k.stage.Records records ∧ ∀ key r, records.get? key = some r →
    r.key = key ∧ ∃ n, k.Called ⟨n, .save r, .ok ()⟩

theorem Crowd.Kept.step (plan : ω → Plan ρ) (course : Nat → Moment) (h : k.Kept) (m : Move ω) :
    (k.step plan course m).Kept := by
  have hgrows := k.grows_step plan course m
  obtain ⟨records, hrecords, hwritten⟩ := h
  -- as long as the records stay as they are, so does what is known of them
  have hsame (hstage : (k.step plan course m).stage = k.stage) :
      (k.step plan course m).Kept := by
    refine ⟨records, hstage ▸ hrecords, fun key r hget => ?_⟩
    obtain ⟨hkey, n, hcalled⟩ := hwritten key r hget
    exact ⟨hkey, n, hgrows.called hcalled⟩
  obtain ⟨o, hk⟩ | hk | ⟨n, c, call, next, hget, hrest, hk⟩ := k.step_cases plan course m
  · exact hsame (by rw [hk])
  · exact hsame (by rw [hk])
  · refine ⟨reflect course k.stage.calls records call, ?_, fun key r hafter => ?_⟩
    · rw [hk]
      exact (records_answerAt course call hrecords).1
    · rcases get?_reflect hafter with hbefore | ⟨rfl, hkey, hup⟩
      · obtain ⟨hkey, n, hcalled⟩ := hwritten key r hbefore
        exact ⟨hkey, n, hgrows.called hcalled⟩
      · obtain ⟨s', hanswer, -, -⟩ := answerAt_save course r hrecords
        rw [hup, if_neg Bool.false_ne_true] at hanswer
        refine ⟨hkey, k.stage.calls, c.answered ⟨k.stage.calls, .save r, .ok ()⟩ (next (.ok ())),
          ?_, List.mem_append_right _ (List.mem_singleton_self _)⟩
        rw [hk, hanswer]
        exact List.mem_set (List.getElem?_eq_some_iff.1 hget).1 _

/-- **Every record was written by one call of a client**, if there was none at first. -/
theorem kept_after (plan : ω → Plan ρ) (course : Nat → Moment) {s : Stage}
    (hs : s.Records .empty) (moves : List (Move ω)) :
    ((s.deserted : Crowd ω ρ).after plan course moves).Kept := by
  refine invariant_after (fun k m hk => hk.step plan course m) ⟨.empty, hs, ?_⟩ moves
  intro key r hget
  cases hget

end ConceptQuery
