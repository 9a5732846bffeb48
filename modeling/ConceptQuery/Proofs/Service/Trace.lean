import Mathlib.Tactic.ByContra
import ConceptQuery.Proofs.Service.Bypass

/-!
# Traces of plans

A plan that is run makes its calls one after the other. Its trace tells each of them together with
the surroundings that it was made in.

* `Plan.run_bind_eq_ok` — plans that are put together;
* `Plan.trace`, `trace_bind_ok`, `trace_bind_error` — the calls of a plan and of one after another;
* `forall_trace_bind`, `forall_trace_map`, `Within.forall_trace` — what all calls of a plan have in
  common;
* `Plan.Strict`, `Strict.abort`, `Strict.error_cases` — plans that fail with the first call that does;
* `Call.failsAt`, `answerAt_failed`, `failsAt_of_outage` — calls on a memory that fail.
-/

namespace ConceptQuery

open Cache

namespace Plan

variable {α β γ σ : Type} {answer : (c : Call) → σ → Except Failure c.Answer × σ} {p : Plan α}
  {f : α → Plan β} {s s' : σ}

/-! ### Plans put together -/

theorem thenResult_assoc (p : Plan α) (f : Except Failure α → Plan β)
    (g : Except Failure β → Plan γ) :
    (p.thenResult f).thenResult g = p.thenResult fun result => (f result).thenResult g := by
  induction p with
  | done result => rfl
  | ask c next ih =>
    show ask c _ = ask c _
    congr 1
    funext a
    exact ih a

theorem thenResult_done (p : Plan α) : p.thenResult .done = p := by
  induction p with
  | done result => rfl
  | ask c next ih =>
    show ask c _ = ask c next
    congr 1
    funext a
    exact ih a

/-- Plans are put together as the laws of sequences want it. -/
instance : LawfulMonad Plan :=
  LawfulMonad.mk' Plan
    (by
      intro α p
      show p.thenResult _ = p
      conv_rhs => rw [← thenResult_done p]
      congr 1
      funext result
      cases result <;> rfl)
    (by
      intro α β a f
      rfl)
    (by
      intro α β γ p f g
      show (p.thenResult _).thenResult _ = p.thenResult _
      rw [thenResult_assoc]
      congr 1
      funext result
      cases result <;> rfl)

/-- What follows a plan succeeds if the plan and what follows it do. -/
theorem run_bind_eq_ok {b : β} {s'' : σ} : (p >>= f).run answer s = (.ok b, s'')
    ↔ ∃ a s', p.run answer s = (.ok a, s') ∧ (f a).run answer s' = (.ok b, s'') := by
  rcases hrun : p.run answer s with ⟨e | a, s'⟩
  · rw [run_bind_error hrun]
    simp
  · rw [run_bind_ok hrun]
    constructor
    · intro h
      exact ⟨a, s', rfl, h⟩
    · intro ⟨a', s₁, hfirst, h⟩
      obtain ⟨ha, rfl⟩ := Prod.mk.inj hfirst
      obtain rfl := Except.ok.inj ha
      exact h

theorem run_ask {c : Call} {next : Except Failure c.Answer → Plan α}
    {result : Except Failure c.Answer} (h : (answer c s).1 = result) :
    (ask c next).run answer s = (next result).run answer (answer c s).2 := by
  rw [← h]
  rfl

/-! ### Traces -/

/-- The calls of a plan, each with the surroundings that it was made in. -/
def trace (answer : (c : Call) → σ → Except Failure c.Answer × σ) : Plan α → σ → List (Call × σ)
  | .done _, _ => []
  | .ask c next, s => (c, s) :: (next (answer c s).1).trace answer (answer c s).2

theorem trace_thenResult (p : Plan α) (f : Except Failure α → Plan β) (s : σ) :
    (p.thenResult f).trace answer s
      = p.trace answer s ++ (f (p.run answer s).1).trace answer (p.run answer s).2 := by
  induction p generalizing s with
  | done result => simp [thenResult, trace, run]
  | ask c next ih => simp [thenResult, trace, run, ih]

/-- **The calls of one plan after another**: those of the second one are made in the surroundings
that the first one leaves. -/
theorem trace_bind_ok {a : α} (h : p.run answer s = (.ok a, s')) :
    (p >>= f).trace answer s = p.trace answer s ++ (f a).trace answer s' := by
  show (p.thenResult _).trace answer s = _
  rw [trace_thenResult, h]

/-- Nothing is called upon after a plan that failed. -/
theorem trace_bind_error {e : Failure} (h : p.run answer s = (.error e, s')) :
    (p >>= f).trace answer s = p.trace answer s := by
  show (p.thenResult _).trace answer s = _
  rw [trace_thenResult, h]
  exact List.append_nil _

theorem trace_map (p : Plan α) (f : α → β) (s : σ) :
    (do return f (← p) : Plan β).trace answer s = p.trace answer s := by
  show (p.thenResult _).trace answer s = _
  rw [trace_thenResult]
  cases (p.run answer s).1 <;> exact List.append_nil _

/-- What all calls of two plans have in common, all calls of one after the other have. -/
theorem forall_trace_bind {P : Call × σ → Prop} (hp : ∀ e ∈ p.trace answer s, P e)
    (hf : ∀ a s', p.run answer s = (.ok a, s') → ∀ e ∈ (f a).trace answer s', P e) :
    ∀ e ∈ (p >>= f).trace answer s, P e := by
  rcases hrun : p.run answer s with ⟨a | a, s'⟩
  · rw [trace_bind_error hrun]
    exact hp
  · rw [trace_bind_ok hrun, List.forall_mem_append]
    exact ⟨hp, hf a s' hrun⟩

theorem forall_trace_map {P : Call × σ → Prop} {g : α → β} (hp : ∀ e ∈ p.trace answer s, P e) :
    ∀ e ∈ (p >>= fun a => pure (g a)).trace answer s, P e := by
  rw [trace_map]
  exact hp

theorem forall_trace_call {P : Call × σ → Prop} {c : Call} (h : P (c, s)) :
    ∀ e ∈ (call c).trace answer s, P e := by
  intro e he
  rw [List.mem_singleton.1 he]
  exact h

/-- A plan makes the calls that its contract allows. -/
theorem Within.forall_trace {k : Contract} (hp : p.Within k)
    (hpromises : ∀ c result, k.promises c result) : ∀ e ∈ p.trace answer s, k.allows e.1 := by
  induction p generalizing s with
  | done result => exact List.forall_mem_nil _
  | ask c next ih =>
    rw [trace, List.forall_mem_cons]
    exact ⟨hp.1, ih _ (hp.2 _ (hpromises c _))⟩

/-- What every call keeps holds in the surroundings of all calls. -/
theorem forall_trace_of_invariant {Inv : σ → Prop} (hanswer : ∀ c s, Inv s → Inv (answer c s).2)
    (p : Plan α) (hs : Inv s) : ∀ e ∈ p.trace answer s, Inv e.2 := by
  induction p generalizing s with
  | done result => exact List.forall_mem_nil _
  | ask c next ih =>
    rw [trace, List.forall_mem_cons]
    exact ⟨hs, ih _ (hanswer c s hs)⟩

/-! ### Plans without care for failures -/

/-- A plan that is failed by every call that fails, with the failure of that call, and that has only
some failures of its own. -/
def Strict (own : Failure → Prop) : Plan α → Prop
  | .done result => ∀ f, result = .error f → own f
  | .ask _ next => (∀ f, next (.error f) = .done (.error f)) ∧ ∀ a, (next (.ok a)).Strict own

section Strict

variable {own : Failure → Prop}

theorem strict_call (c : Call) : (call c).Strict own := by
  refine ⟨fun f => rfl, fun a f hf => ?_⟩
  cases hf

theorem strict_pure (a : α) : (pure a : Plan α).Strict own := by
  intro f hf
  cases hf

theorem Strict.bind (hp : p.Strict own) (hf : ∀ a, (f a).Strict own) : (p >>= f).Strict own := by
  induction p with
  | done result =>
    cases result with
    | ok a => exact hf a
    | error e =>
      intro e' he'
      obtain rfl := Except.error.inj he'
      exact hp e rfl
  | ask c next ih =>
    refine ⟨fun e => ?_, fun a => ih (.ok a) (hp.2 a)⟩
    show (next (.error e)).thenResult _ = _
    rw [hp.1 e]
    rfl

/-- **The first call that fails** is the last call of a strict plan, and fails it. -/
theorem Strict.abort (hp : p.Strict own) {before rest : List (Call × σ)} {c : Call} {x : σ}
    (htrace : p.trace answer s = before ++ (c, x) :: rest) {e : Failure}
    (he : (answer c x).1 = .error e) :
    rest = [] ∧ p.run answer s = (.error e, (answer c x).2) := by
  induction p generalizing s before with
  | done result => exact absurd htrace.symm (List.append_ne_nil_of_right_ne_nil _ (by simp))
  | ask c' next ih =>
    cases before with
    | nil =>
      obtain ⟨hfirst, hrest⟩ := List.cons.inj htrace
      obtain ⟨rfl, rfl⟩ := Prod.mk.inj hfirst
      rw [he, hp.1 e] at hrest
      refine ⟨hrest.symm, ?_⟩
      rw [run_ask he, hp.1 e]
      rfl
    | cons first before =>
      obtain ⟨-, hrest⟩ := List.cons.inj htrace
      rcases hanswer : (answer c' s).1 with e' | a
      · rw [hanswer, hp.1 e'] at hrest
        exact absurd hrest.symm (List.append_ne_nil_of_right_ne_nil _ (by simp))
      · rw [hanswer] at hrest
        obtain ⟨hnil, hrun⟩ := ih (.ok a) (hp.2 a) hrest
        refine ⟨hnil, ?_⟩
        rw [run_ask hanswer, hrun]

/-- A strict plan fails by a failure of its own, or by its last call. -/
theorem Strict.error_cases (hp : p.Strict own) {e : Failure}
    (he : (p.run answer s).1 = .error e) :
    own e ∨ ∃ entry ∈ p.trace answer s, (answer entry.1 entry.2).1 = .error e := by
  induction p generalizing s with
  | done result => exact .inl (hp e he)
  | ask c next ih =>
    rcases hanswer : (answer c s).1 with e' | a
    · rw [run_ask hanswer, hp.1 e'] at he
      obtain rfl := Except.error.inj he
      exact .inr ⟨(c, s), List.mem_cons_self, hanswer⟩
    · rw [run_ask hanswer] at he
      refine (ih (.ok a) (hp.2 a) he).imp id ?_
      rintro ⟨entry, hentry, hfailed⟩
      refine ⟨entry, List.mem_cons_of_mem _ ?_, hfailed⟩
      rwa [hanswer]

end Strict

end Plan

/-! ### Calls on a memory -/

/-- The operation of the memory that a call asks for. -/
def Call.operation? : Call → Option Memory.Operation
  | .fetch _ => some .fetch
  | .save _ => some .save
  | .remove _ => some .remove
  | .stats => some .stats
  | _ => none

/-- Whether a call, as the one of a number, is on the memory and fails. -/
def Call.failsAt (course : Nat → Moment) (n : Nat) (c : Call) : Bool :=
  c.operation?.any (fails course n)

variable {course : Nat → Moment} {stage : Stage} {records : Table (Record String)}

/-- A call on the memory that fails changes nothing. -/
theorem answerAt_failed {c : Call} (hs : stage.Records records)
    (hfails : c.failsAt course stage.calls = true) :
    ∃ stage', answerAt course c stage = (.error Memory.isDown, stage') ∧ stage'.Records records
      ∧ stage.SameOutside stage' := by
  have houtside (hc : cacheCalls.allows c) := (answerAt_outside course hc hs).2
  cases c with
  | fetch key =>
    have hdown : fails course stage.calls .fetch = true := hfails
    obtain ⟨stage', hrun, hrecords, -⟩ := answerAt_fetch course key hs
    rw [if_pos hdown] at hrun
    rw [hrun] at houtside
    exact ⟨stage', hrun, hrecords, houtside trivial⟩
  | save r =>
    have hdown : fails course stage.calls .save = true := hfails
    obtain ⟨stage', hrun, hrecords, -⟩ := answerAt_save course r hs
    rw [if_pos hdown] at hrun hrecords
    rw [hrun] at houtside
    exact ⟨stage', hrun, hrecords, houtside trivial⟩
  | remove key =>
    have hdown : fails course stage.calls .remove = true := hfails
    obtain ⟨stage', hrun, hrecords, -⟩ := answerAt_remove course key hs
    rw [if_pos hdown] at hrun hrecords
    rw [hrun] at houtside
    exact ⟨stage', hrun, hrecords, houtside trivial⟩
  | stats =>
    have hdown : fails course stage.calls .stats = true := hfails
    obtain ⟨stage', hrun, hrecords, -⟩ := answerAt_stats course hs
    rw [if_pos hdown] at hrun
    rw [hrun] at houtside
    exact ⟨stage', hrun, hrecords, houtside trivial⟩
  | _ => cases hfails

/-- Sending a query never fails by an outage of the cache. -/
theorem dispatch_ne_outage {variants : Registry} {query : Json} {tag : Option String}
    {network : Http.Network} {reason : String} :
    (dispatch variants query tag network).1 ≠ .error (.cacheUnavailable reason) := by
  intro h
  unfold dispatch at h
  split at h
  · next hget =>
    obtain rfl := Except.error.inj h
    cases isFormulation_get hget
  · split at h
    · cases Pipeline.isUpstream_outcome _ _ _ h
    · cases h

theorem failed_of_error {α : Type} {failed : Bool} {a : α} {f : Failure}
    (h : (if failed = true then .error Memory.isDown else .ok a : Except Failure α) = .error f) :
    failed = true := by
  by_contra hfailed
  rw [if_neg hfailed] at h
  cases h

/-- **Outages** are reported by calls on the memory that fail, and by no others. -/
theorem failsAt_of_outage {c : Call} {reason : String} (hs : stage.Records records)
    (h : (answerAt course c stage).1 = .error (.cacheUnavailable reason)) :
    c.failsAt course stage.calls = true := by
  cases c with
  | fetch key =>
    obtain ⟨stage', hrun, -⟩ := answerAt_fetch course key hs
    rw [hrun] at h
    exact failed_of_error h
  | save r =>
    obtain ⟨stage', hrun, -⟩ := answerAt_save course r hs
    rw [hrun] at h
    exact failed_of_error h
  | remove key =>
    obtain ⟨stage', hrun, -⟩ := answerAt_remove course key hs
    rw [hrun] at h
    exact failed_of_error h
  | stats =>
    obtain ⟨stage', hrun, -⟩ := answerAt_stats course hs
    rw [hrun] at h
    exact failed_of_error h
  | formulate i =>
    obtain ⟨stage', hrun, -⟩ := answerAt_formulate course i hs
    rw [hrun] at h
    cases isFormulation_formulate (Except.map_eq_error.1 h)
  | send query api =>
    obtain ⟨stage', hrun, -⟩ := answerAt_send course query api hs
    rw [hrun] at h
    exact absurd h dispatch_ne_outage
  | now =>
    obtain ⟨stage', hrun, -⟩ := answerAt_now course hs
    rw [hrun] at h
    cases h
  | health =>
    obtain ⟨⟨clock, backend, stores, network⟩, n⟩ := stage
    obtain ⟨down, rfl⟩ := hs
    cases h

end ConceptQuery
