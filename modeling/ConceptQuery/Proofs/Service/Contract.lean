import ConceptQuery.Service.Query

/-!
# Contracts of plans

A contract says which calls a plan may make and what it is promised as answers.  A plan meets a
contract if all of its calls are allowed and its result has a property, as long as the answers so
far were as promised.

* `run_bind_ok`, `run_bind_error`, `run_call_ok`, `run_call_error` — plans run step by step;
* `Contract` — the calls that are allowed, and the answers that are promised;
* `Plan.Meets` — a plan keeps its side of a contract;
* `Meets.thenResult`, `Meets.bind`, `Meets.recover` — plans that are put together;
* `Meets.run` — surroundings that keep the other side;
* `Within` — a plan that makes only allowed calls, whatever its result;
* `Within.run_eq_run` — two surroundings that answer such a plan alike;
* `PromptCache.within_get`, `PromptCache.within_put`, `Service.within_store`,
  `Service.within_compileFresh`, `Service.within_compileOnly` — the uses of the cache.
-/

namespace ConceptQuery

/-- The calls that a plan may make, and the answers that it may rely on. -/
structure Contract where
  allows : Call → Prop
  promises : (c : Call) → Except Failure c.Answer → Prop

namespace Plan

variable {α β σ : Type} {k : Contract} {post post' : Except Failure α → Prop}
  {post₂ : Except Failure β → Prop} {p : Plan α}

theorem run_bind_ok {answer : (c : Call) → σ → Except Failure c.Answer × σ} {f : α → Plan β}
    {s s' : σ} {a : α} (h : p.run answer s = (.ok a, s')) :
    (p >>= f).run answer s = (f a).run answer s' := by
  show (p.thenResult _).run answer s = _
  rw [run_thenResult, h]

theorem run_bind_error {answer : (c : Call) → σ → Except Failure c.Answer × σ} {f : α → Plan β}
    {s s' : σ} {e : Failure} (h : p.run answer s = (.error e, s')) :
    (p >>= f).run answer s = (.error e, s') := by
  show (p.thenResult _).run answer s = _
  rw [run_thenResult, h]
  rfl

theorem run_call_ok {answer : (c : Call) → σ → Except Failure c.Answer × σ} {c : Call}
    {f : c.Answer → Plan β} {s s' : σ} {a : c.Answer} (h : answer c s = (.ok a, s')) :
    (call c >>= f).run answer s = (f a).run answer s' :=
  run_bind_ok h

theorem run_call_error {answer : (c : Call) → σ → Except Failure c.Answer × σ} {c : Call}
    {f : c.Answer → Plan β} {s s' : σ} {e : Failure} (h : answer c s = (.error e, s')) :
    (call c >>= f).run answer s = (.error e, s') :=
  run_bind_error h

/-- A plan makes only allowed calls and ends in a result with a property, as long as it is answered
as promised. -/
def Meets (k : Contract) (post : Except Failure α → Prop) : Plan α → Prop
  | .done result => post result
  | .ask c next => k.allows c ∧ ∀ answer, k.promises c answer → (next answer).Meets k post

theorem meets_call {c : Call} {post : Except Failure c.Answer → Prop} (hallowed : k.allows c)
    (hpost : ∀ answer, k.promises c answer → post answer) : (call c).Meets k post :=
  ⟨hallowed, hpost⟩

theorem Meets.mono (h : p.Meets k post) (hpost : ∀ result, post result → post' result) :
    p.Meets k post' := by
  induction p with
  | done result => exact hpost result h
  | ask c next ih => exact ⟨h.1, fun answer ha => ih answer (h.2 answer ha)⟩

theorem Meets.thenResult {f : Except Failure α → Plan β} (h : p.Meets k post)
    (hf : ∀ result, post result → (f result).Meets k post₂) : (p.thenResult f).Meets k post₂ := by
  induction p with
  | done result => exact hf result h
  | ask c next ih => exact ⟨h.1, fun answer ha => ih answer (h.2 answer ha)⟩

/-- **One plan after another** meets a contract: the first one does, what follows its success does,
and its failures are failures of the whole. -/
theorem Meets.bind {f : α → Plan β} (h : p.Meets k post)
    (hok : ∀ a, post (.ok a) → (f a).Meets k post₂)
    (herror : ∀ e, post (.error e) → post₂ (.error e)) : (p >>= f).Meets k post₂ := by
  apply Meets.thenResult h
  intro result hresult
  cases result with
  | ok a => exact hok a hresult
  | error e => exact herror e hresult

theorem Meets.recover {care : Failure → Plan α} (h : p.Meets k post)
    (hok : ∀ a, post (.ok a) → post' (.ok a))
    (herror : ∀ e, post (.error e) → (care e).Meets k post') : (p.recover care).Meets k post' := by
  apply Meets.thenResult h
  intro result hresult
  cases result with
  | ok a => exact hok a hresult
  | error e => exact herror e hresult

/-- **A plan in surroundings that keep its contract** ends as agreed. The surroundings keep it if
every allowed call is answered as promised and leaves them as they should be. -/
theorem Meets.run {answer : (c : Call) → σ → Except Failure c.Answer × σ} {Inv : σ → Prop}
    (hanswer : ∀ c s, k.allows c → Inv s → k.promises c (answer c s).1 ∧ Inv (answer c s).2)
    (h : p.Meets k post) {s : σ} (hs : Inv s) :
    post (p.run answer s).1 ∧ Inv (p.run answer s).2 := by
  induction p generalizing s with
  | done result => exact ⟨h, hs⟩
  | ask c next ih =>
    obtain ⟨hpromise, hs'⟩ := hanswer c s h.1 hs
    exact ih _ (h.2 _ hpromise) hs'

/-! ### Allowed calls -/

/-- A plan makes only allowed calls, as long as it is answered as promised. -/
def Within (k : Contract) (p : Plan α) : Prop :=
  p.Meets k fun _ => True

theorem within_done (result : Except Failure α) : (done result).Within k :=
  trivial

theorem within_call {c : Call} (hallowed : k.allows c) : (call c).Within k :=
  ⟨hallowed, fun _ _ => trivial⟩

theorem Within.bind {f : α → Plan β} (h : p.Within k) (hf : ∀ a, (f a).Within k) :
    (p >>= f).Within k :=
  Meets.bind h (fun a _ => hf a) fun _ _ => trivial

theorem Within.recover {care : Failure → Plan α} (h : p.Within k)
    (hcare : ∀ e, (care e).Within k) : (p.recover care).Within k :=
  Meets.recover h (fun _ _ => trivial) fun e _ => hcare e

/-- **Two surroundings that cannot be told apart.** If all allowed calls are answered alike and as
promised, and leave the surroundings related, a plan that makes only such calls ends alike in
both. -/
theorem Within.run_eq_run {τ : Type} {answer : (c : Call) → σ → Except Failure c.Answer × σ}
    {answer' : (c : Call) → τ → Except Failure c.Answer × τ} {R : σ → τ → Prop}
    (hanswer : ∀ c s t, k.allows c → R s t → (answer c s).1 = (answer' c t).1
      ∧ k.promises c (answer c s).1 ∧ R (answer c s).2 (answer' c t).2)
    (h : p.Within k) {s : σ} {t : τ} (hst : R s t) :
    (p.run answer s).1 = (p.run answer' t).1 ∧ R (p.run answer s).2 (p.run answer' t).2 := by
  induction p generalizing s t with
  | done result => exact ⟨rfl, hst⟩
  | ask c next ih =>
    obtain ⟨hsame, hpromise, hrelated⟩ := hanswer c s t h.1 hst
    have hrun' : (ask c next).run answer' t
        = (next (answer c s).1).run answer' (answer' c t).2 := by
      rw [hsame]
      rfl
    rw [hrun']
    exact ih _ (h.2 _ hpromise) hrelated

end Plan

/-! ### The cache -/

variable {k : Contract} {s : Service} {prompt query intentText : String} {result : Option String}

theorem PromptCache.within_get (c : PromptCache) (hnow : k.allows .now)
    (hfetch : k.allows (.fetch (Cache.promptKey prompt)))
    (hremove : k.allows (.remove (Cache.promptKey prompt))) : (c.get prompt).Within k := by
  unfold PromptCache.get
  apply (Plan.within_call hfetch).bind
  intro found
  cases found with
  | none => exact Plan.within_done _
  | some r =>
    apply (Plan.within_call hnow).bind
    intro now
    by_cases hexpired : r.isExpired c.ttl.micros now = true
    · rw [if_pos hexpired]
      exact (Plan.within_call hremove).bind fun _ => Plan.within_done _
    · rw [if_neg hexpired]
      exact Plan.within_done _

/-- A record is written that is made at the time of the call before. -/
theorem PromptCache.within_put (hnow : k.allows .now)
    (hsave : ∀ createdAt, k.promises .now (.ok createdAt) → k.allows (.save
      ⟨Cache.promptKey prompt, prompt, intentText, query, result, createdAt⟩)) :
    (PromptCache.put prompt query intentText result).Within k := by
  unfold PromptCache.put
  have htime : (Plan.call .now).Meets k (k.promises .now) := Plan.meets_call hnow fun _ h => h
  apply htime.bind
  · intro createdAt hpromise
    exact (Plan.within_call (hsave createdAt hpromise)).bind fun _ => Plan.within_done _
  · intro f _
    trivial

theorem Service.within_tolerate {α : Type} {fallback : α} {p : Plan α} (hp : p.Within k) :
    (s.tolerate fallback p).Within k := by
  apply hp.recover
  intro f
  cases f with
  | cacheUnavailable reason =>
    dsimp only
    split
    · exact Plan.within_done _
    · exact Plan.within_done _
  | _ => exact Plan.within_done _

theorem Service.within_store (hnow : k.allows .now)
    (hsave : ∀ createdAt, k.promises .now (.ok createdAt) → k.allows (.save
      ⟨Cache.promptKey prompt, prompt, intentText, query, result, createdAt⟩)) :
    (s.store prompt query intentText result).Within k :=
  Service.within_tolerate ((PromptCache.within_put hnow hsave).bind fun _ => Plan.within_done _)

theorem Service.within_compileFresh {i : Intent} (hformulate : k.allows (.formulate i))
    (hnow : k.allows .now)
    (hsave : ∀ query createdAt, k.promises .now (.ok createdAt) → k.allows (.save
      ⟨Cache.promptKey prompt, prompt, intentText, query, none, createdAt⟩)) :
    (s.compileFresh prompt i intentText).Within k := by
  apply (Plan.within_call hformulate).bind
  intro query
  exact (Service.within_store hnow (hsave query)).bind fun _ => Plan.within_done _

theorem Service.within_compileOnly {api : String}
    (hfetch : k.allows (.fetch (Cache.promptKey prompt))) (hnow : k.allows .now)
    (hremove : k.allows (.remove (Cache.promptKey prompt)))
    (hformulate : ∀ i, k.allows (.formulate i))
    (hsave : ∀ query intentText createdAt, k.promises .now (.ok createdAt) → k.allows (.save
      ⟨Cache.promptKey prompt, prompt, intentText, query, none, createdAt⟩)) :
    (s.compileOnly prompt api).Within k := by
  apply (Plan.within_done _).bind
  rintro ⟨i, intentText⟩
  apply (Service.within_tolerate (s.cache.within_get hnow hfetch hremove)).bind
  intro found
  cases found with
  | some record => exact Plan.within_done _
  | none =>
    exact (Service.within_compileFresh (hformulate i) hnow fun query => hsave query intentText).bind
      fun _ => Plan.within_done _

end ConceptQuery
