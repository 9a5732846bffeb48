import ConceptQuery.Proofs.Service.Request
import ConceptQuery.Web.App

/-!
# Failures as clients see them

* `respond_post` — an answer to a posted request has the status that its path gives;
* `Web.requestRoute`, `respond_request` — the failure of a request for a prompt;
* `Web.Signals`, `signals_status` — the statuses of failures;
* `perform_eq_run` — a request without anything happening meanwhile is a run.
-/

namespace ConceptQuery

open Cache Http

namespace Web

variable {s : Service} {r : Request} {w : World}

/-! ### Answers -/

theorem status_allowOrigin (origin : String) (a : Answer) :
    (allowOrigin origin a).status = a.status := by
  unfold allowOrigin
  split <;> rfl

theorem withoutContent_post (hmethod : r.method = "POST") (a : Answer) :
    withoutContent r a = a := by
  rw [withoutContent, hmethod]
  rfl

theorem isPreflight_post (hmethod : r.method = "POST") : isPreflight r = false := by
  rw [isPreflight, hmethod]
  rfl

/-- **A posted request** is answered with the status that its path gives, wherever it comes from. -/
theorem respond_post (running : Option Service) (w : World) (hmethod : r.method = "POST") :
    (respond running r w).1.status = (handle running r w).1.status
      ∧ (respond running r w).2 = (handle running r w).2 := by
  unfold respond
  split
  · simp only [withoutContent_post hmethod, and_self]
  · simp only [isPreflight_post hmethod, withoutContent_post hmethod]
    exact ⟨status_allowOrigin _ _, rfl⟩

/-- The report on a failure has its status. -/
theorem status_reported {α : Type} (action : String) (say : α → Answer) (f : Failure) :
    (reported action say (.error f)).status = f.status :=
  rfl

/-! ### Requests for a prompt -/

/-- The route of requests for an answer, or only for the query. -/
def requestRoute (sends : Bool) : Route :=
  if sends then .runQuery else .compileQuery

/-- **A request for a prompt that fails** is answered with the status of its failure. -/
theorem respond_request {sends : Bool} {body : Option Json} {form : QueryForm} {f : Failure}
    (hmethod : r.method = "POST") (hroute : Route.at? (pathOf r.target) = some (requestRoute sends))
    (hbody : bodyOf r = .ok body) (hform : QueryForm.ofBody body = .ok form)
    (hfails : (w.perform (s.request sends form.prompt form.api)).1 = .error f) :
    (respond (some s) r w).1.status = f.status
      ∧ (respond (some s) r w).2 = (w.perform (s.request sends form.prompt form.api)).2 := by
  obtain ⟨hstatus, hworld⟩ := respond_post (some s) w hmethod
  have hposted : ((requestRoute sends).method == r.method) = true := by
    rw [hmethod]
    cases sends <;> rfl
  have hreads : (requestRoute sends).readsBody = true := by
    cases sends <;> rfl
  have hhandle : handle (some s) r w = serve s (requestRoute sends) body w := by
    rw [handle, hroute]
    dsimp only
    rw [if_pos hposted, serveIfRunning, if_pos hreads, hbody]
  have hserve : (serve s (requestRoute sends) body w).1.status = f.status
      ∧ (serve s (requestRoute sends) body w).2
        = (w.perform (s.request sends form.prompt form.api)).2 := by
    cases sends with
    | true =>
      change (w.perform (s.execute form.prompt form.api)).1 = _ at hfails
      simp only [requestRoute, serve, hform, withForm, performed, if_true, hfails]
      exact ⟨status_reported _ _ _, rfl⟩
    | false =>
      change (w.perform (s.compileOnly form.prompt form.api)).1 = _ at hfails
      simp only [requestRoute, serve, hform, withForm, performed, Bool.false_eq_true, if_false,
        hfails]
      exact ⟨status_reported _ _ _, rfl⟩
  rw [hstatus, hworld, hhandle]
  exact hserve

/-- The statuses of the failures of a request for a prompt. -/
structure Signals (f : Failure) (status : Nat) : Prop where
  malformed : ∀ text issues, f = .malformedIntent text issues → status = 422
  unsupported : ∀ api, f = .unsupportedApi api → status = 400
  mapping : ∀ api source reason, f = .mappingLoad api source reason → status = 500
  upstream : ∀ api answered text, f = .apiFailed api answered text → status = 502

theorem signals_status (f : Failure) : Signals f f.status where
  malformed := by
    rintro text issues rfl
    rfl
  unsupported := by
    rintro api rfl
    rfl
  mapping := by
    rintro api source reason rfl
    rfl
  upstream := by
    rintro api answered text rfl
    rfl

end Web

/-! ### Requests in which nothing else happens -/

/-- Nothing else happens in the course of a run. -/
def standingStillAt (clock : Timestamp) (_ : Nat) : Moment :=
  ⟨clock, []⟩

theorem down_standingStillAt (clock : Timestamp) (n : Nat) :
    (standingStillAt clock n).down = [] :=
  rfl

/-- Surroundings with a memory in order. -/
structure World.Still (clock : Timestamp) (w : World) : Prop where
  clock_eq : w.clock = clock
  backend_eq : ∃ records, w.backend = .memory ⟨records, []⟩

variable {clock : Timestamp} {w : World}

theorem World.Still.at (h : w.Still clock) (n : Nat) : w.at (standingStillAt clock n) = w := by
  obtain ⟨clock', backend, stores, network⟩ := w
  obtain ⟨rfl, records, rfl⟩ := h
  rfl

/-- Every call leaves the clock and the order of the memory as they are. -/
theorem World.Still.answer (h : w.Still clock) (c : Call) : (World.answer c w).2.Still clock := by
  obtain ⟨clock', backend, stores, network⟩ := w
  obtain ⟨rfl, records, rfl⟩ := h
  cases c <;> exact ⟨rfl, _, rfl⟩

/-- **A plan that is performed** is a run in whose course nothing else happens. -/
theorem perform_eq_run {α : Type} (p : Plan α) (h : w.Still clock) (n : Nat) :
    (p.run (answerAt (standingStillAt clock)) ⟨w, n⟩).1 = (w.perform p).1
      ∧ (p.run (answerAt (standingStillAt clock)) ⟨w, n⟩).2.world = (w.perform p).2 := by
  induction p generalizing w n with
  | done result => exact ⟨rfl, rfl⟩
  | ask c next ih =>
    have hanswer : answerAt (standingStillAt clock) c ⟨w, n⟩
        = ((World.answer c w).1, ⟨(World.answer c w).2, n + 1⟩) := by
      rw [answerAt, h.at]
    have hrun : (Plan.ask c next).run (answerAt (standingStillAt clock)) ⟨w, n⟩
        = (next (World.answer c w).1).run (answerAt (standingStillAt clock))
          ⟨(World.answer c w).2, n + 1⟩ := by
      rw [Plan.run, hanswer]
    rw [hrun]
    exact ih (World.answer c w).1 (h.answer c) (n + 1)

end ConceptQuery
