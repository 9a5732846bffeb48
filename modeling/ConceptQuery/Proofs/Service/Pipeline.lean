import ConceptQuery.Proofs.Cache.Key
import ConceptQuery.Proofs.Ontology.Stores
import ConceptQuery.Proofs.Service.Contract
import ConceptQuery.Service.Query

/-!
# The pipeline behind the cache

Extraction, variants and documents that do not change give every prompt one query.  This module says
what the operations of a service do on the assumption that the cache holds nothing else.

* `Pipeline`, `Pipeline.scratch` — the fixed parts of a service, and what they make of a prompt
  without a cache;
* `Pipeline.Made`, `Pipeline.Describes` — records with what was made from scratch, as they are
  written and as they are read;
* `Pipeline.contract` — what an operation on a prompt calls, and how it is answered;
* `meets_execute`, `meets_compileOnly`, `meets_lookup`, `meets_invalidate` — the operations keep the
  contract and give what is made from scratch.
-/

namespace ConceptQuery

open Cache Ontology

/-! ### Queries made from scratch -/

/-- The parts of a service that give a prompt its query. -/
structure Pipeline where
  /-- The intent text of a prompt. -/
  extract : String → Except Failure String
  variants : Registry
  directory : Directory

namespace Pipeline

/-- What a prompt amounts to without a cache: its intent text and the formulation of that, by stores
that have read no document yet. -/
def scratch (k : Pipeline) (prompt : String) : Except Failure (String × Formulation) := do
  let text ← k.extract prompt
  let formulation ← (formulate text (.unread k.variants k.directory)).1
  return (text, formulation)

/-- A record of a prompt that holds what is made from scratch. -/
structure Made (k : Pipeline) (prompt : String) (r : Record String) : Prop where
  key_eq : r.key = promptKey prompt
  prompt_eq : r.prompt = prompt
  scratch_eq : ∃ g, k.scratch prompt = .ok (r.intentText, g) ∧ r.query = g.query

/-- Such a record as it is read. -/
def Describes (k : Pipeline) (prompt : String) (r : Record Json) : Prop :=
  ∃ written, k.Made prompt written ∧ r = written.map .string

theorem scratch_of_extract_error {k : Pipeline} {prompt : String} {f : Failure}
    (h : k.extract prompt = .error f) : k.scratch prompt = .error f := by
  rw [scratch, h]
  rfl

theorem scratch_of_ofText_error {k : Pipeline} {prompt text : String} {f : Failure}
    (htext : k.extract prompt = .ok text) (h : Intent.ofText text = .error f) :
    k.scratch prompt = .error f := by
  rw [scratch, htext]
  show ((formulate text _).1 >>= _) = _
  rw [formulate, h]
  rfl

theorem scratch_of_ofText {k : Pipeline} {prompt text : String} {i : Intent}
    (htext : k.extract prompt = .ok text) (hi : Intent.ofText text = .ok i) :
    k.scratch prompt
      = (i.formulate (.unread k.variants k.directory)).1.map fun g => (text, g) := by
  rw [scratch, htext]
  show ((formulate text _).1 >>= _) = _
  rw [formulate, hi]
  cases (i.formulate (.unread k.variants k.directory)).1 <;> rfl

end Pipeline

theorem Intent.intent_of_formulate {i : Intent} {s : Stores} {g : Formulation}
    (h : (i.formulate s).1 = .ok g) : g.intent = i := by
  unfold Intent.formulate at h
  split at h
  · cases h
  · split at h
    · cases h
    · obtain ⟨query, -, rfl⟩ := Except.map_eq_ok.1 h
      rfl

namespace Pipeline

variable {k : Pipeline} {prompt : String}

/-- The intent of a formulation made from scratch is the one that its text gives. -/
theorem ofText_of_scratch {text : String} {g : Formulation} (h : k.scratch prompt = .ok (text, g)) :
    k.extract prompt = .ok text ∧ Intent.ofText text = .ok g.intent := by
  cases htext : k.extract prompt with
  | error f =>
    rw [scratch_of_extract_error htext] at h
    cases h
  | ok text' =>
    cases hi : Intent.ofText text' with
    | error f =>
      rw [scratch_of_ofText_error htext hi] at h
      cases h
    | ok i =>
      rw [scratch_of_ofText htext hi] at h
      obtain ⟨g', hg, hpair⟩ := Except.map_eq_ok.1 h
      obtain ⟨rfl, rfl⟩ := Prod.mk.inj hpair
      exact ⟨rfl, by rw [hi, Intent.intent_of_formulate hg]⟩

end Pipeline

/-! ### The contract of operations on a prompt -/

/-- A failure of the exchange with an API, or of reading what came back. -/
def Failure.isUpstream : Failure → Bool
  | .apiFailed _ _ _ => true
  | .invalidUrl _ => true
  | .undecodable _ => true
  | _ => false

/-- A cache outage that is tolerated. -/
def Failure.IsTolerated (bypass : Bool) (f : Failure) : Prop :=
  bypass = true ∧ ∃ reason, f = .cacheUnavailable reason

/-- Nothing but tolerated outages. -/
def Tolerable {α : Type} (bypass : Bool) : Except Failure α → Prop
  | .ok _ => True
  | .error f => f.IsTolerated bypass

namespace Pipeline

/-- What a look into the cache finds: what was made from scratch, or nothing. -/
def Finds (k : Pipeline) (bypass : Bool) (prompt : String) :
    Except Failure (Option (Record Json)) → Prop
  | .ok (some r) => k.Describes prompt r
  | .ok none => True
  | .error f => f.IsTolerated bypass

/-- What an operation on a prompt may do: look at and drop the record of this prompt, write what was
made from scratch, and, if it `sends`, send the query made from scratch to the API of its intent. In
turn it finds only what was made from scratch, and no call on the cache fails unless that is
tolerated. -/
def contract (k : Pipeline) (bypass sends : Bool) (prompt : String) : Contract where
  allows
    | .now => True
    | .fetch key => key = promptKey prompt
    | .save r => k.Made prompt r
    | .remove key => key = promptKey prompt
    | .stats => False
    | .health => False
    | .formulate _ => True
    | .send query api => sends = true ∧ ∃ text g, k.scratch prompt = .ok (text, g)
        ∧ query = .string g.query ∧ api = g.intent.api
  promises
    | .now, answer => ∃ t, answer = .ok t
    | .fetch _, answer => k.Finds bypass prompt answer
    | .save _, answer => Tolerable bypass answer
    | .remove _, answer => Tolerable bypass answer
    | .stats, _ => True
    | .health, _ => True
    | .formulate i, answer =>
      answer = (i.formulate (.unread k.variants k.directory)).1.map (·.query)
    | .send _ _, answer => ∀ f, answer = .error f → f.isUpstream = true

/-! ### The cache -/

variable {k : Pipeline} {prompt : String} {bypass sends : Bool}

theorem meets_now : (Plan.call .now).Meets (k.contract bypass sends prompt)
    fun result => ∃ t, result = .ok t :=
  Plan.meets_call trivial fun _ h => h

theorem meets_get (c : PromptCache) :
    (c.get prompt).Meets (k.contract bypass sends prompt) (k.Finds bypass prompt) := by
  unfold PromptCache.get
  have hfetch : (Plan.call (.fetch (promptKey prompt))).Meets (k.contract bypass sends prompt)
      (k.Finds bypass prompt) := Plan.meets_call rfl fun _ h => h
  apply hfetch.bind
  · intro found hfound
    cases found with
    | none => trivial
    | some r =>
      apply meets_now.bind
      · intro now _
        by_cases hexpired : r.isExpired c.ttl.micros now = true
        · rw [if_pos hexpired]
          have hremove : (Plan.call (.remove (promptKey prompt))).Meets
              (k.contract bypass sends prompt) (Tolerable bypass) :=
            Plan.meets_call rfl fun _ h => h
          exact hremove.bind (fun _ _ => trivial) fun _ hf => hf
        · rw [if_neg hexpired]
          exact hfound
      · rintro f ⟨t, ht⟩
        cases ht
  · intro f hf
    exact hf

/-- A record of a prompt can be written if it holds what is made from scratch. -/
theorem meets_put {query intentText : String} {result : Option String} {g : Formulation}
    (hs : k.scratch prompt = .ok (intentText, g)) (hquery : query = g.query) :
    (PromptCache.put prompt query intentText result).Meets (k.contract bypass sends prompt)
      (Tolerable bypass) := by
  unfold PromptCache.put
  apply meets_now.bind
  · intro createdAt _
    have hmade : k.Made prompt
        { key := promptKey prompt, prompt, intentText, query, result, createdAt } :=
      ⟨rfl, rfl, g, hs, hquery⟩
    have hsave : (Plan.call (.save _)).Meets (k.contract bypass sends prompt) (Tolerable bypass) :=
      Plan.meets_call hmade fun _ h => h
    exact hsave.bind (fun _ _ => trivial) fun _ hf => hf
  · rintro f ⟨t, ht⟩
    cases ht

theorem meets_delete : (PromptCache.delete prompt).Meets (k.contract bypass sends prompt)
    (Tolerable bypass) :=
  Plan.meets_call rfl fun _ h => h

/-! ### The operations of a service -/

variable {s : Service}

/-- During a tolerated outage a plan goes on with its fallback. -/
theorem meets_tolerate {α : Type} {p : Plan α} {fallback : α} {post : Except Failure α → Prop}
    {kc : Contract} (hp : p.Meets kc post)
    (herror : ∀ f, post (.error f) → f.IsTolerated s.bypass) :
    (s.tolerate fallback p).Meets kc
      fun result => ∃ a, result = .ok a ∧ (post (.ok a) ∨ a = fallback) := by
  unfold Service.tolerate
  apply hp.recover
  · intro a ha
    exact ⟨a, rfl, .inl ha⟩
  · intro f hf
    obtain ⟨hbypass, reason, rfl⟩ := herror f hf
    dsimp only
    rw [if_pos hbypass]
    exact ⟨fallback, rfl, .inr rfl⟩

theorem meets_cached : (s.cached prompt).Meets (k.contract s.bypass sends prompt)
    fun result => ∃ found, result = .ok found ∧ k.Finds s.bypass prompt (.ok found) := by
  have hget : (s.cache.get prompt).Meets (k.contract s.bypass sends prompt)
      (k.Finds s.bypass prompt) := meets_get s.cache
  apply (meets_tolerate hget fun f hf => hf).mono
  rintro result ⟨found, rfl, hfound | rfl⟩
  · exact ⟨found, rfl, hfound⟩
  · exact ⟨none, rfl, trivial⟩

theorem meets_store {query intentText : String} {result : Option String} {g : Formulation}
    (hs : k.scratch prompt = .ok (intentText, g)) (hquery : query = g.query) :
    (s.store prompt query intentText result).Meets (k.contract s.bypass sends prompt)
      fun reply => reply = .ok () := by
  have hput : (do let _ ← PromptCache.put prompt query intentText result : Plan Unit).Meets
      (k.contract s.bypass sends prompt) (Tolerable s.bypass) :=
    (meets_put hs hquery).bind (fun _ _ => trivial) fun _ hf => hf
  apply (meets_tolerate hput fun f hf => hf).mono
  rintro reply ⟨u, rfl, -⟩
  rfl

/-- Compiling anew gives the query made from scratch, or fails as making it does. -/
theorem meets_compileFresh {i : Intent} {text : String} (htext : k.extract prompt = .ok text)
    (hi : Intent.ofText text = .ok i) :
    (s.compileFresh prompt i text).Meets (k.contract s.bypass sends prompt)
      fun
        | .ok query => ∃ g, k.scratch prompt = .ok (text, g) ∧ g.intent = i ∧ query = g.query
        | .error f => k.scratch prompt = .error f := by
  unfold Service.compileFresh
  have hscratch := scratch_of_ofText htext hi
  have hformulate : (Plan.call (.formulate i)).Meets (k.contract s.bypass sends prompt)
      fun result => result = (i.formulate (.unread k.variants k.directory)).1.map (·.query) :=
    Plan.meets_call trivial fun _ h => h
  cases hg : (i.formulate (.unread k.variants k.directory)).1 with
  | error f =>
    rw [hg] at hformulate hscratch
    apply hformulate.bind
    · intro query hquery
      cases hquery
    · intro f' hf'
      obtain rfl := Except.error.inj hf'
      exact hscratch
  | ok g =>
    rw [hg] at hformulate hscratch
    apply hformulate.bind
    · intro query hquery
      obtain rfl := Except.ok.inj hquery
      apply (meets_store hscratch rfl).bind
      · intro _ _
        exact ⟨g, hscratch, Intent.intent_of_formulate hg, rfl⟩
      · intro f hf
        cases hf
    · intro f hf
      cases hf

/-- Reading a prompt gives its intent and its intent text, or fails as making its query does. -/
theorem meets_read {kc : Contract} {api : String}
    (hextract : s.extract prompt api = k.extract prompt) :
    (s.read prompt api).Meets kc fun
      | .ok (i, text) => k.extract prompt = .ok text ∧ Intent.ofText text = .ok i
      | .error f => k.scratch prompt = .error f := by
  unfold Service.read
  rw [hextract]
  cases htext : k.extract prompt with
  | error f => exact scratch_of_extract_error htext
  | ok text =>
    show Plan.Meets kc _ (.done (Intent.ofText text >>= fun i => .ok (i, text)))
    cases hi : Intent.ofText text with
    | error f => exact scratch_of_ofText_error htext hi
    | ok i => exact ⟨rfl, hi⟩

/-- What is told of a prompt: the query made from scratch, or the failure of making it, or, if the
query is sent, a failure of the exchange. -/
def Gives (k : Pipeline) (sends : Bool) (prompt : String) (result : Except Failure Outcome) :
    Prop :=
  match k.scratch prompt with
  | .error f => result = .error f
  | .ok (_, g) =>
    (∃ o, result = .ok o ∧ o.prompt = prompt ∧ o.intent = g.intent ∧ o.query = .string g.query)
      ∨ sends = true ∧ ∃ f, result = .error f ∧ f.isUpstream = true

theorem gives_error {f : Failure} (h : k.scratch prompt = .error f) :
    k.Gives sends prompt (.error f) := by
  unfold Gives
  rw [h]

theorem gives_ok {text : String} {g : Formulation} {cacheHit : Bool} {result : Option Json}
    (h : k.scratch prompt = .ok (text, g)) :
    k.Gives sends prompt (.ok ⟨prompt, g.intent, .string g.query, cacheHit, result⟩) := by
  unfold Gives
  rw [h]
  exact .inl ⟨_, rfl, rfl, rfl, rfl⟩

theorem gives_upstream {text : String} {g : Formulation} {f : Failure}
    (h : k.scratch prompt = .ok (text, g)) (hf : f.isUpstream = true) :
    k.Gives true prompt (.error f) := by
  unfold Gives
  rw [h]
  exact .inr ⟨rfl, f, rfl, hf⟩

/-- What is found for a prompt is what is made from scratch now. -/
theorem scratch_of_describes {i : Intent} {text : String} {r : Record Json}
    (htext : k.extract prompt = .ok text) (hi : Intent.ofText text = .ok i)
    (hr : k.Describes prompt r) :
    ∃ g, k.scratch prompt = .ok (text, g) ∧ g.intent = i ∧ r.query = .string g.query := by
  obtain ⟨written, ⟨-, -, g, hg, hquery⟩, rfl⟩ := hr
  obtain ⟨htext', hi'⟩ := ofText_of_scratch hg
  rw [htext] at htext'
  obtain rfl := Except.ok.inj htext'
  rw [hi] at hi'
  obtain rfl := Except.ok.inj hi'
  exact ⟨g, hg, rfl, congrArg Json.string hquery⟩

theorem meets_send {text : String} {g : Formulation} (h : k.scratch prompt = .ok (text, g)) :
    (Plan.call (.send (.string g.query) g.intent.api)).Meets (k.contract s.bypass true prompt)
      fun result => ∀ f, result = .error f → f.isUpstream = true :=
  Plan.meets_call ⟨rfl, text, g, h, rfl, rfl⟩ fun _ h => h

/-- **A prompt that is run up to its query** gives the query made from scratch. -/
theorem meets_compileOnly {api : String} (hextract : s.extract prompt api = k.extract prompt) :
    (s.compileOnly prompt api).Meets (k.contract s.bypass false prompt) (k.Gives false prompt) := by
  unfold Service.compileOnly
  apply (meets_read hextract).bind
  · rintro ⟨i, text⟩ ⟨htext, hi⟩
    apply meets_cached.bind
    · rintro found ⟨_, hok, hfound⟩
      obtain rfl := Except.ok.inj hok
      cases found with
      | some r =>
        obtain ⟨g, hscratch, rfl, hquery⟩ := scratch_of_describes htext hi hfound
        show k.Gives false prompt (.ok ⟨prompt, g.intent, r.query, true, none⟩)
        rw [hquery]
        exact gives_ok hscratch
      | none =>
        apply (meets_compileFresh htext hi).bind
        · rintro query ⟨g, hscratch, rfl, rfl⟩
          exact gives_ok hscratch
        · intro f hf
          exact gives_error hf
    · rintro f ⟨_, hf, -⟩
      cases hf
  · intro f hf
    exact gives_error hf

/-- **A prompt that is run from end to end** sends and gives the query made from scratch. -/
theorem meets_execute {api : String} (hextract : s.extract prompt api = k.extract prompt) :
    (s.execute prompt api).Meets (k.contract s.bypass true prompt) (k.Gives true prompt) := by
  unfold Service.execute
  apply (meets_read hextract).bind
  · rintro ⟨i, text⟩ ⟨htext, hi⟩
    apply meets_cached.bind
    · rintro found ⟨_, hok, hfound⟩
      obtain rfl := Except.ok.inj hok
      cases found with
      | some r =>
        obtain ⟨g, hscratch, rfl, hquery⟩ := scratch_of_describes htext hi hfound
        dsimp only
        rw [hquery]
        split
        · exact gives_ok hscratch
        · apply (meets_send hscratch).bind
          · intro result _
            exact gives_ok hscratch
          · intro f hf
            exact gives_upstream hscratch (hf f rfl)
      | none =>
        apply (meets_compileFresh htext hi).bind
        · rintro query ⟨g, hscratch, rfl, rfl⟩
          apply (meets_send hscratch).bind
          · intro result _
            by_cases hstore : s.storeResults = true
            · rw [if_pos hstore]
              apply (meets_store hscratch rfl).bind
              · intro _ _
                exact gives_ok hscratch
              · intro f hf
                cases hf
            · rw [if_neg hstore]
              exact gives_ok hscratch
          · intro f hf
            exact gives_upstream hscratch (hf f rfl)
        · intro f hf
          exact gives_error hf
    · rintro f ⟨_, hf, -⟩
      cases hf
  · intro f hf
    exact gives_error hf

theorem meets_lookup : (s.lookup prompt).Meets (k.contract s.bypass false prompt)
    (k.Finds s.bypass prompt) :=
  meets_get s.cache

theorem meets_invalidate : (s.invalidate prompt).Meets (k.contract s.bypass false prompt)
    (Tolerable s.bypass) :=
  meets_delete

end Pipeline

end ConceptQuery
