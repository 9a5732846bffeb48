import ConceptQuery.Cache.Statement
import ConceptQuery.Proofs.Sparql.Token

/-!
# Lexing SPARQL piece by piece

A text is cut into pieces.  A piece has no part in an escape of a code point, whatever stands behind
it, and takes the machine from one place to another.

* `Sparql.Reads` — what a piece gives, and where it leads;
* `Reads.append`, `Reads.tokens?` — pieces one after the other, and a whole text;
* `reads_fixed`, `reads_run`, `reads_iri`, `reads_quote` — the pieces: a fixed text, the rest of a
  run, a reference, and a quoted text.
-/

namespace ConceptQuery.Sparql

/-- A piece of text stays as it is when escapes of code points are undone, gives certain tokens, and
leads from one place to another. -/
structure Reads (place : Place) (s : List Char) (ts : List Token) (next : Place) : Prop where
  stable : ∀ rest, unescape? (s ++ rest) = (unescape? rest).map (s ++ ·)
  walk_eq : walk place s = some (ts, next)

variable {place next last : Place} {s s' : List Char} {ts ts' : List Token}

/-! ### Pieces one after the other -/

theorem walk_cons {c : Char} (hc : step place c = some (ts, next)) (s : List Char) :
    walk place (c :: s) = (walk next s).map fun more => (ts ++ more.1, more.2) := by
  rw [walk, hc]
  rfl

theorem walk_append (h : walk place s = some (ts, next)) (s' : List Char) :
    walk place (s ++ s') = (walk next s').map fun more => (ts ++ more.1, more.2) := by
  induction s generalizing place ts with
  | nil =>
    obtain ⟨rfl, rfl⟩ := Prod.mk.inj (Option.some.inj h)
    simp
  | cons c s ih =>
    rw [walk, Option.bind_eq_bind, Option.bind_eq_some_iff] at h
    obtain ⟨⟨first, middle⟩, hstep, h⟩ := h
    obtain ⟨⟨more, last⟩, hwalk, h⟩ := Option.map_eq_some_iff.1 h
    obtain ⟨rfl, rfl⟩ := Prod.mk.inj h
    rw [List.cons_append, walk_cons hstep, ih hwalk, Option.map_map]
    congr 1
    funext rest
    simp only [Function.comp_apply, List.append_assoc]

theorem map_append_append (s s' : List Char) (text : Option (List Char)) :
    (text.map (s' ++ ·)).map (s ++ ·) = text.map (s ++ s' ++ ·) := by
  rw [Option.map_map]
  congr 1
  funext more
  simp only [Function.comp_apply, List.append_assoc]

theorem Reads.append (h : Reads place s ts next) (h' : Reads next s' ts' last) :
    Reads place (s ++ s') (ts ++ ts') last where
  stable := by
    intro rest
    rw [List.append_assoc, h.stable, h'.stable, map_append_append]
  walk_eq := by
    rw [walk_append h.walk_eq, h'.walk_eq]
    rfl

theorem reads_nil : Reads place [] [] place where
  stable := by
    intro rest
    simp
  walk_eq := rfl

/-- The tokens of a whole text. -/
theorem Reads.tokens? {text : String} (h : Reads .between text.toList ts next)
    (hend : next.finish = some ts') : tokens? text = some (ts ++ ts') := by
  have hstable := h.stable []
  rw [List.append_nil] at hstable
  have hsame : unescape? text.toList = some text.toList := by
    rw [hstable, unescape?, Option.map_some, List.append_nil]
  simp only [Sparql.tokens?, hsame, h.walk_eq, hend, Option.bind_eq_bind, Option.bind_some]
  rfl

/-! ### Texts without backslashes -/

theorem unescape?_plain {c : Char} (h : c ≠ '\\') (rest : List Char) :
    unescape? (c :: rest) = (unescape? rest).map (c :: ·) := by
  rw [unescape?.eq_def]
  simp only [if_neg h]

theorem stable_plain (h : '\\' ∉ s) (rest : List Char) :
    unescape? (s ++ rest) = (unescape? rest).map (s ++ ·) := by
  induction s with
  | nil => simp
  | cons c s ih =>
    rw [List.mem_cons, not_or] at h
    rw [List.cons_append, unescape?_plain (Ne.symm h.1), ih h.2, Option.map_map]
    rfl

/-- A fixed text, of which the machine can be run. -/
theorem reads_fixed (h : '\\' ∉ s ∧ walk place s = some (ts, next)) :
    Reads place s ts next :=
  ⟨stable_plain h.1, h.2⟩

/-! ### Runs and references -/

/-- The rest of a run. -/
theorem reads_run {r : Run} {read : List Char} (h : ∀ c ∈ s, isNameChar c = true) :
    Reads (.run r read) s [] (.run r (s.reverse ++ read)) where
  stable := stable_plain fun hmem => absurd (h _ hmem) (by decide)
  walk_eq := by
    induction s generalizing read with
    | nil => rfl
    | cons c s ih =>
      rw [List.forall_mem_cons] at h
      have hstep : step (.run r read) c = some ([], .run r (c :: read)) := if_pos h.1
      rw [walk_cons hstep, ih h.2]
      simp

theorem walk_iri {read : List Char} (h : ∀ c ∈ s, Turtle.isIriChar c = true) :
    walk (.iri read) s = some ([], .iri (s.reverse ++ read)) := by
  induction s generalizing read with
  | nil => rfl
  | cons c s ih =>
    rw [List.forall_mem_cons] at h
    have hclose : c ≠ '>' := by
      rintro rfl
      exact absurd h.1 (by decide)
    have hstep : step (.iri read) c = some ([], .iri (c :: read)) := by
      rw [step, if_neg hclose, if_pos h.1]
    rw [walk_cons hstep, ih h.2]
    simp

/-- A reference in its brackets is one token. -/
theorem reads_iri {name : String} (h : ∀ c ∈ name.toList, Turtle.isIriChar c = true)
    (habsolute : isAbsolute name.toList = true) :
    Reads .between ("<" ++ name ++ ">").toList [.iri name] .between where
  stable := by
    apply stable_plain
    intro hmem
    simp only [String.toList_append, List.mem_append] at hmem
    rcases hmem with (hmem | hmem) | hmem
    · exact absurd hmem (by decide)
    · exact absurd (h _ hmem) (by decide)
    · exact absurd hmem (by decide)
  walk_eq := by
    have hopen : walk .between "<".toList = some ([], .iri []) := by decide
    have hclose : step (.iri name.toList.reverse) '>' = some ([.iri name], .between) := by
      rw [step, if_pos rfl, List.reverse_reverse, if_pos habsolute, String.ofList_toList]
    have htext : ("<" ++ name ++ ">").toList = "<".toList ++ (name.toList ++ ['>']) := by simp
    rw [htext, walk_append hopen, walk_append (walk_iri h), List.append_nil, walk_cons hclose]
    rfl

/-! ### Quoted texts -/

/-- An escaped character takes no part in an escape of a code point. -/
theorem stable_escapeChar (c : Char) (rest : List Char) :
    unescape? (escapeChar c ++ rest) = (unescape? rest).map (escapeChar c ++ ·) := by
  unfold escapeChar
  split
  · rfl
  next hbackslash =>
  split
  · rfl
  split
  · rfl
  split
  · rfl
  split
  · rfl
  · exact unescape?_plain hbackslash rest

theorem stable_escape (s rest : List Char) :
    unescape? (s.flatMap escapeChar ++ rest)
      = (unescape? rest).map (s.flatMap escapeChar ++ ·) := by
  induction s with
  | nil => simp
  | cons c s ih =>
    rw [List.flatMap_cons, List.append_assoc, stable_escapeChar, ih, map_append_append]

/-- An escaped character is read back, also as the first of its text. -/
theorem walk_escapeChar (c : Char) (read : List Char) :
    walk (.string read) (escapeChar c) = some ([], .string (c :: read))
      ∧ walk .opened (escapeChar c) = some ([], .string [c]) := by
  unfold escapeChar
  split
  · subst_vars
    exact ⟨rfl, rfl⟩
  next hbackslash =>
  split
  · subst_vars
    exact ⟨rfl, rfl⟩
  next hquote =>
  split
  · subst_vars
    exact ⟨rfl, rfl⟩
  next hfeed =>
  split
  · subst_vars
    exact ⟨rfl, rfl⟩
  next hreturn =>
  split
  · subst_vars
    exact ⟨rfl, rfl⟩
  · have hline : isLineEnd c = false := by simp [isLineEnd, hfeed, hreturn]
    have hstring (read : List Char) : stringStep read c = some ([], .string (c :: read)) := by
      simp [stringStep, hquote, hbackslash, hline]
    have hinside : step (.string read) c = some ([], .string (c :: read)) := hstring read
    have hopened : step .opened c = some ([], .string [c]) := by
      rw [step, if_neg hquote, hstring]
    exact ⟨walk_cons hinside [], walk_cons hopened []⟩

theorem walk_escape (s read : List Char) :
    walk (.string read) (s.flatMap escapeChar) = some ([], .string (s.reverse ++ read)) := by
  induction s generalizing read with
  | nil => rfl
  | cons c s ih =>
    rw [List.flatMap_cons, walk_append (walk_escapeChar c read).1, ih]
    simp

/-- The two quotes of the empty text may still become three. -/
theorem walk_quoteChars_nil : walk .between (quoteChars []) = some ([], .closed) := by
  decide

theorem walk_quoteChars {s : List Char} (h : s ≠ []) :
    walk .between (quoteChars s) = some ([.string (.ofList s)], .between) := by
  obtain ⟨d, rest, rfl⟩ := List.exists_cons_of_ne_nil h
  have hopen : step .between '"' = some ([], .opened) := by decide
  have hclose : step (.string (rest.reverse ++ [d])) '"'
      = some ([.string (.ofList (d :: rest))], .between) := by
    rw [step, stringStep, if_pos rfl, List.reverse_append, List.reverse_reverse,
      List.reverse_singleton, List.singleton_append]
  rw [quoteChars, List.cons_append, walk_cons hopen, List.flatMap_cons, List.append_assoc,
    walk_append (walk_escapeChar d []).2, walk_append (walk_escape rest [d]), walk_cons hclose]
  rfl

/-- **A quoted text is one string**, which holds exactly the text, whatever follows it, if that does
not begin with a quote. -/
theorem walk_quote (text : String) {c : Char} (hc : c ≠ '"') (rest : List Char) :
    walk .between (quoteChars text.toList ++ c :: rest)
      = (walk .between (c :: rest)).map fun more => (.string text :: more.1, more.2) := by
  by_cases htext : text.toList = []
  · obtain rfl : text = "" := String.toList_eq_nil_iff.1 htext
    have hafter : step .closed c = (start c).map fun more => (.string "" :: more.1, more.2) := by
      rw [step, if_neg hc, startAfter]
      cases start c <;> rfl
    have hbetween : step .between c = start c := rfl
    rw [htext, walk_append walk_quoteChars_nil, walk, walk, hafter, hbetween]
    cases start c with
    | none => rfl
    | some more =>
      simp only [Option.map_some, Option.bind_eq_bind, Option.bind_some, Option.map_map]
      rfl
  · rw [walk_append (walk_quoteChars htext), String.ofList_toList]
    rfl

/-- A quoted text takes no part in an escape of a code point. -/
theorem stable_quote (text : String) (rest : List Char) :
    unescape? ((quote text).toList ++ rest)
      = (unescape? rest).map ((quote text).toList ++ ·) := by
  have hquote : '"' ≠ '\\' := by decide
  rw [quote, String.toList_ofList, quoteChars]
  simp only [List.cons_append, List.append_assoc, List.nil_append]
  rw [unescape?_plain hquote, stable_escape, unescape?_plain hquote]
  cases unescape? rest <;> rfl

theorem reads_quote (text : String) {c : Char} (hc : c ≠ '"') (hbackslash : c ≠ '\\')
    (hstart : start c = some (ts, next)) :
    Reads .between ((quote text).toList ++ [c]) (.string text :: ts) next where
  stable := by
    intro rest
    rw [List.append_assoc, List.singleton_append, stable_quote, unescape?_plain hbackslash]
    exact map_append_append _ [c] _
  walk_eq := by
    have hbetween : step .between c = some (ts, next) := hstart
    rw [quote, String.toList_ofList, walk_quote text hc, walk_cons hbetween]
    simp [walk]

end ConceptQuery.Sparql
