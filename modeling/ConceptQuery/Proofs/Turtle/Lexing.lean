import ConceptQuery.Proofs.Turtle.Names
import ConceptQuery.Proofs.Turtle.Strings
import Mathlib.Tactic.FinCases

/-!
# Lexing Turtle piece by piece

A document is cut into pieces, each the text of one token, with blanks and comments between them.

* `Turtle.Bounded` — texts that go on no token;
* `Turtle.Gap`, `Gap.skip_append` — what stands between tokens;
* `Turtle.Lexes` — a text gives a token, if what follows it does not go on it;
* `lexes_name`, `lexes_string`, `lexes_reference`, `lexes_mark`, `lexes_type`, `lexes_declaration` —
  the texts of tokens;
* `Turtle.Piece`, `Turtle.Laid`, `tokensFrom_of_laid` — the tokens of pieces that are laid out in
  any way;
* `Turtle.stand`, `laid_of_stand` — finding pieces in a text.
-/

namespace ConceptQuery.Turtle

/-- The characters that end all names, strings and words in front of them. -/
def boundaries : List Char :=
  [' ', '\t', '\r', '\n', '#', ',', ';']

/-- A text that goes on no token: it is empty or begins with a boundary. -/
inductive Bounded : List Char → Prop where
  | nil : Bounded []
  | cons {c : Char} (h : c ∈ boundaries) (rest : List Char) : Bounded (c :: rest)

/-- What stands between tokens: blanks, and comments up to the ends of their lines. -/
inductive Gap : List Char → Prop where
  | nil : Gap []
  | blank {c : Char} {gap : List Char} (hc : isSpace c = true) (h : Gap gap) : Gap (c :: gap)
  | comment {w gap : List Char} {e : Char} (hw : ∀ c ∈ w, isLineEnd c = false)
      (he : isLineEnd e = true) (h : Gap gap) : Gap ('#' :: (w ++ e :: gap))

/-- A text gives a token, if what follows it does not go on it. -/
structure Lexes (w : List Char) (t : Token) : Prop where
  /-- The text is there, and begins no gap. -/
  start : ∃ c rest, w = c :: rest ∧ isSpace c = false ∧ c ≠ '#'
  token : ∀ rest, Bounded rest → token? (w ++ rest) = some (t, rest)

variable {s w gap rest : List Char} {t : Token}

/-! ### Between tokens -/

theorem skipFrom_comment (h : ∀ c ∈ w, isLineEnd c = false) {e : Char} (he : isLineEnd e = true)
    (s : List Char) : skipFrom true (w ++ e :: s) = skip s := by
  induction w with
  | nil =>
    rw [List.nil_append, skipFrom, if_pos rfl, he]
    rfl
  | cons c w ih =>
    rw [List.forall_mem_cons] at h
    rw [List.cons_append, skipFrom, if_pos rfl, h.1]
    exact ih h.2

/-- Gaps are skipped. -/
theorem Gap.skip_append (h : Gap gap) (s : List Char) : skip (gap ++ s) = skip s := by
  induction h with
  | nil => rfl
  | blank hc _ ih =>
    rw [← ih, List.cons_append, skip, skipFrom, if_neg (by decide), if_pos hc]
    rfl
  | @comment w gap e hw he _ ih =>
    have hopen : skip ('#' :: (w ++ e :: (gap ++ s))) = skipFrom true (w ++ e :: (gap ++ s)) := rfl
    rw [List.cons_append, List.append_assoc, List.cons_append, hopen, skipFrom_comment hw he, ih]

/-! ### Names -/

theorem boundary_stops {c : Char} (h : c ∈ boundaries) :
    isNameChar c = false ∧ c ∉ [':', '.', '%', '\\'] := by
  fin_cases h <;> decide

theorem Bounded.localRun_eq (h : Bounded rest) : localRun rest = ([], rest) := by
  cases h with
  | nil => rfl
  | cons hc rest => exact localRun_stop (boundary_stops hc).1 (boundary_stops hc).2 rest

/-- The prefixes of mapping documents. -/
def scopes : List String :=
  ["ex", "rdfs"]

theorem token?_scope {scope : String} (h : scope ∈ scopes) (s : List Char) :
    token? (scope.toList ++ ':' :: s)
      = some (.name scope (.ofList (takeLocal s).1), (takeLocal s).2) := by
  simp only [scopes, List.mem_cons, List.not_mem_nil, or_false] at h
  rcases h with rfl | rfl <;> rfl

/-- A local name behind its prefix. -/
theorem lexes_name {scope name : String} (h : scope ∈ scopes) (hname : LocalName w name.toList) :
    Lexes (scope.toList ++ ':' :: w) (.name scope name) where
  start := by
    simp only [scopes, List.mem_cons, List.not_mem_nil, or_false] at h
    rcases h with rfl | rfl
    · exact ⟨'e', 'x' :: ':' :: w, rfl, by decide, by decide⟩
    · exact ⟨'r', 'd' :: 'f' :: 's' :: ':' :: w, rfl, by decide, by decide⟩
  token := by
    intro rest hrest
    rw [List.append_assoc, List.cons_append, token?_scope h,
      takeLocal_of_name hname hrest.localRun_eq, String.ofList_toList]

/-! ### Strings and references -/

theorem Bounded.head?_ne (h : Bounded rest) : rest.head? ≠ some '"' := by
  cases h with
  | nil => nofun
  | cons hc rest =>
    rintro ⟨⟩
    exact absurd hc (by decide)

theorem Bounded.takeSuffix?_eq (h : Bounded rest) : takeSuffix? rest = some (.plain, rest) := by
  cases h with
  | nil => rfl
  | @cons c hc rest =>
    have hat : c ≠ '@' := fun heq => absurd (heq ▸ hc) (by decide)
    have hcaret : c ≠ '^' := fun heq => absurd (heq ▸ hc) (by decide)
    unfold takeSuffix?
    split
    · next heq => exact absurd (List.cons.inj heq).1 hat
    · next heq => exact absurd (List.cons.inj heq).1 hcaret
    · rfl

/-- A string in its quotes: neither an empty one nor any other begins with three quotes. -/
theorem lexes_string {text : String} (h : StringText w text.toList) :
    Lexes ('"' :: (w ++ ['"'])) (.string text .plain) where
  start := ⟨'"', w ++ ['"'], rfl, by decide, by decide⟩
  token := by
    intro rest hrest
    have hopen : token? ('"' :: (w ++ '"' :: rest)) = stringToken? '"' (w ++ '"' :: rest) := rfl
    rw [List.cons_append, List.append_assoc, List.singleton_append, hopen, stringToken?,
      if_neg (Text.take_two_ne h.head?_ne hrest.head?_ne), shortString?_of_text h,
      Option.bind_eq_bind, Option.bind_some]
    dsimp only
    rw [hrest.takeSuffix?_eq, Option.bind_eq_bind, Option.bind_some, String.ofList_toList]
    rfl

theorem iriBody?_append (h : ∀ c ∈ w, isIriChar c = true) (rest : List Char) :
    iriBody? (w ++ '>' :: rest) = some (w, rest) := by
  induction w with
  | nil => rw [List.nil_append, iriBody?, if_pos rfl]
  | cons c w ih =>
    rw [List.forall_mem_cons] at h
    have hclose : c ≠ '>' := by
      rintro rfl
      exact absurd h.1 (by decide)
    have hbackslash : c ≠ '\\' := by
      rintro rfl
      exact absurd h.1 (by decide)
    rw [List.cons_append, iriBody?, if_neg hclose, if_neg hbackslash, if_pos h.1, ih h.2]
    rfl

/-- A reference in its brackets. -/
theorem lexes_reference {reference : String} (h : ∀ c ∈ reference.toList, isIriChar c = true) :
    Lexes ('<' :: (reference.toList ++ ['>'])) (.iri reference) where
  start := ⟨'<', reference.toList ++ ['>'], rfl, by decide, by decide⟩
  token := by
    intro rest _
    have hopen (s : List Char) : token? ('<' :: s) = (iriBody? s).map
        fun read => (.iri (.ofList read.1), read.2) := rfl
    rw [List.cons_append, List.append_assoc, List.singleton_append, hopen, iriBody?_append h,
      Option.map_some, String.ofList_toList]

/-! ### Marks and words -/

theorem lexes_mark {c : Char} (h : c ∈ [';', ',', '.']) : Lexes [c] (.mark c) where
  start := by
    refine ⟨c, [], rfl, ?_⟩
    fin_cases h <;> decide
  token := by
    intro rest hrest
    simp only [List.mem_cons, List.not_mem_nil, or_false] at h
    rcases h with rfl | rfl | rfl
    · rfl
    · rfl
    · -- a point could begin a number, but only before a digit
      cases hrest with
      | nil => rfl
      | cons hc rest => fin_cases hc <;> rfl

/-- The word for the type of a subject. -/
theorem lexes_type : Lexes ['a'] (.word "a") where
  start := ⟨'a', [], rfl, by decide, by decide⟩
  token := by
    intro rest hrest
    cases hrest with
    | nil => rfl
    | cons hc rest => fin_cases hc <;> rfl

/-- The word that declares a prefix. -/
theorem lexes_declaration : Lexes "@prefix".toList (.directive "prefix") where
  start := ⟨'@', "prefix".toList, rfl, by decide, by decide⟩
  token := by
    intro rest hrest
    cases hrest with
    | nil => rfl
    | cons hc rest => fin_cases hc <;> rfl

/-! ### Pieces -/

/-- A piece of a document: a text that gives a token. -/
structure Piece where
  written : List Char
  token : Token
  lexes : Lexes written token

/-- Pieces one after the other, each with the gap behind it. A gap may be empty where what follows
does not go on the piece. -/
inductive Laid : List Piece → List Char → Prop where
  | nil : Laid [] []
  | cons {p : Piece} {ps : List Piece} {gap s : List Char} (hgap : Gap gap) (h : Laid ps s)
      (hapart : Bounded (gap ++ s)) : Laid (p :: ps) (p.written ++ (gap ++ s))

/-- The token in front of a text. -/
theorem tokensFrom_of_lexes (hw : Lexes w t) (hgap : Gap gap) (hrest : Bounded rest) :
    tokensFrom (gap ++ (w ++ rest)) = (tokensFrom rest).map (t :: ·) := by
  have htoken := hw.token rest hrest
  obtain ⟨c, more, rfl, hspace, hhash⟩ := hw.start
  have hskip : skip (gap ++ (c :: more ++ rest)) = c :: (more ++ rest) := by
    rw [hgap.skip_append, List.cons_append, skip, skipFrom, if_neg (by decide),
      if_neg (by simp [hspace]), if_neg hhash]
  have hshorter : rest.length < (gap ++ (c :: more ++ rest)).length := by
    simp only [List.length_append, List.length_cons]
    omega
  rw [List.cons_append] at htoken
  rw [tokensFrom, hskip]
  dsimp only
  rw [htoken]
  dsimp only
  rw [if_pos hshorter]

/-- **Pieces give their tokens**, however they are laid out. -/
theorem tokensFrom_of_laid {ps : List Piece} (h : Laid ps s) (hgap : Gap gap) :
    tokensFrom (gap ++ s) = some (ps.map Piece.token) := by
  induction h generalizing gap with
  | nil =>
    rw [tokensFrom, hgap.skip_append]
    rfl
  | @cons p ps gap' s hgap' _ hapart ih =>
    rw [tokensFrom_of_lexes p.lexes hgap hapart, ih hgap']
    rfl

/-! ### Finding pieces -/

theorem gap_of_blanks (h : ∀ c ∈ gap, isSpace c = true) : Gap gap := by
  induction gap with
  | nil => exact .nil
  | cons c gap ih =>
    rw [List.forall_mem_cons] at h
    exact .blank h.1 (ih h.2)

/-- What is skipped in front of a token is a gap, or the rest of a comment and a gap. -/
theorem exists_gap_of_skipFrom (s : List Char) :
    (skipFrom false s ≠ [] → ∃ gap, Gap gap ∧ s = gap ++ skipFrom false s)
      ∧ (skipFrom true s ≠ [] → ∃ w e gap, (∀ c ∈ w, isLineEnd c = false) ∧ isLineEnd e = true
        ∧ Gap gap ∧ s = w ++ e :: (gap ++ skipFrom true s)) := by
  induction s with
  | nil => exact ⟨fun h => absurd rfl h, fun h => absurd rfl h⟩
  | cons c s ih =>
    rw [skipFrom, skipFrom, if_neg (by decide), if_pos rfl]
    constructor
    · intro h
      by_cases hspace : isSpace c = true
      · rw [if_pos hspace] at h ⊢
        obtain ⟨gap, hgap, hs⟩ := ih.1 h
        exact ⟨c :: gap, .blank hspace hgap, congrArg (c :: ·) hs⟩
      rw [if_neg hspace] at h ⊢
      by_cases hhash : c = '#'
      · rw [if_pos hhash] at h ⊢
        obtain ⟨w, e, gap, hw, he, hgap, hs⟩ := ih.2 h
        refine ⟨'#' :: (w ++ e :: gap), .comment hw he hgap, ?_⟩
        rw [hhash, List.cons_append, List.append_assoc, List.cons_append, ← hs]
      · rw [if_neg hhash]
        exact ⟨[], .nil, rfl⟩
    · intro h
      cases hend : isLineEnd c with
      | false =>
        rw [hend] at h
        obtain ⟨w, e, gap, hw, he, hgap, hs⟩ := ih.2 h
        exact ⟨c :: w, e, gap, List.forall_mem_cons.2 ⟨hend, hw⟩, he, hgap, congrArg (c :: ·) hs⟩
      | true =>
        rw [hend] at h
        obtain ⟨gap, hgap, hs⟩ := ih.1 h
        exact ⟨[], c, gap, nofun, hend, hgap, congrArg (c :: ·) hs⟩

/-- Whether pieces stand in a text, one after the other, with gaps behind them; the last gap is to
have no comments. -/
def stand : List Piece → List Char → Bool
  | [], s => s.isEmpty
  | p :: ps, s =>
    let rest := s.drop p.written.length
    p.written.isPrefixOf s && rest.head?.all (boundaries.contains ·)
      && (!(skip rest).isEmpty || rest.all isSpace) && stand ps (skip rest)

theorem laid_of_stand {ps : List Piece} (h : stand ps s = true) : Laid ps s := by
  induction ps generalizing s with
  | nil =>
    rw [List.isEmpty_iff.1 h]
    exact .nil
  | cons p ps ih =>
    rw [stand] at h
    simp only [Bool.and_eq_true] at h
    obtain ⟨⟨⟨hwritten, hboundary⟩, hgap⟩, hmore⟩ := h
    obtain ⟨rest, rfl⟩ := List.isPrefixOf_iff_prefix.1 hwritten
    rw [List.drop_left] at hboundary hgap hmore
    have hbounded : Bounded rest := by
      cases rest with
      | nil => exact .nil
      | cons c rest => exact .cons (List.contains_iff_mem.1 hboundary) rest
    obtain ⟨gap, hgap, hrest⟩ : ∃ gap, Gap gap ∧ rest = gap ++ skip rest := by
      rcases Bool.or_eq_true_iff.1 hgap with hnext | hblanks
      · have hne : skip rest ≠ [] := by simpa using hnext
        exact (exists_gap_of_skipFrom rest).1 hne
      · have hgap := gap_of_blanks (List.all_eq_true.1 hblanks)
        have hskip := hgap.skip_append []
        rw [List.append_nil] at hskip
        exact ⟨rest, hgap, by rw [hskip]; exact (List.append_nil rest).symm⟩
    rw [hrest] at hbounded ⊢
    exact .cons hgap (ih hmore) hbounded

end ConceptQuery.Turtle
