import ConceptQuery.Turtle.Name

/-!
# Names are read as the grammar has them

* `Turtle.LocalTail`, `Turtle.LocalName` — how local names are written, with their escapes, and what
  they are;
* `localName_plain` — letters and digits stand for themselves;
* `localRun_plain`, `localRun_dot`, `localRun_percent`, `localRun_escaped`, `localRun_stop` — one
  step;
* `localRun_of_tail`, `takeLocal_of_name` — a local name is read up to what cannot go on it.
-/

namespace ConceptQuery.Turtle

variable {w n rest : List Char}

/-- The rest of a local name as it is written, and what it is. A dot is not the last character; a
percent sign goes with two hexadecimal digits, which stay as they are. -/
inductive LocalTail : List Char → List Char → Prop where
  | nil : LocalTail [] []
  | plain {w n : List Char} {c : Char} (hc : isNameChar c = true ∨ c = ':') (hw : LocalTail w n) :
    LocalTail (c :: w) (c :: n)
  | dot {w n : List Char} (hw : LocalTail w n) (hmore : n ≠ []) : LocalTail ('.' :: w) ('.' :: n)
  | percent {w n : List Char} {a b : Char} (ha : isHexDigit a = true) (hb : isHexDigit b = true)
      (hw : LocalTail w n) : LocalTail ('%' :: a :: b :: w) ('%' :: a :: b :: n)
  | escaped {w n : List Char} {c : Char} (hc : isEscapable c = true) (hw : LocalTail w n) :
    LocalTail ('\\' :: c :: w) (c :: n)

/-- A local name as it is written, and what it is. It may be empty. -/
structure LocalName (w n : List Char) : Prop where
  tail : LocalTail w n
  start : ∀ c ∈ w.head?, isLocalStart c = true

/-- Letters, digits and hyphens stand for themselves. -/
theorem localName_plain (hw : w.all isNameChar = true)
    (hstart : w.head?.all isLocalStart = true) : LocalName w w where
  tail := by
    clear hstart
    induction w with
    | nil => exact .nil
    | cons c w ih =>
      rw [List.all_cons, Bool.and_eq_true] at hw
      exact .plain (.inl hw.1) (ih hw.2)
  start := (Option.all_eq_true _ _).1 hstart

/-! ### One step of a local name

The recursion looks two characters ahead, so its equations come from texts of that length. -/

theorem localRun_plain {c : Char} (h : (isNameChar c || decide (c = ':')) = true)
    (rest : List Char) : localRun (c :: rest) = (c :: (localRun rest).1, (localRun rest).2) := by
  match rest with
  | [] => exact if_pos h
  | [_] => exact if_pos h
  | _ :: _ :: _ => exact if_pos h

theorem localRun_dot (rest : List Char) : localRun ('.' :: rest) = match localRun rest with
    | ([], _) => ([], '.' :: rest)
    | (name, left) => ('.' :: name, left) := by
  have hplain : ¬ (isNameChar '.' || decide ('.' = ':')) = true := by decide
  match rest with
  | [] => rfl
  | [_] => exact (if_neg hplain).trans (if_pos rfl)
  | _ :: _ :: _ => exact (if_neg hplain).trans (if_pos rfl)

theorem localRun_percent {a b : Char} (ha : isHexDigit a = true) (hb : isHexDigit b = true)
    (rest : List Char) : localRun ('%' :: a :: b :: rest)
      = ('%' :: a :: b :: (localRun rest).1, (localRun rest).2) := by
  have hplain : ¬ (isNameChar '%' || decide ('%' = ':')) = true := by decide
  have hdot : '%' ≠ '.' := by decide
  have hhex : (isHexDigit a && isHexDigit b) = true := by rw [ha, hb, Bool.and_self]
  exact (if_neg hplain).trans ((if_neg hdot).trans ((if_pos rfl).trans (if_pos hhex)))

theorem localRun_escaped {c : Char} (hc : isEscapable c = true) (rest : List Char) :
    localRun ('\\' :: c :: rest) = (c :: (localRun rest).1, (localRun rest).2) := by
  have hplain : ¬ (isNameChar '\\' || decide ('\\' = ':')) = true := by decide
  have hdot : '\\' ≠ '.' := by decide
  have hpercent : '\\' ≠ '%' := by decide
  match rest with
  | [] =>
    exact (if_neg hplain).trans ((if_neg hdot).trans ((if_neg hpercent).trans
      ((if_pos rfl).trans (if_pos hc))))
  | _ :: _ =>
    exact (if_neg hplain).trans ((if_neg hdot).trans ((if_neg hpercent).trans
      ((if_pos rfl).trans (if_pos hc))))

/-- A character that begins nothing that a name may hold ends it. -/
theorem localRun_stop {c : Char} (hplain : isNameChar c = false)
    (hnot : c ∉ [':', '.', '%', '\\']) (rest : List Char) :
    localRun (c :: rest) = ([], c :: rest) := by
  simp only [List.mem_cons, List.not_mem_nil, or_false, not_or] at hnot
  obtain ⟨hcolon, hdot, hpercent, hbackslash⟩ := hnot
  have hgoes : ¬ (isNameChar c || decide (c = ':')) = true := by simp [hplain, hcolon]
  match rest with
  | [] =>
    exact (if_neg hgoes).trans ((if_neg hdot).trans ((if_neg hpercent).trans (if_neg hbackslash)))
  | [_] =>
    exact (if_neg hgoes).trans ((if_neg hdot).trans ((if_neg hpercent).trans (if_neg hbackslash)))
  | _ :: _ :: _ =>
    exact (if_neg hgoes).trans ((if_neg hdot).trans ((if_neg hpercent).trans (if_neg hbackslash)))

/-! ### Whole names -/

/-- **A local name is read** up to what cannot go on it. -/
theorem localRun_of_tail (h : LocalTail w n) (hrest : localRun rest = ([], rest)) :
    localRun (w ++ rest) = (n, rest) := by
  induction h with
  | nil => exact hrest
  | plain hc _ ih =>
    rw [List.cons_append, localRun_plain (by simpa using hc), ih]
  | dot _ hmore ih =>
    obtain ⟨d, n, rfl⟩ := List.exists_cons_of_ne_nil hmore
    rw [List.cons_append, localRun_dot, ih]
  | percent ha hb _ ih =>
    simp only [List.cons_append]
    rw [localRun_percent ha hb, ih]
  | escaped hc _ ih =>
    simp only [List.cons_append]
    rw [localRun_escaped hc, ih]

theorem takeLocal_of_name (h : LocalName w n) (hrest : localRun rest = ([], rest)) :
    takeLocal (w ++ rest) = (n, rest) := by
  have hrun := localRun_of_tail h.tail hrest
  cases w with
  | nil =>
    cases h.tail
    cases rest with
    | nil => rfl
    | cons c rest =>
      rw [List.nil_append, takeLocal, hrest]
      exact ite_self _
  | cons c w => rw [List.cons_append, takeLocal, if_pos (h.start c rfl), ← List.cons_append, hrun]

end ConceptQuery.Turtle
