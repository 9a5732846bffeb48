import ConceptQuery.Proofs.Json.Numbers
import ConceptQuery.Proofs.Json.Strings

/-!
# Texts are read as the grammar has them

* `StartsValue` — how a value begins;
* `Reads`, `reads` — what the grammar has is read, by induction on the number of steps;
* `Spells`, `spells` — what is read is in the grammar, by the same induction;
* `readUnmarked_eq_ok`, `readText_eq_ok` — whole texts.
-/

namespace ConceptQuery.Json

open Text

variable {limits : Limits} {depth : Option Nat} {s t b left : List Char} {v : Json}
  {fuel : Nat}

/-! ### Blanks -/

theorem isSpace_iff {c : Char} : isSpace c = true ↔ c = ' ' ∨ c = '\t' ∨ c = '\n' ∨ c = '\r' := by
  simp [isSpace, or_assoc]

theorem Blank.isSpace (h : Blank b) : ∀ c ∈ b, isSpace c = true :=
  fun c hc => isSpace_iff.2 (h c hc)

theorem skipSpace_append (hb : Blank b) (s : List Char) : skipSpace (b ++ s) = skipSpace s :=
  List.dropWhile_append_of_pos hb.isSpace

theorem skipSpace_cons {c : Char} (hc : isSpace c = false) (s : List Char) :
    skipSpace (c :: s) = c :: s := by
  rw [skipSpace, List.dropWhile_cons, hc]
  rfl

theorem blank_skipSpace (s : List Char) : ∃ b, Blank b ∧ s = b ++ skipSpace s := by
  refine ⟨s.takeWhile Json.isSpace, ?_, List.takeWhile_append_dropWhile.symm⟩
  intro c hc
  exact isSpace_iff.1 (List.mem_takeWhile_imp hc)

theorem Blank.append {b' : List Char} (hb : Blank b) (hb' : Blank b') : Blank (b ++ b') := by
  intro c hc
  exact (List.mem_append.1 hc).elim (hb c) (hb' c)

theorem ends_cons {c : Char} (h : c ∈ [' ', '\t', '\n', '\r', ',', ']', '\x7d']) (s : List Char) :
    Ends (c :: s) := by
  intro d hd
  obtain rfl := Option.some.inj hd
  simp only [List.mem_cons, List.not_mem_nil, or_false] at h
  rcases h with rfl | rfl | rfl | rfl | rfl | rfl | rfl <;> decide

theorem Ends.blank (hs : Ends s) (hb : Blank b) : Ends (b ++ s) := by
  cases b with
  | nil => exact hs
  | cons c b =>
    have hc := hb c List.mem_cons_self
    refine ends_cons ?_ _
    simp only [List.mem_cons]
    tauto

/-! ### How values begin -/

/-- How a value begins. -/
def StartsValue (c : Char) : Prop :=
  c ∈ ['"', '[', '\x7b', '-', 'n', 't', 'f', 'N', 'I'] ∨ c.isDigit = true

theorem NumberText.starts (h : NumberText limits t v) :
    ∃ c u, t = c :: u ∧ (c = '-' ∨ c.isDigit = true) := by
  have hstart (negative : Bool) {whole : List Char} (hwhole : WholePart whole) (s : List Char) :
      ∃ c u, minusText negative ++ (whole ++ s) = c :: u ∧ (c = '-' ∨ c.isDigit = true) := by
    obtain ⟨c, ds, rfl, hc⟩ := head_wholePart hwhole
    cases negative with
    | true => exact ⟨'-', _, rfl, .inl rfl⟩
    | false => exact ⟨c, _, rfl, .inr hc⟩
  cases h with
  | integer hwhole =>
    obtain ⟨c, u, heq, hc⟩ := hstart _ hwhole []
    rw [List.append_nil] at heq
    exact ⟨c, u, heq, hc⟩
  | float hwhole => exact hstart _ hwhole _

theorem ValueText.starts (h : ValueText limits depth t v) : ∃ c u, t = c :: u ∧ StartsValue c := by
  cases h with
  | literal h =>
    rw [literals_eq] at h
    simp only [List.mem_cons, Prod.mk.injEq, List.not_mem_nil, or_false] at h
    rcases h with ⟨rfl, -⟩ | ⟨rfl, -⟩ | ⟨rfl, -⟩ | ⟨rfl, -⟩ | ⟨rfl, -⟩ | ⟨rfl, -⟩ <;>
      exact ⟨_, _, rfl, .inl (by decide)⟩
  | number h =>
    obtain ⟨c, u, rfl, hc⟩ := h.starts
    refine ⟨c, u, rfl, ?_⟩
    rcases hc with rfl | hc
    · exact .inl (by decide)
    · exact .inr hc
  | string => exact ⟨'"', _, rfl, .inl (by decide)⟩
  | emptyArray => exact ⟨'[', _, rfl, .inl (by decide)⟩
  | array => exact ⟨'[', _, rfl, .inl (by decide)⟩
  | emptyObject => exact ⟨'\x7b', _, rfl, .inl (by decide)⟩
  | object => exact ⟨'\x7b', _, rfl, .inl (by decide)⟩

/-- No value begins with a character that is none of its own. -/
theorem StartsValue.ne {c d : Char} (h : StartsValue c)
    (hd : d ∈ [' ', '\t', '\n', '\r', ',', ':', ']', '\x7d', '\ufeff']) : c ≠ d := by
  rintro rfl
  simp only [List.mem_cons, List.not_mem_nil, or_false] at hd
  rcases hd with rfl | rfl | rfl | rfl | rfl | rfl | rfl | rfl | rfl <;>
    exact absurd h (by unfold StartsValue; decide)

theorem StartsValue.isSpace {c : Char} (h : StartsValue c) : isSpace c = false := by
  rw [← Bool.not_eq_true, isSpace_iff]
  rintro (rfl | rfl | rfl | rfl) <;> exact h.ne (by decide) rfl

theorem skipSpace_value (hb : Blank b) (h : ValueText limits depth t v) (s : List Char) :
    skipSpace (b ++ (t ++ s)) = t ++ s := by
  obtain ⟨c, u, rfl, hc⟩ := h.starts
  rw [skipSpace_append hb, List.cons_append, skipSpace_cons hc.isSpace]

/-! ### From the grammar to the reader -/

/-- What the grammar has is read in a number of steps. -/
structure Reads (limits : Limits) (fuel : Nat) : Prop where
  value : ∀ {depth t v}, ValueText limits depth t v → ∀ {s}, Ends s → 2 * t.length ≤ fuel →
    readValue limits fuel depth (t ++ s) = .ok (v, s)
  elements : ∀ {depth t vs}, ElementsText limits depth t vs → ∀ s, 2 * t.length + 1 ≤ fuel →
    readElements limits fuel depth (skipSpace (t ++ ']' :: s)) = .ok (vs, s)
  members : ∀ {depth t vs}, MembersText limits depth t vs → ∀ s, 2 * t.length + 1 ≤ fuel →
    readMembers limits fuel depth (skipSpace (t ++ '\x7d' :: s)) = .ok (vs, s)

/-- What begins neither a string nor a container is read as a literal or a number. -/
theorem readValue_scalar {c : Char} (hquote : c ≠ '"') (hbracket : c ≠ '[') (hbrace : c ≠ '\x7b')
    (s : List Char) : readValue limits (fuel + 1) depth (c :: s) = readScalar limits (c :: s) := by
  rw [readValue, readString?, accept?_eq_none.2 (by simpa using hquote),
    accept?_eq_none.2 (by simpa using hbracket), accept?_eq_none.2 (by simpa using hbrace)]
  rfl

theorem readString?_of_text {cs : List Char} (h : StringText t cs) (s : List Char) :
    readString? ('"' :: (t ++ '"' :: s)) = some (.ok (String.ofList cs, s)) := by
  rw [readString?, accept?_eq_some.2 rfl, Option.map_some, stringBody_of_text h]
  rfl

theorem readString?_of_ne {c : Char} (hquote : c ≠ '"') (s : List Char) :
    readString? (c :: s) = none := by
  rw [readString?, accept?_eq_none.2 (by simpa using hquote)]
  rfl

/-- The inside of a container is read if there is something in it. -/
theorem accept?_skipSpace_value {c : Char} (hb : Blank b) (h : ValueText limits depth t v)
    (hc : c ∈ [',', ':', ']', '\x7d']) (s : List Char) :
    accept? c (skipSpace (b ++ (t ++ s))) = none := by
  rw [skipSpace_value hb h]
  obtain ⟨d, u, rfl, hd⟩ := h.starts
  have hne : d ≠ c := hd.ne (by simp only [List.mem_cons] at hc ⊢; tauto)
  exact accept?_eq_none.2 (by simpa using hne)

theorem elementsText_split {vs : List Json} (h : ElementsText limits depth t vs) (s : List Char) :
    ∃ b u v w, Blank b ∧ ValueText limits depth u v ∧ t ++ s = b ++ (u ++ w) := by
  cases h with
  | @last _ b u b' v hb hv => exact ⟨b, u, v, b' ++ s, hb, hv, by simp⟩
  | @more _ b u b' s' v _ hb hv => exact ⟨b, u, v, b' ++ ',' :: (s' ++ s), hb, hv, by simp⟩

theorem membersText_split {vs : List (String × Json)} (h : MembersText limits depth t vs)
    (s : List Char) : ∃ b w, Blank b ∧ t ++ s = b ++ '"' :: w := by
  cases h with
  | @last _ b _ _ _ _ _ _ _ hb => exact ⟨b, _, hb, by rw [List.append_assoc, List.cons_append]⟩
  | @more _ b _ _ _ _ _ _ _ _ _ hb => exact ⟨b, _, hb, by rw [List.append_assoc, List.cons_append]⟩

theorem readValue_literal {word : List Char} (h : (word, v) ∈ literals) (s : List Char) :
    readValue limits (fuel + 1) depth (word ++ s) = .ok (v, s) := by
  rw [literals_eq] at h
  simp only [List.mem_cons, Prod.mk.injEq, List.not_mem_nil, or_false] at h
  rcases h with ⟨rfl, rfl⟩ | ⟨rfl, rfl⟩ | ⟨rfl, rfl⟩ | ⟨rfl, rfl⟩ | ⟨rfl, rfl⟩ | ⟨rfl, rfl⟩ <;> rfl

theorem readValue_number (h : NumberText limits t v) (hs : Ends s) :
    readValue limits (fuel + 1) depth (t ++ s) = .ok (v, s) := by
  have hread := readScalar_of_number h hs
  obtain ⟨c, u, rfl, hc⟩ := h.starts
  have hne {d : Char} (hminus : d ≠ '-') (hdigit : d.isDigit = false) : c ≠ d := by
    rintro rfl
    rcases hc with hc | hc
    · exact hminus hc
    · rw [hdigit] at hc
      cases hc
  rw [List.cons_append, readValue_scalar (hne (by decide) rfl) (hne (by decide) rfl)
    (hne (by decide) rfl)]
  exact hread

/-- What follows an opening bracket is read unless the nesting is too deep. -/
theorem readValue_bracket (hdepth : depth ≠ some 0) (s : List Char) :
    readValue limits (fuel + 1) depth ('[' :: s) = match accept? ']' (skipSpace s) with
      | some left => .ok (.array [], left)
      | none => (readElements limits fuel (depth.map (· - 1)) (skipSpace s)).map
        fun (items, left) => (.array items, left) := by
  rw [readValue, readString?_of_ne (by decide), accept?_eq_some.2 rfl]
  dsimp only
  exact if_neg hdepth

/-- What follows an opening brace is read unless the nesting is too deep. -/
theorem readValue_brace (hdepth : depth ≠ some 0) (s : List Char) :
    readValue limits (fuel + 1) depth ('\x7b' :: s) = match accept? '\x7d' (skipSpace s) with
      | some left => .ok (.object [], left)
      | none => (readMembers limits fuel (depth.map (· - 1)) (skipSpace s)).map
        fun (members, left) => (.object members, left) := by
  rw [readValue, readString?_of_ne (by decide), accept?_eq_none.2 (by simp),
    accept?_eq_some.2 rfl]
  dsimp only
  exact if_neg hdepth

theorem accept?_skipSpace_append {c : Char} (hb : Blank b) (hc : isSpace c = false)
    (s : List Char) : accept? c (skipSpace (b ++ c :: s)) = some s := by
  rw [skipSpace_append hb, skipSpace_cons hc]
  exact accept?_eq_some.2 rfl

/-- A value is read in one step more than the inside of a container. The cases are those of the
grammar. -/
theorem Reads.value_succ (ih : Reads limits fuel) (h : ValueText limits depth t v) (hs : Ends s)
    (hfuel : 2 * t.length ≤ fuel + 1) :
    readValue limits (fuel + 1) depth (t ++ s) = .ok (v, s) := by
  cases h with
  | literal h => exact readValue_literal h s
  | number h => exact readValue_number h hs
  | string h =>
    rw [List.cons_append, List.append_assoc, List.singleton_append, readValue,
      readString?_of_text h]
    rfl
  | emptyArray hdepth hb =>
    rw [List.cons_append, List.append_assoc, List.singleton_append, readValue_bracket hdepth,
      accept?_skipSpace_append hb rfl]
  | array hdepth h =>
    obtain ⟨b, u, v, w, hb, hv, hsplit⟩ := elementsText_split h (']' :: s)
    have hinside := ih.elements h s (by simp at hfuel; omega)
    rw [List.cons_append, List.append_assoc, List.singleton_append, readValue_bracket hdepth]
    rw [hsplit, accept?_skipSpace_value hb hv (by decide), ← hsplit, hinside]
    rfl
  | emptyObject hdepth hb =>
    rw [List.cons_append, List.append_assoc, List.singleton_append, readValue_brace hdepth,
      accept?_skipSpace_append hb rfl]
  | object hdepth h =>
    obtain ⟨b, w, hb, hsplit⟩ := membersText_split h ('\x7d' :: s)
    have hinside := ih.members h s (by simp at hfuel; omega)
    have hquote : accept? '\x7d' (skipSpace (b ++ '"' :: w)) = none := by
      rw [skipSpace_append hb, skipSpace_cons rfl]
      exact accept?_eq_none.2 (by simp)
    rw [List.cons_append, List.append_assoc, List.singleton_append, readValue_brace hdepth]
    rw [hsplit, hquote, ← hsplit, hinside]
    rfl

/-- The elements of an array are read in one step more than each of them. -/
theorem Reads.elements_succ (ih : Reads limits fuel) {vs : List Json}
    (h : ElementsText limits depth t vs) (s : List Char) (hfuel : 2 * t.length + 1 ≤ fuel + 1) :
    readElements limits (fuel + 1) depth (skipSpace (t ++ ']' :: s)) = .ok (vs, s) := by
  cases h with
  | @last _ b u b' v hb hv hb' =>
    have hends : Ends (b' ++ ']' :: s) := (ends_cons (by decide) s).blank hb'
    have hread := ih.value hv hends (by simp at hfuel; omega)
    rw [List.append_assoc, List.append_assoc, skipSpace_value hb hv, readElements, hread]
    dsimp only
    rw [accept?_skipSpace_append hb' rfl]
  | @more _ b u b' r v vs hb hv hb' hr =>
    have hends : Ends (b' ++ ',' :: (r ++ ']' :: s)) := (ends_cons (by decide) _).blank hb'
    have hread := ih.value hv hends (by simp at hfuel; omega)
    have hrest := ih.elements hr s (by simp at hfuel; omega)
    have hcomma : accept? ']' (skipSpace (b' ++ ',' :: (r ++ ']' :: s))) = none := by
      rw [skipSpace_append hb', skipSpace_cons rfl]
      exact accept?_eq_none.2 (by simp)
    rw [show b ++ (u ++ (b' ++ ',' :: r)) ++ ']' :: s = b ++ (u ++ (b' ++ ',' :: (r ++ ']' :: s)))
      by simp, skipSpace_value hb hv, readElements, hread]
    dsimp only
    rw [hcomma, accept?_skipSpace_append hb' rfl]
    dsimp only
    rw [hrest]
    rfl

/-- A name is read with the colon and the blanks behind it. -/
theorem readName_of_text {name cs b₁ b₂ : List Char} (hname : StringText name cs) (hb₁ : Blank b₁)
    (s : List Char) :
    readName ('"' :: (name ++ '"' :: (b₁ ++ ':' :: (b₂ ++ s))))
      = .ok (String.ofList cs, skipSpace (b₂ ++ s)) := by
  rw [readName, readString?_of_text hname]
  dsimp only
  rw [accept?_skipSpace_append hb₁ rfl]

/-- The members of an object are read in one step more than the value of each of them. -/
theorem Reads.members_succ (ih : Reads limits fuel) {vs : List (String × Json)}
    (h : MembersText limits depth t vs) (s : List Char) (hfuel : 2 * t.length + 1 ≤ fuel + 1) :
    readMembers limits (fuel + 1) depth (skipSpace (t ++ '\x7d' :: s)) = .ok (vs, s) := by
  cases h with
  | @last _ b name cs b₁ b₂ u b' v hb hname hb₁ hb₂ hv hb' =>
    have hends : Ends (b' ++ '\x7d' :: s) := (ends_cons (by decide) s).blank hb'
    have hread := ih.value hv hends (by simp at hfuel; omega)
    rw [show b ++ '"' :: (name ++ '"' :: (b₁ ++ ':' :: (b₂ ++ (u ++ b')))) ++ '\x7d' :: s
      = b ++ '"' :: (name ++ '"' :: (b₁ ++ ':' :: (b₂ ++ (u ++ (b' ++ '\x7d' :: s))))) by simp,
      skipSpace_append hb, skipSpace_cons rfl, readMembers, readName_of_text hname hb₁]
    dsimp only
    rw [skipSpace_value hb₂ hv, hread]
    dsimp only
    rw [accept?_skipSpace_append hb' rfl]
  | @more _ b name cs b₁ b₂ u b' r v vs hb hname hb₁ hb₂ hv hb' hr =>
    have hends : Ends (b' ++ ',' :: (r ++ '\x7d' :: s)) := (ends_cons (by decide) _).blank hb'
    have hread := ih.value hv hends (by simp at hfuel; omega)
    have hrest := ih.members hr s (by simp at hfuel; omega)
    have hcomma : accept? '\x7d' (skipSpace (b' ++ ',' :: (r ++ '\x7d' :: s))) = none := by
      rw [skipSpace_append hb', skipSpace_cons rfl]
      exact accept?_eq_none.2 (by simp)
    rw [show b ++ '"' :: (name ++ '"' :: (b₁ ++ ':' :: (b₂ ++ (u ++ (b' ++ ',' :: r)))))
          ++ '\x7d' :: s
        = b ++ '"' :: (name ++ '"'
          :: (b₁ ++ ':' :: (b₂ ++ (u ++ (b' ++ ',' :: (r ++ '\x7d' :: s))))))
      by simp, skipSpace_append hb, skipSpace_cons rfl, readMembers, readName_of_text hname hb₁]
    dsimp only
    rw [skipSpace_value hb₂ hv, hread]
    dsimp only
    rw [hcomma, accept?_skipSpace_append hb' rfl]
    dsimp only
    rw [hrest]
    rfl

/-- **What the grammar has is read** in twice as many steps as it has characters. -/
theorem reads (limits : Limits) (fuel : Nat) : Reads limits fuel := by
  induction fuel with
  | zero =>
    refine ⟨?_, ?_, ?_⟩
    · intro depth t v h s _ hfuel
      obtain ⟨c, u, rfl, -⟩ := h.starts
      simp at hfuel
    · intro depth t vs _ s hfuel
      omega
    · intro depth t vs _ s hfuel
      omega
  | succ fuel ih =>
    exact ⟨fun h _ hs hfuel => ih.value_succ h hs hfuel,
      fun h s hfuel => ih.elements_succ h s hfuel, fun h s hfuel => ih.members_succ h s hfuel⟩

/-! ### From the reader to the grammar -/

/-- What is read in a number of steps is in the grammar. -/
structure Spells (limits : Limits) (fuel : Nat) : Prop where
  value : ∀ {depth s v left}, readValue limits fuel depth s = .ok (v, left) →
    ∃ t, s = t ++ left ∧ ValueText limits depth t v
  elements : ∀ {depth s vs left}, readElements limits fuel depth s = .ok (vs, left) →
    ∃ t, s = t ++ ']' :: left ∧ ElementsText limits depth t vs
  members : ∀ {depth s vs left}, readMembers limits fuel depth s = .ok (vs, left) →
    ∃ t, s = t ++ '\x7d' :: left ∧ MembersText limits depth t vs

theorem ElementsText.blank {vs : List Json} (hb : Blank b) (h : ElementsText limits depth t vs) :
    ElementsText limits depth (b ++ t) vs := by
  cases h with
  | last hb' hv hb'' =>
    rw [← List.append_assoc]
    exact .last (hb.append hb') hv hb''
  | more hb' hv hb'' hs =>
    rw [← List.append_assoc]
    exact .more (hb.append hb') hv hb'' hs

theorem MembersText.blank {vs : List (String × Json)} (hb : Blank b)
    (h : MembersText limits depth t vs) : MembersText limits depth (b ++ t) vs := by
  cases h with
  | last hb' hname hb₁ hb₂ hv hb'' =>
    rw [← List.append_assoc]
    exact .last (hb.append hb') hname hb₁ hb₂ hv hb''
  | more hb' hname hb₁ hb₂ hv hb'' hs =>
    rw [← List.append_assoc]
    exact .more (hb.append hb') hname hb₁ hb₂ hv hb'' hs

theorem blank_nil : Blank [] := by
  intro c hc
  cases hc

/-- What is read as a string is one, with its quotes. -/
theorem text_of_readString? {name : String} (h : readString? s = some (.ok (name, left))) :
    ∃ t cs, s = '"' :: (t ++ '"' :: left) ∧ StringText t cs ∧ name = String.ofList cs := by
  obtain ⟨r, hquote, hread⟩ := Option.map_eq_some_iff.1 h
  obtain ⟨⟨cs, left'⟩, hbody, hpair⟩ := Except.map_eq_ok.1 hread
  obtain ⟨rfl, rfl⟩ := Prod.mk.inj hpair
  obtain ⟨t, rfl, ht⟩ := text_of_stringBody hbody
  exact ⟨t, cs, accept?_eq_some.1 hquote, ht, rfl⟩

/-- What is read as a literal or a number is one. -/
theorem text_of_readScalar (h : readScalar limits s = .ok (v, left)) :
    ∃ t, s = t ++ left ∧ ValueText limits depth t v := by
  unfold readScalar at h
  split at h
  · next found hfound =>
    obtain rfl := Except.ok.inj h
    obtain ⟨⟨word, value⟩, hmem, hword⟩ := List.exists_of_findSome?_eq_some hfound
    obtain ⟨r, hdrop, hpair⟩ := Option.map_eq_some_iff.1 hword
    obtain ⟨rfl, rfl⟩ := Prod.mk.inj hpair
    exact ⟨word, dropWord?_eq_some hdrop, .literal hmem⟩
  · split at h
    · next r hminus =>
      obtain ⟨t, ht, rfl⟩ := text_of_readNumber h
      exact ⟨'-' :: t, accept?_eq_some.1 hminus, .number ht⟩
    · obtain ⟨t, ht, hs⟩ := text_of_readNumber h
      exact ⟨t, hs, .number ht⟩

theorem Spells.value_succ (ih : Spells limits fuel)
    (h : readValue limits (fuel + 1) depth s = .ok (v, left)) :
    ∃ t, s = t ++ left ∧ ValueText limits depth t v := by
  rw [readValue] at h
  split at h
  · next r hstring =>
    obtain ⟨⟨text, left'⟩, rfl, hpair⟩ := Except.map_eq_ok.1 h
    obtain ⟨rfl, rfl⟩ := Prod.mk.inj hpair
    obtain ⟨t, cs, rfl, ht, rfl⟩ := text_of_readString? hstring
    exact ⟨'"' :: (t ++ ['"']), by simp, .string ht⟩
  · split at h
    · next r hbracket =>
      obtain rfl := accept?_eq_some.1 hbracket
      obtain ⟨b, hb, hr⟩ := blank_skipSpace r
      split at h
      · cases h
      · next hdepth =>
        split at h
        · next after hclose =>
          obtain ⟨rfl, rfl⟩ := Prod.mk.inj (Except.ok.inj h)
          rw [accept?_eq_some.1 hclose] at hr
          exact ⟨'[' :: (b ++ [']']), by simp [hr], .emptyArray hdepth hb⟩
        · obtain ⟨⟨items, left'⟩, hread, hpair⟩ := Except.map_eq_ok.1 h
          obtain ⟨rfl, rfl⟩ := Prod.mk.inj hpair
          obtain ⟨t, ht, helements⟩ := ih.elements hread
          rw [ht] at hr
          exact ⟨'[' :: (b ++ t ++ [']']), by simp [hr], .array hdepth (helements.blank hb)⟩
    · next r _ hbrace =>
      obtain rfl := accept?_eq_some.1 hbrace
      obtain ⟨b, hb, hr⟩ := blank_skipSpace r
      split at h
      · cases h
      · next hdepth =>
        split at h
        · next after hclose =>
          obtain ⟨rfl, rfl⟩ := Prod.mk.inj (Except.ok.inj h)
          rw [accept?_eq_some.1 hclose] at hr
          exact ⟨'\x7b' :: (b ++ ['\x7d']), by simp [hr], .emptyObject hdepth hb⟩
        · obtain ⟨⟨members, left'⟩, hread, hpair⟩ := Except.map_eq_ok.1 h
          obtain ⟨rfl, rfl⟩ := Prod.mk.inj hpair
          obtain ⟨t, ht, hmembers⟩ := ih.members hread
          rw [ht] at hr
          exact ⟨'\x7b' :: (b ++ t ++ ['\x7d']), by simp [hr], .object hdepth (hmembers.blank hb)⟩
    · exact text_of_readScalar h

theorem Spells.elements_succ (ih : Spells limits fuel) {vs : List Json}
    (h : readElements limits (fuel + 1) depth s = .ok (vs, left)) :
    ∃ t, s = t ++ ']' :: left ∧ ElementsText limits depth t vs := by
  rw [readElements] at h
  split at h
  · cases h
  · next value after hread =>
    obtain ⟨t, rfl, hvalue⟩ := ih.value hread
    obtain ⟨b, hb, hafter⟩ := blank_skipSpace after
    split at h
    · next left' hclose =>
      obtain ⟨rfl, rfl⟩ := Prod.mk.inj (Except.ok.inj h)
      rw [accept?_eq_some.1 hclose] at hafter
      exact ⟨[] ++ (t ++ b), by simp [hafter], .last blank_nil hvalue hb⟩
    · next left' _ hcomma =>
      rw [accept?_eq_some.1 hcomma] at hafter
      obtain ⟨b', hb', hrest⟩ := blank_skipSpace left'
      obtain ⟨⟨values, left''⟩, hread', hpair⟩ := Except.map_eq_ok.1 h
      obtain ⟨rfl, rfl⟩ := Prod.mk.inj hpair
      obtain ⟨t', ht', helements⟩ := ih.elements hread'
      rw [ht'] at hrest
      exact ⟨[] ++ (t ++ (b ++ ',' :: (b' ++ t'))), by simp [hafter, hrest],
        .more blank_nil hvalue hb (helements.blank hb')⟩
    · cases h

/-- What is read as a name is one, with the colon and the blanks behind it. -/
theorem text_of_readName {name : String} (h : readName s = .ok (name, left)) :
    ∃ t cs b₁ b₂, s = '"' :: (t ++ '"' :: (b₁ ++ ':' :: (b₂ ++ left))) ∧ StringText t cs
      ∧ Blank b₁ ∧ Blank b₂ ∧ name = String.ofList cs := by
  unfold readName at h
  split at h
  · cases h
  · cases h
  · next name' after hstring =>
    obtain ⟨t, cs, rfl, ht, rfl⟩ := text_of_readString? hstring
    obtain ⟨b₁, hb₁, hafter⟩ := blank_skipSpace after
    split at h
    · next left' hcolon =>
      obtain ⟨rfl, rfl⟩ := Prod.mk.inj (Except.ok.inj h)
      rw [accept?_eq_some.1 hcolon] at hafter
      obtain ⟨b₂, hb₂, hleft⟩ := blank_skipSpace left'
      exact ⟨t, cs, b₁, b₂, by rw [← hleft, ← hafter], ht, hb₁, hb₂, rfl⟩
    · cases h

theorem Spells.members_succ (ih : Spells limits fuel) {vs : List (String × Json)}
    (h : readMembers limits (fuel + 1) depth s = .ok (vs, left)) :
    ∃ t, s = t ++ '\x7d' :: left ∧ MembersText limits depth t vs := by
  rw [readMembers] at h
  split at h
  · cases h
  · next name afterName hname =>
    obtain ⟨t, cs, b₁, b₂, rfl, ht, hb₁, hb₂, rfl⟩ := text_of_readName hname
    split at h
    · cases h
    · next value after hread =>
      obtain ⟨u, rfl, hvalue⟩ := ih.value hread
      obtain ⟨b, hb, hafter⟩ := blank_skipSpace after
      split at h
      · next left' hclose =>
        obtain ⟨rfl, rfl⟩ := Prod.mk.inj (Except.ok.inj h)
        rw [accept?_eq_some.1 hclose] at hafter
        exact ⟨[] ++ '"' :: (t ++ '"' :: (b₁ ++ ':' :: (b₂ ++ (u ++ b)))), by simp [hafter],
          .last blank_nil ht hb₁ hb₂ hvalue hb⟩
      · next left' _ hcomma =>
        rw [accept?_eq_some.1 hcomma] at hafter
        obtain ⟨b', hb', hrest⟩ := blank_skipSpace left'
        obtain ⟨⟨values, left''⟩, hread', hpair⟩ := Except.map_eq_ok.1 h
        obtain ⟨rfl, rfl⟩ := Prod.mk.inj hpair
        obtain ⟨t', ht', hmembers⟩ := ih.members hread'
        rw [ht'] at hrest
        exact ⟨[] ++ '"' :: (t ++ '"' :: (b₁ ++ ':' :: (b₂ ++ (u ++ (b ++ ',' :: (b' ++ t')))))),
          by simp [hafter, hrest],
          .more blank_nil ht hb₁ hb₂ hvalue hb (hmembers.blank hb')⟩
      · cases h

/-- **What is read is in the grammar.** -/
theorem spells (limits : Limits) (fuel : Nat) : Spells limits fuel := by
  induction fuel with
  | zero =>
    refine ⟨?_, ?_, ?_⟩
    · intro depth s v left h
      rw [readValue] at h
      cases h
    · intro depth s vs left h
      rw [readElements] at h
      cases h
    · intro depth s vs left h
      rw [readMembers] at h
      cases h
  | succ fuel ih =>
    exact ⟨fun h => ih.value_succ h, fun h => ih.elements_succ h, fun h => ih.members_succ h⟩

/-! ### Whole texts -/

theorem ends_nil : Ends [] := by
  intro c hc
  cases hc

/-- **A text without a mark is read exactly if the grammar has it**, as what it spells. -/
theorem readUnmarked_eq_ok : readUnmarked limits s = .ok v ↔ TextOf limits s v := by
  constructor
  · intro h
    unfold readUnmarked at h
    split at h
    · cases h
    · next value left hread =>
      obtain ⟨b, hb, hs⟩ := blank_skipSpace s
      obtain ⟨t, ht, hvalue⟩ := (spells limits _).value hread
      obtain ⟨b', hb', hleft⟩ := blank_skipSpace left
      split at h
      · next hend =>
        obtain rfl := Except.ok.inj h
        rw [hend, List.append_nil] at hleft
        rw [ht, hleft] at hs
        exact ⟨b, t, b', hb, hb', hs, hvalue⟩
      · cases h
  · rintro ⟨b, t, b', hb, hb', rfl, h⟩
    have hends : Ends b' := by
      have hblank := ends_nil.blank hb'
      rwa [List.append_nil] at hblank
    have hfuel : 2 * t.length ≤ 2 * (b ++ (t ++ b')).length + 2 := by
      simp only [List.length_append]
      omega
    have hread := (reads limits (2 * (b ++ (t ++ b')).length + 2)).value h hends hfuel
    have hrest : skipSpace b' = [] := by
      have hskip := skipSpace_append hb' []
      rwa [List.append_nil] at hskip
    rw [readUnmarked, skipSpace_value hb h, hread]
    dsimp only
    rw [hrest]

/-- No text that the grammar has begins with a mark of byte order. -/
theorem TextOf.head?_ne (h : TextOf limits s v) : s.head? ≠ some '\ufeff' := by
  obtain ⟨b, t, b', hb, -, rfl, ht⟩ := h
  obtain ⟨c, u, rfl, hc⟩ := ht.starts
  cases b with
  | nil => exact fun heq => hc.ne (by decide) (Option.some.inj heq)
  | cons d b =>
    intro heq
    obtain rfl := Option.some.inj heq
    rcases hb _ List.mem_cons_self with h | h | h | h <;> cases h

/-- **A text is read exactly if the grammar has it**, as what it spells. -/
theorem readText_eq_ok : readText limits s = .ok v ↔ TextOf limits s v := by
  unfold readText
  split
  · next hmark =>
    constructor
    · intro h
      cases h
    · intro h
      exact absurd hmark h.head?_ne
  · exact readUnmarked_eq_ok

end ConceptQuery.Json
