import ConceptQuery.Proofs.GraphQL.Indentation
import ConceptQuery.Proofs.Text.Spelling

/-!
# What stands inside a GraphQL string

* `GraphQL.StringChar`, `GraphQL.StringText` — the ways to write a character inside a string, and
  what a whole inside says;
* `stringBody?_of_text` — what is written is read, whatever follows its closing quote;
* `stringText_escape` — escaped texts are insides of strings;
* `GraphQL.opensEscape`, `opensEscape_of_quote` — every quote in an escaped text is itself escaped;
* `escape_exact` — escaping is exact.
-/

namespace ConceptQuery.GraphQL

open Text

/-! ### The grammar of strings -/

/-- A character inside a string, and how it is written. -/
inductive StringChar : List Char → Char → Prop where
  | plain {c : Char} (hquote : c ≠ '"') (hbackslash : c ≠ '\\')
      (hcontrol : isRawControl c = false) : StringChar [c] c
  | short {d c : Char} (h : escapedChars.lookup d = some c) : StringChar ['\\', d] c
  | codePoint {h₁ h₂ h₃ h₄ c : Char} (h : escapedCodePoint? [h₁, h₂, h₃, h₄] = some c) :
    StringChar ['\\', 'u', h₁, h₂, h₃, h₄] c

/-- The inside of a string, and the text that it says. -/
abbrev StringText : List Char → List Char → Prop :=
  Spelled StringChar

variable {w s text after before : List Char} {c : Char}

/-! ### From the grammar to the reader -/

theorem stringBody?_short {d : Char} (h : escapedChars.lookup d = some c) (rest : List Char) :
    stringBody? ('\\' :: d :: rest) = withChar (some c) (stringBody? rest) := by
  have hd : d ≠ 'u' := by
    rintro rfl
    cases h
  rw [stringBody?.eq_def]
  simp only [Char.reduceEq, if_false, if_true]
  split
  · next heq => exact absurd (List.cons.inj heq).1 hd
  · next heq =>
    obtain ⟨rfl, rfl⟩ := List.cons.inj heq
    rw [h]
  · next heq => cases heq

/-- A written character is read, whatever follows it. -/
theorem stringBody?_of_char (h : StringChar w c) (rest : List Char) :
    stringBody? (w ++ rest) = withChar (some c) (stringBody? rest) := by
  cases h with
  | plain hquote hbackslash hcontrol => exact stringBody?_plain hquote hbackslash hcontrol rest
  | short h => exact stringBody?_short h rest
  | codePoint h =>
    rw [← h]
    rfl

theorem stringBody?_of_text (h : StringText w text) (rest : List Char) :
    stringBody? (w ++ '"' :: rest) = some (text, rest) := by
  induction h with
  | nil => exact stringBody?_quote rest
  | cons hw _ ih =>
    rw [List.append_assoc, stringBody?_of_char hw, ih]
    rfl

/-! ### Escaped texts -/

theorem stringChar_escapeChar (c : Char) : StringChar (escapeChar c) c := by
  unfold escapeChar
  split
  · subst_vars
    exact .short rfl
  next hquote =>
  split
  · subst_vars
    exact .short rfl
  next hbackslash =>
  split
  · subst_vars
    exact .short rfl
  split
  · subst_vars
    exact .short rfl
  split
  · subst_vars
    exact .short rfl
  split
  · subst_vars
    exact .short rfl
  split
  · subst_vars
    exact .short rfl
  split
  · next hlow =>
    have hcode := escapedCodePoint?_hex4 hlow
    rw [Char.ofNat_toNat] at hcode
    exact .codePoint hcode
  · next hlow => exact .plain hquote hbackslash (by simp [isRawControl, hlow])

theorem stringText_escape (s : List Char) : StringText (s.flatMap escapeChar) s :=
  spelled_flatMap stringChar_escapeChar s

/-! ### Escaped quotes -/

/-- Whether a text ends in a backslash that escapes what follows it: it is not escaped itself. -/
def opensEscape (s : List Char) : Bool :=
  s.foldl (fun escaping c => !escaping && c = '\\') false

/-- Behind a written character no escape is open. -/
theorem opensEscape_escapeChar (c : Char) (s : List Char) :
    opensEscape (escapeChar c ++ s) = opensEscape s := by
  have hclosed : (escapeChar c).foldl (fun escaping c => !escaping && c = '\\') false = false := by
    unfold escapeChar
    repeat
      split
      · rfl
    split
    · next hlow =>
      have hall : ∀ n < 0x20, ('\\' :: 'u' :: hex4 n).foldl
          (fun escaping c => !escaping && c = '\\') false = false := by decide
      exact hall _ hlow
    · next hbackslash _ _ _ _ _ _ => simpa using hbackslash
  rw [opensEscape, List.foldl_append, hclosed, opensEscape]

theorem eq_backslash_of_pair {d : Char} (h : ['\\', d] = before ++ '"' :: after) :
    before = ['\\'] := by
  match before with
  | [] => simp at h
  | [b] =>
    obtain ⟨rfl, -⟩ := List.cons.inj h
    rfl
  | _ :: _ :: _ => simp at h

/-- A quote inside a written character stands right behind its backslash. -/
theorem eq_backslash_of_escapeChar (h : escapeChar c = before ++ '"' :: after) :
    before = ['\\'] := by
  have hmem : '"' ∈ before ++ '"' :: after := List.mem_append_right _ List.mem_cons_self
  unfold escapeChar at h
  split at h
  · exact eq_backslash_of_pair h
  next hquote =>
  repeat
    split at h
    · exact eq_backslash_of_pair h
  split at h
  · next hlow =>
    have hall : ∀ n < 0x20, '"' ∉ '\\' :: 'u' :: hex4 n := by decide
    rw [← h] at hmem
    exact absurd hmem (hall _ hlow)
  · rw [← h, List.mem_singleton] at hmem
    exact absurd hmem.symm hquote

/-- **Every quote in an escaped text is escaped.** -/
theorem opensEscape_of_quote (h : s.flatMap escapeChar = before ++ '"' :: after) :
    opensEscape before = true := by
  induction s generalizing before with
  | nil => simp at h
  | cons c s ih =>
    rw [List.flatMap_cons, List.append_eq_append_iff] at h
    rcases h with ⟨more, rfl, hmore⟩ | ⟨more, hchar, hmore⟩
    · rw [opensEscape_escapeChar]
      exact ih hmore
    · cases more with
      | nil => exact absurd (congrArg List.head? hmore).symm (head?_escape s)
      | cons d more =>
        obtain ⟨rfl, -⟩ := List.cons.inj hmore
        rw [eq_backslash_of_escapeChar hchar]
        rfl

/-! ### Exactness -/

theorem escape_append (s t : String) : escape (s ++ t) = escape s ++ escape t := by
  apply String.toList_injective
  rw [String.toList_append, toList_escape, toList_escape, toList_escape, String.toList_append,
    List.flatMap_append]

/-- **Escaping is exact.** Whatever a text is, its escaped form has no control characters, and each
of its quotes is escaped. Between quotes, and before anything but a third quote, it is one string,
which ends at the quote that was added and says the text; in whatever way a string could begin
there, it is this one. Escaping puts texts together as they are put together, and never makes two of
them one. -/
theorem escape_exact (s : String) :
    (∀ c ∈ (escape s).toList, 0x20 ≤ c.toNat)
      ∧ (∀ before after, (escape s).toList = before ++ '"' :: after → opensEscape before = true)
      ∧ (∀ rest : List Char, rest.head? ≠ some '"' →
        takeToken? '"' ((escape s).toList ++ '"' :: rest) = some (.string s, rest))
      ∧ (∀ w text rest after, StringText w text
          ∧ (escape s).toList ++ '"' :: rest = w ++ '"' :: after
        ↔ w = (escape s).toList ∧ text = s.toList ∧ after = rest)
      ∧ (∀ t, escape (s ++ t) = escape s ++ escape t)
      ∧ ∀ t, escape s = escape t → s = t := by
  have hinside (t : String) : StringText (escape t).toList t.toList := by
    rw [toList_escape]
    exact stringText_escape t.toList
  refine ⟨?_, ?_, fun rest => takeToken?_quote s, ?_, escape_append s, ?_⟩
  · rw [toList_escape]
    exact List.forall_mem_flatMap.2 fun c _ => visible_escapeChar c
  · rw [toList_escape]
    exact fun before after => opensEscape_of_quote
  · intro w text rest after
    constructor
    · rintro ⟨htext, hsame⟩
      obtain ⟨hw, hs, hafter⟩ := (hinside s).ending_unique stringBody?_of_text htext hsame
      exact ⟨hw.symm, hs.symm, hafter.symm⟩
    · rintro ⟨rfl, rfl, rfl⟩
      exact ⟨hinside s, rfl⟩
  · intro t hsame
    have htext := hinside t
    rw [← hsame] at htext
    have hclosed : (escape s).toList ++ ['"'] = (escape s).toList ++ ['"'] := rfl
    exact String.toList_injective ((hinside s).ending_unique stringBody?_of_text htext hclosed).2.1

/-- A text that looks escaped already, with a control character, before a text that begins with an
escaped quote. -/
theorem escape_exact_lookalike :
    let s := "\\\"\\u0041\x01\\"
    let rest := ['\\', '"', ')']
    rest.head? ≠ some '"' ∧ escape s = "\\\\\\\"\\\\u0041\\u0001\\\\"
      ∧ takeToken? '"' ((escape s).toList ++ '"' :: rest) = some (.string s, rest) :=
  ⟨by decide, by decide, (escape_exact _).2.2.1 _ (by decide)⟩

end ConceptQuery.GraphQL
