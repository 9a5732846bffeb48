import ConceptQuery.Proofs.GraphQL.Token

/-!
# Lexing a text piece by piece

A text is cut into pieces, each of which gives its tokens whatever follows it.  Names, numbers and
strings ask for a boundary behind them: a character that cannot go on any of the three.

* `GraphQL.Lexes`, `GraphQL.LexesAtBoundary` — the tokens of a piece, before anything and before a
  boundary;
* `Lexes.append`, `LexesAtBoundary.append` — pieces one after the other;
* `lexes_punctuator`, `lexes_ignored`, `lexes_name`, `lexes_int`, `lexes_string` — the pieces.
-/

namespace ConceptQuery.GraphQL

open Text

/-- Whether a character ends every token before it. -/
def isBoundary (c : Char) : Bool :=
  !isNameContinue c && c ≠ '.' && c ≠ '"'

/-- A text that is empty or begins at a boundary. -/
def Bounded (s : List Char) : Prop :=
  ∀ c ∈ s.head?, isBoundary c = true

/-- A piece of text gives certain tokens, whatever follows it. -/
def Lexes (s : List Char) (ts : List Token) : Prop :=
  ∀ rest, tokenize (s ++ rest) = (tokenize rest).map (ts ++ ·)

/-- A piece of text gives certain tokens, if a boundary follows it. -/
def LexesAtBoundary (s : List Char) (ts : List Token) : Prop :=
  ∀ rest, Bounded rest → tokenize (s ++ rest) = (tokenize rest).map (ts ++ ·)

variable {s s' : List Char} {ts ts' : List Token}

/-! ### Pieces one after the other -/

theorem map_append_append {o : Option (List Token)} :
    (o.map (ts' ++ ·)).map (ts ++ ·) = o.map (ts ++ ts' ++ ·) := by
  cases o <;> simp

theorem lexes_nil : Lexes [] [] := by
  intro rest
  simp

theorem Lexes.atBoundary (h : Lexes s ts) : LexesAtBoundary s ts :=
  fun rest _ => h rest

theorem Lexes.append (h : Lexes s ts) (h' : Lexes s' ts') : Lexes (s ++ s') (ts ++ ts') := by
  intro rest
  rw [List.append_assoc, h, h', map_append_append]

theorem Lexes.appendAtBoundary (h : Lexes s ts) (h' : LexesAtBoundary s' ts') :
    LexesAtBoundary (s ++ s') (ts ++ ts') := by
  intro rest hr
  rw [List.append_assoc, h, h' rest hr, map_append_append]

/-- A piece that wants a boundary, before one that begins with it. -/
theorem LexesAtBoundary.append {c : Char} (h : LexesAtBoundary s ts) (h' : Lexes (c :: s') ts')
    (hc : isBoundary c = true) : Lexes (s ++ c :: s') (ts ++ ts') := by
  intro rest
  have hb : Bounded ((c :: s') ++ rest) := by
    intro d hd
    obtain rfl : c = d := by simpa using hd
    exact hc
  rw [List.append_assoc, h _ hb, h', map_append_append]

/-! ### Punctuators and what stands between tokens -/

theorem tokenize_ignored {c : Char} (h : isIgnored c = true) (rest : List Char) :
    tokenize (c :: rest) = tokenize rest := by
  rw [tokenize, if_pos h]

theorem tokenize_token {c : Char} {rest left : List Char} {t : Token}
    (hi : isIgnored c = false) (hc : c ≠ '#') (h : takeToken? c rest = some (t, left)) :
    tokenize (c :: rest) = (tokenize left).map ([t] ++ ·) := by
  rw [tokenize, if_neg (by simp [hi]), if_neg hc]
  split
  · next hn => rw [h] at hn; cases hn
  · next t' left' hs =>
    obtain ⟨rfl, rfl⟩ := Prod.mk.inj (Option.some.inj (h.symm.trans hs))
    rfl

theorem lexes_ignored (h : s.all isIgnored = true) : Lexes s [] := by
  intro rest
  induction s with
  | nil => exact lexes_nil rest
  | cons c s ih =>
    rw [List.all_cons, Bool.and_eq_true] at h
    rw [List.cons_append, tokenize_ignored h.1]
    exact ih h.2

theorem isIgnored_of_isPunctuator {c : Char} (h : isPunctuator c = true) :
    isIgnored c = false ∧ c ≠ '#' := by
  simp only [isPunctuator, List.contains_eq_mem, List.mem_cons, List.not_mem_nil, or_false,
    decide_eq_true_eq] at h
  rcases h with rfl | rfl | rfl | rfl | rfl | rfl | rfl | rfl | rfl | rfl | rfl | rfl | rfl <;>
    decide

theorem lexes_punctuator {c : Char} (h : isPunctuator c = true) :
    Lexes [c] [.punctuator c] := by
  intro rest
  obtain ⟨hi, hc⟩ := isIgnored_of_isPunctuator h
  have ht : takeToken? c rest = some (.punctuator c, rest) := by rw [takeToken?, if_pos h]
  exact tokenize_token hi hc ht

/-! ### Names -/

/-- The characters that are no part of a name: those between tokens, punctuators, quotes, signs and
the mark of a comment. -/
def specialChars : List Char :=
  [' ', '\t', '\n', '\r', ',', '\ufeff', '!', '$', '&', '(', ')', ':', '=', '@', '[', ']', '\x7b',
    '|', '\x7d', '"', '-', '#']

theorem not_special_of_isNameContinue {c : Char} (h : isNameContinue c = true) :
    c ∉ specialChars := by
  intro hc
  have hall : specialChars.all (!isNameContinue ·) = true := by decide
  have hnone := List.all_eq_true.1 hall c hc
  rw [h] at hnone
  cases hnone

theorem not_ignored_of_not_special {c : Char} (h : c ∉ specialChars) :
    isIgnored c = false ∧ isPunctuator c = false ∧ c ≠ '"' ∧ c ≠ '-' ∧ c ≠ '#' := by
  simp only [specialChars, List.mem_cons, not_or] at h
  simp [isIgnored, isPunctuator, h]

theorem takeWhile_append_of_bounded {p : Char → Bool} (hp : ∀ c, isBoundary c = true → p c = false)
    (h : ∀ c ∈ s, p c = true) (hb : Bounded s') :
    (s ++ s').takeWhile p = s ∧ (s ++ s').dropWhile p = s' := by
  rw [List.takeWhile_append_of_pos h, List.dropWhile_append_of_pos h]
  cases s' with
  | nil => simp
  | cons c s' =>
    have hc := hp c (hb c rfl)
    simp [hc]

theorem isNameContinue_of_isBoundary (c : Char) (h : isBoundary c = true) :
    isNameContinue c = false := by
  simp only [isBoundary, Bool.and_eq_true, Bool.not_eq_true'] at h
  exact h.1.1

/-- A field name is a letter or underscore with name characters behind it. -/
theorem isFieldName_iff {name : String} : Intent.isFieldName name = true ↔
    ∃ c rest, name.toList = c :: rest ∧ Intent.isNameStart c = true ∧
      ∀ d ∈ rest, isNameContinue d = true := by
  unfold Intent.isFieldName
  split
  · next h => simp [h]
  · next c rest h =>
    simp only [Bool.and_eq_true, List.all_eq_true, h, List.cons.injEq, isNameContinue]
    constructor
    · rintro ⟨hc, hr⟩
      exact ⟨c, rest, ⟨rfl, rfl⟩, hc, hr⟩
    · rintro ⟨c', rest', ⟨rfl, rfl⟩, hc, hr⟩
      exact ⟨hc, hr⟩

theorem lexes_name {name : String} (h : Intent.isFieldName name = true) :
    LexesAtBoundary name.toList [.name name] := by
  intro rest hb
  obtain ⟨c, cs, hn, hc, hcs⟩ := isFieldName_iff.1 h
  have hspecial := not_special_of_isNameContinue (c := c) (by simp [isNameContinue, hc])
  obtain ⟨hi, hp, -, -, hh⟩ := not_ignored_of_not_special hspecial
  obtain ⟨htake, hdrop⟩ := takeWhile_append_of_bounded isNameContinue_of_isBoundary hcs hb
  have ht : takeToken? c (cs ++ rest) = some (.name name, rest) := by
    rw [takeToken?, if_neg (by simp [hp]), if_pos hc, htake, hdrop, ← hn, String.ofList_toList]
  rw [hn]
  exact tokenize_token hi hh ht

/-! ### Numbers and strings -/

/-- The decimal digits of a number do not begin with a zero, unless the number is zero. -/
theorem head?_toDigits (n : Nat) (h : (Nat.toDigits 10 n).head? = some '0') : n = 0 := by
  induction n using Nat.strongRecOn with
  | _ n ih =>
    by_cases hn : n < 10
    · rw [Nat.toDigits_of_lt_base hn] at h
      have hall : ∀ n < 10, n.digitChar = '0' → n = 0 := by decide
      exact hall n hn (by simpa using h)
    · rw [Nat.toDigits_of_base_le (by decide) (Nat.le_of_not_lt hn), List.head?_append] at h
      cases hd : (Nat.toDigits 10 (n / 10)).head? with
      | none => exact absurd (List.head?_eq_none_iff.1 hd) Nat.toDigits_ne_nil
      | some c =>
        rw [hd] at h
        have hz := ih (n / 10) (by omega) (by rw [hd]; simpa using h)
        omega

theorem isDigit_of_isBoundary (c : Char) (h : isBoundary c = true) : c.isDigit = false := by
  have := isNameContinue_of_isBoundary c h
  simp only [isNameContinue, Bool.or_eq_false_iff] at this
  exact this.2

theorem isNameStart_of_isDigit {c : Char} (h : c.isDigit = true) :
    Intent.isNameStart c = false := by
  have hall : ∀ n < 58, (Char.ofNat n).isDigit = true →
      Intent.isNameStart (Char.ofNat n) = false := by decide
  have hlt : c.toNat < 58 := Nat.lt_succ_of_le (Char.isDigit_iff_toNat.1 h).2
  have hc := hall c.toNat hlt
  rw [Char.ofNat_toNat] at hc
  exact hc h

theorem wholeNumber?_toDigits (n : Nat) (hb : Bounded s) :
    wholeNumber? (Nat.toDigits 10 n ++ s) = some (n, s) := by
  have hdigit : ∀ c ∈ Nat.toDigits 10 n, c.isDigit = true :=
    fun c hc => Nat.isDigit_of_mem_toDigits (by decide) (by decide) hc
  obtain ⟨htake, hdrop⟩ := takeWhile_append_of_bounded isDigit_of_isBoundary hdigit hb
  have hzero : (Nat.toDigits 10 n).head? = some '0' → Nat.toDigits 10 n = ['0'] := by
    intro h
    rw [head?_toDigits n h, Nat.toDigits_zero]
  have hnext : s.head?.any spoilsNumber = false := by
    cases s with
    | nil => rfl
    | cons c s =>
      have hc := hb c rfl
      simp only [isBoundary, isNameContinue, Bool.and_eq_true, Bool.not_eq_true',
        Bool.or_eq_false_iff, decide_eq_true_eq] at hc
      simp [spoilsNumber, hc.1.1.1, hc.1.2]
  simp only [wholeNumber?, htake, hdrop, hnext, Bool.or_false]
  rw [if_neg, Nat.ofDigitChars_ten_toDigits]
  simpa using hzero

theorem lexes_nat (n : Nat) : LexesAtBoundary (Nat.toDigits 10 n) [.int n] := by
  intro rest hb
  have hw := wholeNumber?_toDigits n hb
  have hdigit : ∀ c ∈ Nat.toDigits 10 n, c.isDigit = true :=
    fun c hc => Nat.isDigit_of_mem_toDigits (by decide) (by decide) hc
  cases hds : Nat.toDigits 10 n with
  | nil => exact absurd hds Nat.toDigits_ne_nil
  | cons c cs =>
    rw [hds] at hw hdigit
    have hc := hdigit c List.mem_cons_self
    have hspecial := not_special_of_isNameContinue (c := c) (by simp [isNameContinue, hc])
    obtain ⟨hi, hp, hq, hm, hh⟩ := not_ignored_of_not_special hspecial
    have hstart := isNameStart_of_isDigit hc
    have ht : takeToken? c (cs ++ rest) = some (.int n, rest) := by
      rw [takeToken?, if_neg (by simp [hp]), if_neg (by simp [hstart]), if_neg hq, if_neg hm]
      rw [← List.cons_append, hw]
      rfl
    exact tokenize_token hi hh ht

theorem lexes_int (n : Int) : LexesAtBoundary (toString n).toList [.int n] := by
  rw [Int.toString_eq_repr, Int.repr_eq_if]
  split
  · next h =>
    have hl := lexes_nat n.toNat
    rw [Int.toNat_of_nonneg h] at hl
    simpa using hl
  · next h =>
    intro rest hb
    have hw := wholeNumber?_toDigits (-n).toNat hb
    have ht : takeToken? '-' (Nat.toDigits 10 (-n).toNat ++ rest) = some (.int n, rest) := by
      have hneg : -((-n).toNat : Int) = n := by omega
      have hstart : takeToken? '-' (Nat.toDigits 10 (-n).toNat ++ rest)
          = (wholeNumber? (Nat.toDigits 10 (-n).toNat ++ rest)).map
              fun read => (.int (-read.1), read.2) := rfl
      rw [hstart, hw]
      show some (Token.int (-((-n).toNat : Int)), rest) = _
      rw [hneg]
    rw [String.toList_append, Nat.toList_repr]
    exact tokenize_token (by decide) (by decide) ht

/-- **A quoted text is one token**, which holds exactly the text. -/
theorem lexes_string (text : String) : LexesAtBoundary (quote text).toList [.string text] := by
  intro rest hb
  have hrest : rest.head? ≠ some '"' := by
    intro h
    have := hb '"' h
    exact absurd this (by decide)
  have hq : (quote text).toList ++ rest = '"' :: ((escape text).toList ++ '"' :: rest) := by
    simp [quote]
  rw [hq]
  exact tokenize_token (by decide) (by decide) (takeToken?_quote text hrest)

end ConceptQuery.GraphQL
