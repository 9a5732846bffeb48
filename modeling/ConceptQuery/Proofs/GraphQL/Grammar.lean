import ConceptQuery.GraphQL.Document
import ConceptQuery.Proofs.GraphQL.Token

/-!
# The grammar of GraphQL queries

A reader of executable documents that consist of one anonymous query: selection sets, fields with
arguments, and values.  Aliases, directives, fragments, variables, lists, truth values and null
are not read; a text that has them is refused.  Every reader takes at least one token, so the
number of tokens bounds its recursion.

* `GraphQL.readValue`, `GraphQL.readArguments`, `GraphQL.readSelections` — the parts of a document;
* `GraphQL.readDocument`, `GraphQL.read` — a document from tokens and from a text;
* `GraphQL.Value.tokens`, `GraphQL.Selection.tokens` — the tokens that spell a tree;
* `GraphQL.Value.WellNamed`, `GraphQL.Selection.WellNamed` — what the grammar asks of the names in
  a tree;
* `readDocument_tokens` — the tokens of a tree are read as this tree.
-/

namespace ConceptQuery.GraphQL

/-! ### Readers -/

/-- The names that are values of other kinds than enumerations. -/
def reservedNames : List String := ["true", "false", "null"]

mutual

/-- A value at the front of the tokens, and the tokens behind it. -/
def readValue : (fuel : Nat) → List Token → Option (Value Int × List Token)
  | _, .string text :: rest => some (.string text, rest)
  | _, .int number :: rest => some (.int number, rest)
  | _, .name name :: rest =>
    if reservedNames.contains name then none else some (.enum name, rest)
  | fuel + 1, .punctuator '\x7b' :: rest => do
    let (fields, left) ← readFields fuel rest
    return (.object fields, left)
  | _, _ => none

/-- The fields of an input object up to its closing brace. -/
def readFields : (fuel : Nat) → List Token → Option (List (String × Value Int) × List Token)
  | _, .punctuator '\x7d' :: rest => some ([], rest)
  | fuel + 1, .name key :: .punctuator ':' :: rest => do
    let (value, left) ← readValue fuel rest
    let (fields, left) ← readFields fuel left
    return ((key, value) :: fields, left)
  | _, _ => none

end

/-- One argument. -/
def readArgument (ts : List Token) : Option (Argument Int × List Token) :=
  match ts with
  | .name name :: .punctuator ':' :: rest => do
    let (value, left) ← readValue rest.length rest
    return (⟨name, value⟩, left)
  | _ => none

/-- At least one argument, up to the closing parenthesis. -/
def readArguments : (fuel : Nat) → List Token → Option (List (Argument Int) × List Token)
  | 0, _ => none
  | fuel + 1, ts => do
    let (a, rest) ← readArgument ts
    match rest with
    | .punctuator ')' :: left => return ([a], left)
    | _ =>
      let (more, left) ← readArguments fuel rest
      return (a :: more, left)

/-- The arguments of a field, if it has any. -/
def readArgumentList (ts : List Token) : Option (List (Argument Int) × List Token) :=
  match ts with
  | .punctuator '(' :: rest => readArguments rest.length rest
  | _ => some ([], ts)

mutual

/-- A field with its arguments and its selection set, if it has any. -/
def readSelection : (fuel : Nat) → List Token → Option (Selection Int × List Token)
  | fuel + 1, .name name :: ts => do
    let (arguments, rest) ← readArgumentList ts
    match rest with
    | .punctuator '\x7b' :: body =>
      let (children, left) ← readSelections fuel body
      return (.field name arguments children, left)
    | _ => return (.field name arguments [], rest)
  | _, _ => none

/-- At least one selection, up to the closing brace. -/
def readSelections : (fuel : Nat) → List Token → Option (List (Selection Int) × List Token)
  | 0, _ => none
  | fuel + 1, ts => do
    let (s, rest) ← readSelection fuel ts
    match rest with
    | .punctuator '\x7d' :: left => return ([s], left)
    | _ =>
      let (more, left) ← readSelections fuel rest
      return (s :: more, left)

end

/-- A document that is one anonymous query; its keyword may be left out. -/
def readDocument (ts : List Token) : Option (List (Selection Int)) :=
  match ts with
  | .name "query" :: .punctuator '\x7b' :: rest | .punctuator '\x7b' :: rest =>
    match readSelections rest.length rest with
    | some (selections, []) => some selections
    | _ => none
  | _ => none

/-- The query that a text is, if it is one anonymous query and nothing else. -/
def read (text : String) : Option (List (Selection Int)) :=
  (tokenize text.toList).bind readDocument

/-! ### Spelling trees by tokens -/

mutual

/-- The tokens of a value. -/
def Value.tokens : Value Int → List Token
  | .string text => [.string text]
  | .int number => [.int number]
  | .enum name => [.name name]
  | .object fields => .punctuator '\x7b' :: (fieldTokens fields ++ [.punctuator '\x7d'])

/-- The tokens of the fields of an input object. -/
def fieldTokens : List (String × Value Int) → List Token
  | [] => []
  | (key, value) :: rest =>
    .name key :: .punctuator ':' :: (value.tokens ++ fieldTokens rest)

end

/-- The tokens of an argument. -/
def Argument.tokens (a : Argument Int) : List Token :=
  .name a.name :: .punctuator ':' :: a.value.tokens

/-- The tokens of a field name with its arguments. -/
def headTokens (name : String) (arguments : List (Argument Int)) : List Token :=
  .name name :: if arguments.isEmpty then []
    else .punctuator '(' :: (arguments.flatMap Argument.tokens ++ [.punctuator ')'])

mutual

/-- The tokens of a selection. -/
def Selection.tokens : Selection Int → List Token
  | .field name arguments children =>
    headTokens name arguments ++ if children.isEmpty then []
      else .punctuator '\x7b' :: (tokensAll children ++ [.punctuator '\x7d'])

/-- The tokens of a list of selections. -/
def tokensAll : List (Selection Int) → List Token
  | [] => []
  | s :: rest => s.tokens ++ tokensAll rest

end

/-! ### Names that the grammar allows -/

mutual

/-- Keys are names, and so are enumeration values, other than the reserved ones. -/
def Value.WellNamed : Value Int → Prop
  | .string _ => True
  | .int _ => True
  | .enum name => Intent.isFieldName name = true ∧ name ∉ reservedNames
  | .object fields => FieldsWellNamed fields

/-- The same for the fields of an input object. -/
def FieldsWellNamed : List (String × Value Int) → Prop
  | [] => True
  | (key, value) :: rest =>
    Intent.isFieldName key = true ∧ value.WellNamed ∧ FieldsWellNamed rest

end

/-- An argument with names that the grammar allows. -/
def Argument.WellNamed (a : Argument Int) : Prop :=
  Intent.isFieldName a.name = true ∧ a.value.WellNamed

mutual

/-- A selection with names that the grammar allows, its own and those below it. -/
def Selection.WellNamed : Selection Int → Prop
  | .field name arguments children =>
    Intent.isFieldName name = true ∧ (∀ a ∈ arguments, a.WellNamed) ∧ AllWellNamed children

/-- The same for a list of selections. -/
def AllWellNamed : List (Selection Int) → Prop
  | [] => True
  | s :: rest => s.WellNamed ∧ AllWellNamed rest

end

theorem tokensAll_append (ss ss' : List (Selection Int)) :
    tokensAll (ss ++ ss') = tokensAll ss ++ tokensAll ss' := by
  induction ss with
  | nil => rfl
  | cons s ss ih => rw [List.cons_append, tokensAll, ih, tokensAll, List.append_assoc]

theorem allWellNamed_append {ss ss' : List (Selection Int)} :
    AllWellNamed (ss ++ ss') ↔ AllWellNamed ss ∧ AllWellNamed ss' := by
  induction ss with
  | nil => simp [AllWellNamed]
  | cons s ss ih => rw [List.cons_append, AllWellNamed, ih, AllWellNamed, and_assoc]

/-! ### The tokens of a tree are read as this tree -/

mutual

theorem readValue_tokens : ∀ (v : Value Int) (fuel : Nat) (rest : List Token),
    v.WellNamed → v.tokens.length ≤ fuel → readValue fuel (v.tokens ++ rest) = some (v, rest)
  | .string text, fuel, rest, _, _ => by simp [Value.tokens, readValue]
  | .int number, fuel, rest, _, _ => by simp [Value.tokens, readValue]
  | .enum name, fuel, rest, hv, _ => by
    have hname := hv.2
    simp [Value.tokens, readValue, hname]
  | .object fields, 0, rest, _, hf => by simp [Value.tokens] at hf
  | .object fields, fuel + 1, rest, hv, hf => by
    simp only [Value.tokens, List.length_cons, List.length_append] at hf
    have hread := readFields_tokens fields fuel rest hv (by simpa using hf)
    simp only [Value.tokens, List.cons_append, List.append_assoc, List.nil_append, readValue]
    rw [hread]
    rfl

theorem readFields_tokens : ∀ (fields : List (String × Value Int)) (fuel : Nat) (rest : List Token),
    FieldsWellNamed fields → (fieldTokens fields).length + 1 ≤ fuel →
    readFields fuel (fieldTokens fields ++ .punctuator '\x7d' :: rest) = some (fields, rest)
  | [], fuel, rest, _, _ => by simp [fieldTokens, readFields]
  | (key, value) :: fields, 0, rest, _, hf => by simp at hf
  | (key, value) :: fields, fuel + 1, rest, hv, hf => by
    simp only [fieldTokens, List.length_cons, List.length_append] at hf
    have hvalue := readValue_tokens value fuel (fieldTokens fields ++ .punctuator '\x7d' :: rest)
      hv.2.1 (by omega)
    have hfields := readFields_tokens fields fuel rest hv.2.2 (by omega)
    simp only [fieldTokens, List.cons_append, List.append_assoc, readFields]
    rw [hvalue]
    show (do
      let (fields, left) ← readFields fuel (fieldTokens fields ++ Token.punctuator '\x7d' :: rest)
      return ((key, value) :: fields, left)) = _
    rw [hfields]
    rfl

end

theorem readArgument_tokens (a : Argument Int) (rest : List Token) (ha : a.WellNamed) :
    readArgument (a.tokens ++ rest) = some (a, rest) := by
  have hvalue := readValue_tokens a.value (a.value.tokens ++ rest).length rest ha.2 (by simp)
  simp only [Argument.tokens, List.cons_append, readArgument]
  rw [hvalue]
  rfl

theorem readArguments_tokens (arguments : List (Argument Int)) (fuel : Nat) (rest : List Token)
    (hne : arguments ≠ []) (ha : ∀ a ∈ arguments, a.WellNamed) (hf : arguments.length ≤ fuel) :
    readArguments fuel (arguments.flatMap Argument.tokens ++ .punctuator ')' :: rest)
      = some (arguments, rest) := by
  induction arguments generalizing fuel with
  | nil => exact absurd rfl hne
  | cons a more ih =>
    cases fuel with
    | zero => simp at hf
    | succ fuel =>
      have hfirst := readArgument_tokens a
        (more.flatMap Argument.tokens ++ .punctuator ')' :: rest) (ha a List.mem_cons_self)
      rw [List.flatMap_cons, List.append_assoc, readArguments, hfirst]
      cases more with
      | nil => rfl
      | cons b more =>
        have hmore := ih fuel (by simp) (fun c hc => ha c (List.mem_cons_of_mem a hc))
          (by simpa using hf)
        show (do
          let (more, left) ← readArguments fuel
            ((b :: more).flatMap Argument.tokens ++ Token.punctuator ')' :: rest)
          return (a :: more, left)) = _
        rw [hmore]
        rfl

theorem length_le_length_tokens (arguments : List (Argument Int)) :
    arguments.length ≤ (arguments.flatMap Argument.tokens).length := by
  induction arguments with
  | nil => exact Nat.le_refl _
  | cons a more ih =>
    simp only [List.flatMap_cons, List.length_append, List.length_cons, Argument.tokens]
    omega

/-- What follows a field name without arguments: no parenthesis. -/
def NoArguments (ts : List Token) : Prop :=
  ts.head? ≠ some (.punctuator '(')

theorem readArgumentList_tokens (name : String) (arguments : List (Argument Int))
    (rest : List Token) (ha : ∀ a ∈ arguments, a.WellNamed) (hrest : NoArguments rest) :
    readArgumentList ((headTokens name arguments).tail ++ rest) = some (arguments, rest) := by
  cases arguments with
  | nil =>
    simp only [headTokens, List.isEmpty_nil, if_true, List.tail_cons, List.nil_append]
    unfold readArgumentList
    split
    · next left => exact absurd rfl hrest
    · rfl
  | cons a more =>
    have hread := readArguments_tokens (a :: more)
      ((a :: more).flatMap Argument.tokens ++ .punctuator ')' :: rest).length rest (by simp) ha
      (by
        have := length_le_length_tokens (a :: more)
        rw [List.length_append]
        omega)
    simp only [headTokens, List.isEmpty_cons, Bool.false_eq_true, if_false, List.tail_cons,
      List.cons_append, List.append_assoc, List.nil_append, readArgumentList]
    exact hread

theorem headTokens_eq_cons (name : String) (arguments : List (Argument Int)) :
    headTokens name arguments = .name name :: (headTokens name arguments).tail := rfl

/-- A selection begins with its name. -/
theorem Selection.tokens_eq_cons (s : Selection Int) :
    ∃ name more, s.tokens = .name name :: more := by
  cases s with
  | field name arguments children =>
    exact ⟨name, (headTokens name arguments).tail ++ _, rfl⟩

mutual

theorem readSelection_tokens : ∀ (s : Selection Int) (fuel : Nat) (rest : List Token),
    s.WellNamed → NoArguments rest → rest.head? ≠ some (.punctuator '\x7b') →
    s.tokens.length ≤ fuel → readSelection fuel (s.tokens ++ rest) = some (s, rest)
  | .field name arguments children, 0, rest, _, _, _, hf => by
    simp [Selection.tokens, headTokens] at hf
  | .field name arguments [], fuel + 1, rest, hs, hno, hbrace, _ => by
    have hargs := readArgumentList_tokens name arguments rest hs.2.1 hno
    simp only [Selection.tokens, List.isEmpty_nil, if_true, List.append_nil]
    rw [headTokens_eq_cons, List.cons_append, readSelection, hargs]
    cases rest with
    | nil => rfl
    | cons t rest =>
      show (match t :: rest with
        | .punctuator '\x7b' :: body => do
          let (children, left) ← readSelections fuel body
          return (Selection.field name arguments children, left)
        | _ => return (.field name arguments [], t :: rest)) = _
      split
      · next heq =>
        obtain ⟨rfl, -⟩ := List.cons.inj heq
        exact absurd rfl hbrace
      · rfl
  | .field name arguments (c :: cs), fuel + 1, rest, hs, hno, hbrace, hf => by
    have hargs := readArgumentList_tokens name arguments
      (.punctuator '\x7b' :: (tokensAll (c :: cs) ++ .punctuator '\x7d' :: rest)) hs.2.1
      (by simp [NoArguments])
    have hread := readSelections_tokens (c :: cs) fuel rest (by simp) hs.2.2 (by
      simp only [Selection.tokens, headTokens, List.isEmpty_cons, Bool.false_eq_true, if_false,
        List.length_cons, List.length_append] at hf
      omega)
    simp only [Selection.tokens, List.isEmpty_cons, Bool.false_eq_true, if_false]
    rw [headTokens_eq_cons]
    simp only [List.cons_append, List.append_assoc, List.nil_append]
    rw [readSelection, hargs]
    show (do
      let (children, left) ← readSelections fuel
        (tokensAll (c :: cs) ++ Token.punctuator '\x7d' :: rest)
      return (Selection.field name arguments children, left)) = _
    rw [hread]
    rfl

theorem readSelections_tokens : ∀ (ss : List (Selection Int)) (fuel : Nat) (rest : List Token),
    ss ≠ [] → AllWellNamed ss → (tokensAll ss).length + 1 ≤ fuel →
    readSelections fuel (tokensAll ss ++ .punctuator '\x7d' :: rest) = some (ss, rest)
  | [], _, _, hne, _, _ => absurd rfl hne
  | s :: ss, 0, rest, _, _, hf => by simp at hf
  | [s], fuel + 1, rest, _, hs, hf => by
    have hread := readSelection_tokens s fuel (.punctuator '\x7d' :: rest) hs.1
      (by simp [NoArguments]) (by simp) (by simpa [tokensAll] using hf)
    simp only [tokensAll, List.append_nil, readSelections]
    rw [hread]
    rfl
  | s :: t :: ss, fuel + 1, rest, _, hs, hf => by
    obtain ⟨name, more, ht⟩ := t.tokens_eq_cons
    have hread := readSelection_tokens s fuel
      (tokensAll (t :: ss) ++ .punctuator '\x7d' :: rest) hs.1
      (by simp [NoArguments, tokensAll, ht]) (by simp [tokensAll, ht]) (by
        simp only [tokensAll, List.length_append] at hf
        omega)
    have hpos : 0 < s.tokens.length := by
      obtain ⟨_, _, hs⟩ := s.tokens_eq_cons
      simp [hs]
    have hmore := readSelections_tokens (t :: ss) fuel rest (by simp) hs.2 (by
      rw [tokensAll, List.length_append] at hf
      omega)
    rw [tokensAll, List.append_assoc, readSelections, hread]
    have hnext : tokensAll (t :: ss) ++ Token.punctuator '\x7d' :: rest
        = .name name :: (more ++ (tokensAll ss ++ .punctuator '\x7d' :: rest)) := by
      simp [tokensAll, ht]
    rw [hnext] at hmore ⊢
    show (do
      let (more, left) ← readSelections fuel
        (Token.name name :: (more ++ (tokensAll ss ++ Token.punctuator '\x7d' :: rest)))
      return (s :: more, left)) = _
    rw [hmore]
    rfl

end

/-- **A query is read back from its tokens.** -/
theorem readDocument_tokens (ss : List (Selection Int)) (hne : ss ≠ []) (hs : AllWellNamed ss) :
    readDocument (.name "query" :: .punctuator '\x7b' :: (tokensAll ss ++ [.punctuator '\x7d']))
      = some ss := by
  have hread :=
    readSelections_tokens ss (tokensAll ss ++ [Token.punctuator '\x7d']).length [] hne hs
    (by simp)
  simp only [readDocument]
  rw [hread]

end ConceptQuery.GraphQL
