import ConceptQuery.GraphQL.Layout
import ConceptQuery.Proofs.GraphQL.Grammar
import ConceptQuery.Proofs.GraphQL.Lexing

/-!
# Rendered queries are read back

The text of a query gives the tokens of its selections, with the unnamed ones replaced by their
children, and these tokens are read as just that tree.

* `GraphQL.Selection.Renderable` — a selection whose text is a query: its names are names, and
  braces are never left empty;
* `lexes_value`, `lexes_head`, `lexes_lines` — the tokens of values, heads and lines;
* `read_render` — a rendered query is read as its spliced selections.
-/

namespace ConceptQuery.GraphQL

/-! ### Values and arguments -/

variable {s s' : List Char} {ts ts' : List Token}

/-- Two pieces with a comma between them. -/
theorem LexesAtBoundary.comma (h : LexesAtBoundary s ts) (h' : LexesAtBoundary s' ts') :
    LexesAtBoundary (s ++ ", ".toList ++ s') (ts ++ ts') := by
  have hcomma : Lexes (',' :: [' ']) [] := lexes_ignored (by decide)
  have hleft := h.append hcomma (by decide)
  have hboth := hleft.appendAtBoundary h'
  rwa [List.append_nil] at hboth

/-- A name, a colon and what they give a value to. -/
theorem lexes_named {name : String} (hn : Intent.isFieldName name = true)
    (h : LexesAtBoundary s ts) :
    LexesAtBoundary (name.toList ++ ": ".toList ++ s) (.name name :: .punctuator ':' :: ts) := by
  have hblank : Lexes [' '] [] := lexes_ignored (by decide)
  have hcolon : Lexes (':' :: [' ']) [.punctuator ':'] :=
    (lexes_punctuator (by decide)).append hblank
  exact ((lexes_name hn).append hcolon (by decide)).appendAtBoundary h

mutual

theorem lexes_value : ∀ v : Value Int, v.WellNamed → LexesAtBoundary v.render.toList v.tokens
  | .string text, _ => by
    rw [Value.render]
    exact lexes_string text
  | .int number, _ => by
    rw [Value.render]
    exact lexes_int number
  | .enum name, hv => by
    rw [Value.render]
    exact lexes_name hv.1
  | .object fields, hv => by
    have hfields := lexes_fields fields hv
    have hopen : Lexes ['\x7b', ' '] [.punctuator '\x7b'] :=
      (lexes_punctuator (by decide)).append (lexes_ignored (s := [' ']) (by decide))
    have hclose : Lexes (' ' :: ['\x7d']) [.punctuator '\x7d'] :=
      (lexes_ignored (s := [' ']) (by decide)).append (lexes_punctuator (by decide))
    have hbody := hopen.append (hfields.append hclose (by decide))
    simp only [Value.render, Value.tokens, String.toList_append, List.append_assoc]
    exact hbody.atBoundary

theorem lexes_fields : ∀ fields : List (String × Value Int), FieldsWellNamed fields →
    LexesAtBoundary (", ".intercalate (renderFields fields)).toList (fieldTokens fields)
  | [], _ => by
    simp only [renderFields, fieldTokens, String.intercalate_nil, String.toList_empty]
    exact lexes_nil.atBoundary
  | [(key, value)], hf => by
    have hfield := lexes_named hf.1 (lexes_value value hf.2.1)
    simp only [renderFields, fieldTokens, String.intercalate_singleton, String.toList_append,
      List.append_nil]
    exact hfield
  | (key, value) :: (key', value') :: rest, hf => by
    have hfield := lexes_named hf.1 (lexes_value value hf.2.1)
    have hrest := lexes_fields ((key', value') :: rest) hf.2.2
    rw [renderFields] at hrest
    rw [renderFields, renderFields, String.intercalate_cons_cons, String.toList_append,
      String.toList_append, String.toList_append, String.toList_append, fieldTokens]
    exact hfield.comma hrest

end

theorem lexes_argument (a : Argument Int) (ha : a.WellNamed) :
    LexesAtBoundary a.render.toList a.tokens := by
  simp only [Argument.render, String.toList_append]
  exact lexes_named ha.1 (lexes_value a.value ha.2)

theorem lexes_arguments (arguments : List (Argument Int)) (ha : ∀ a ∈ arguments, a.WellNamed) :
    LexesAtBoundary (", ".intercalate (arguments.map Argument.render)).toList
      (arguments.flatMap Argument.tokens) := by
  induction arguments with
  | nil => exact lexes_nil.atBoundary
  | cons a more ih =>
    have hfirst := lexes_argument a (ha a List.mem_cons_self)
    have hmore := ih fun b hb => ha b (List.mem_cons_of_mem a hb)
    cases more with
    | nil => simpa using hfirst
    | cons b more =>
      rw [List.map_cons] at hmore
      rw [List.map_cons, List.map_cons, String.intercalate_cons_cons, String.toList_append,
        String.toList_append, List.flatMap_cons]
      exact hfirst.comma hmore

theorem lexes_head {name : String} {arguments : List (Argument Int)}
    (hn : Intent.isFieldName name = true) (ha : ∀ a ∈ arguments, a.WellNamed) :
    LexesAtBoundary (head name arguments).toList (headTokens name arguments) := by
  cases arguments with
  | nil => exact lexes_name hn
  | cons a more =>
    have hargs := lexes_arguments (a :: more) ha
    have hclose := hargs.append (lexes_punctuator (c := ')') (by decide)) (by decide)
    have hopen : Lexes ('(' :: _) _ := (lexes_punctuator (c := '(') (by decide)).append hclose
    have hall := (lexes_name hn).append hopen (by decide)
    simp only [head, headTokens, List.isEmpty_cons, Bool.false_eq_true, if_false,
      String.toList_append, List.append_assoc]
    exact hall.atBoundary

/-! ### Lines -/

mutual

/-- A selection whose text is a query: it has no name, or its names are allowed and its children do
not all vanish. -/
def Selection.Renderable : Selection Int → Prop
  | .field name arguments children =>
    (name ≠ "" → Intent.isFieldName name = true ∧ (∀ a ∈ arguments, a.WellNamed) ∧
      (children ≠ [] → spliceAll children ≠ [])) ∧ AllRenderable children

/-- The same for a list of selections. -/
def AllRenderable : List (Selection Int) → Prop
  | [] => True
  | s :: rest => s.Renderable ∧ AllRenderable rest

end

/-- Lines as one text. -/
def linesText (ls : List String) : List Char :=
  ls.flatMap fun l => l.toList ++ ['\n']

@[simp] theorem linesText_nil : linesText [] = [] := rfl

@[simp] theorem linesText_cons (l : String) (ls : List String) :
    linesText (l :: ls) = l.toList ++ '\n' :: linesText ls := by
  simp [linesText]

@[simp] theorem linesText_append (ls ls' : List String) :
    linesText (ls ++ ls') = linesText ls ++ linesText ls' := by
  simp [linesText]

theorem eq_blank_of_mem_indent {depth : Nat} {c : Char} (h : c ∈ (indent depth).toList) :
    c = ' ' := by
  rw [indent, String.toList_ofList] at h
  exact List.eq_of_mem_replicate h

theorem lexes_indent (depth : Nat) : Lexes (indent depth).toList [] := by
  apply lexes_ignored
  rw [List.all_eq_true]
  intro c hc
  rw [eq_blank_of_mem_indent hc]
  decide

/-- A line that begins with an indented head. -/
theorem lexes_headLine {name : String} {arguments : List (Argument Int)} {c : Char} (depth : Nat)
    (hn : Intent.isFieldName name = true) (ha : ∀ a ∈ arguments, a.WellNamed)
    (hc : isBoundary c = true) (h : Lexes (c :: s) ts) :
    Lexes ((indent depth ++ head name arguments).toList ++ c :: s)
      (headTokens name arguments ++ ts) := by
  have hline := (lexes_indent depth).append ((lexes_head hn ha).append h hc)
  rw [String.toList_append, List.append_assoc]
  exact hline

theorem lexes_newline : Lexes ['\n'] [] :=
  lexes_ignored (by decide)

theorem lexes_openBrace : Lexes (' ' :: ['\x7b', '\n']) [.punctuator '\x7b'] :=
  (lexes_ignored (s := [' ']) (by decide)).append
    ((lexes_punctuator (c := '\x7b') (by decide)).append lexes_newline)

theorem lexes_closeLine (depth : Nat) :
    Lexes (linesText [indent depth ++ "\x7d"]) [.punctuator '\x7d'] := by
  have hline := (lexes_indent depth).append
    ((lexes_punctuator (c := '\x7d') (by decide)).append lexes_newline)
  simpa using hline

mutual

/-- The lines of a selection give the tokens of what stands in its place. The induction is on the
tree: an unnamed selection passes on to its children, a named one puts its own line before them
and a closing brace behind. -/
theorem lexes_lines : ∀ (s : Selection Int) (depth : Nat), s.Renderable →
    Lexes (linesText (s.lines depth)) (tokensAll s.splice)
  | .field name arguments children, depth, hs => by
    have hchildren (d : Nat) := lexes_linesAll children d hs.2
    by_cases hname : name = ""
    · simpa [Selection.lines, Selection.splice, hname] using hchildren depth
    · obtain ⟨hn, ha, hvanish⟩ := hs.1 hname
      cases children with
      | nil =>
        have hline := lexes_headLine depth hn ha (by decide) lexes_newline
        simpa [Selection.lines, Selection.splice, hname, tokensAll, Selection.tokens, spliceAll]
          using hline
      | cons child more =>
        have hhead := lexes_headLine depth hn ha (by decide) lexes_openBrace
        have hbody := (hchildren (depth + 1)).append (lexes_closeLine depth)
        have hall := hhead.append hbody
        have hne : (spliceAll (child :: more)).isEmpty = false := by
          simpa using hvanish (by simp)
        simpa [Selection.lines, Selection.splice, hname, tokensAll, Selection.tokens, hne]
          using hall

theorem lexes_linesAll : ∀ (ss : List (Selection Int)) (depth : Nat), AllRenderable ss →
    Lexes (linesText (linesAll depth ss)) (tokensAll (spliceAll ss))
  | [], _, _ => lexes_nil
  | s :: rest, depth, hs => by
    have hfirst := lexes_lines s depth hs.1
    have hrest := lexes_linesAll rest depth hs.2
    rw [linesAll, linesText_append, spliceAll, tokensAll_append]
    exact hfirst.append hrest

end

/-! ### The query as a whole -/

mutual

theorem Selection.wellNamed_splice : ∀ s : Selection Int, s.Renderable → AllWellNamed s.splice
  | .field name arguments children, hs => by
    have hchildren := wellNamed_spliceAll children hs.2
    by_cases hname : name = ""
    · simpa [Selection.splice, hname] using hchildren
    · obtain ⟨hn, ha, -⟩ := hs.1 hname
      simpa [Selection.splice, hname] using ⟨⟨hn, ha, hchildren⟩, trivial⟩

theorem wellNamed_spliceAll : ∀ ss : List (Selection Int), AllRenderable ss →
    AllWellNamed (spliceAll ss)
  | [], _ => trivial
  | s :: rest, hs => allWellNamed_append.2
      ⟨Selection.wellNamed_splice s hs.1, wellNamed_spliceAll rest hs.2⟩

end

theorem tokenize_render (ss : List (Selection Int)) (hs : AllRenderable ss) :
    tokenize (render ss).toList = some (.name "query" :: .punctuator '\x7b' ::
      (tokensAll (spliceAll ss) ++ [.punctuator '\x7d'])) := by
  have hname : LexesAtBoundary "query".toList [.name "query"] := lexes_name (by decide)
  have hword := hname.append lexes_openBrace (by decide)
  have hall := hword.append ((lexes_linesAll ss 1 hs).append
    ((lexes_punctuator (c := '\x7d') (by decide)).append lexes_newline))
  have htext : (render ss).toList = "query".toList ++ ' ' :: ['\x7b', '\n']
      ++ (linesText (linesAll 1 ss) ++ (['\x7d'] ++ ['\n'])) := by
    simp [render, queryLines, linesText, List.flatMap_map]
  have htokens := hall []
  rw [List.append_nil, tokenize, Option.map_some] at htokens
  rw [htext, htokens]
  simp

/-- **A rendered query is read back**: its text is exactly one anonymous query, whose selections are
the given ones with the unnamed replaced by their children. -/
theorem read_render (ss : List (Selection Int)) (hs : AllRenderable ss) (hne : spliceAll ss ≠ []) :
    read (render ss) = some (spliceAll ss) := by
  rw [read, tokenize_render ss hs]
  exact readDocument_tokens (spliceAll ss) hne (wellNamed_spliceAll ss hs)

end ConceptQuery.GraphQL
