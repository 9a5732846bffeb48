import ConceptQuery.Json.Whole
import ConceptQuery.Proofs.GraphQL.Rendering

/-!
# Forests with unnamed selections

An unnamed selection anywhere in a forest gives way to its children: the text of the forest is that
of the spliced one, and is read as just that.

* `Selection.Named`, `Selection.Formed` — some selection has a name; a forest that can be written;
* `spliceAll_ne_nil_iff` — splicing leaves nothing if and only if nothing has a name;
* `Selection.Formed.renderable`, `render_spliceAll` — a forest and its splicing have one text;
* `Value.map`, `Selection.map`, `checkAll_map` — drafts, whose numbers are of another form;
* `written`, `written_map` — a draft as a text;
* `reads_spliced_forest` — drafts of forests with any unnamed selections.
-/

namespace ConceptQuery.GraphQL

variable {ν μ ε : Type}

/-! ### Forests -/

mutual

/-- A selection has a name, or one below it has. -/
def Selection.Named : Selection ν → Prop
  | .field name _ children => name ≠ "" ∨ AnyNamed children

/-- Some selection of a forest has a name, at any depth. -/
def AnyNamed : List (Selection ν) → Prop
  | [] => False
  | s :: rest => s.Named ∨ AnyNamed rest

end

mutual

/-- A value that can be written: any text, a number of a length that can be written, an enumeration
value that is no other kind of value, or an object whose keys are names. -/
def Value.Formed : Value Int → Prop
  | .string _ => True
  | .int number => (Nat.toDigits 10 number.natAbs).length ≤ digitLimit
  | .enum name => Intent.isFieldName name = true ∧ name ∉ reservedNames
  | .object fields => FieldsFormed fields

/-- The same for the fields of an input object. -/
def FieldsFormed : List (String × Value Int) → Prop
  | [] => True
  | (key, value) :: rest => Intent.isFieldName key = true ∧ value.Formed ∧ FieldsFormed rest

end

/-- An argument that can be written. -/
def Argument.Formed (a : Argument Int) : Prop :=
  Intent.isFieldName a.name = true ∧ a.value.Formed

mutual

/-- A selection that can be written: its name, if it has any, is a name of the grammar, its
arguments can be written, and if it has a name and children, some selection below it has a name. -/
def Selection.Formed : Selection Int → Prop
  | .field name arguments children =>
    (name = "" ∨ Intent.isFieldName name = true) ∧ (∀ a ∈ arguments, a.Formed)
      ∧ (name ≠ "" → children ≠ [] → AnyNamed children) ∧ AllFormed children

/-- The same for a forest. -/
def AllFormed : List (Selection Int) → Prop
  | [] => True
  | s :: rest => s.Formed ∧ AllFormed rest

end

mutual

theorem Selection.splice_ne_nil_iff : ∀ s : Selection ν, s.splice ≠ [] ↔ s.Named
  | .field name arguments children => by
    have hchildren := spliceAll_ne_nil_iff children
    by_cases hname : name = ""
    · simpa [Selection.splice, Selection.Named, hname] using hchildren
    · simp [Selection.splice, Selection.Named, hname]

/-- **What splicing leaves**: something if and only if some selection has a name. -/
theorem spliceAll_ne_nil_iff : ∀ ss : List (Selection ν), spliceAll ss ≠ [] ↔ AnyNamed ss
  | [] => by simp [spliceAll, AnyNamed]
  | s :: rest => by
    rw [spliceAll, AnyNamed, ← s.splice_ne_nil_iff, ← spliceAll_ne_nil_iff rest, Ne,
      List.append_eq_nil_iff,
      Classical.not_and_iff_not_or_not]

end

/-! ### Forests that can be written -/

mutual

theorem Value.Formed.wellNamed : ∀ {v : Value Int}, v.Formed → v.WellNamed
  | .string _, _ => trivial
  | .int _, _ => trivial
  | .enum _, h => h
  | .object _, h => FieldsFormed.wellNamed h

theorem FieldsFormed.wellNamed : ∀ {fields : List (String × Value Int)},
    FieldsFormed fields → FieldsWellNamed fields
  | [], _ => trivial
  | (_, _) :: _, h => ⟨h.1, h.2.1.wellNamed, FieldsFormed.wellNamed h.2.2⟩

end

mutual

theorem Selection.Formed.renderable : ∀ {s : Selection Int}, s.Formed → s.Renderable
  | .field name arguments children, ⟨hname, ha, hbelow, hchildren⟩ => by
    refine ⟨fun hne => ⟨hname.resolve_left hne, fun a ha' => ?_, fun hsome => ?_⟩,
      AllFormed.renderable hchildren⟩
    · exact ⟨(ha a ha').1, (ha a ha').2.wellNamed⟩
    · exact (spliceAll_ne_nil_iff children).2 (hbelow hne hsome)

theorem AllFormed.renderable : ∀ {ss : List (Selection Int)}, AllFormed ss → AllRenderable ss
  | [], _ => trivial
  | _ :: _, h => ⟨h.1.renderable, AllFormed.renderable h.2⟩

end

/-! ### The text of a spliced forest -/

theorem linesAll_append (depth : Nat) (ss ss' : List (Selection Int)) :
    linesAll depth (ss ++ ss') = linesAll depth ss ++ linesAll depth ss' := by
  induction ss with
  | nil => rfl
  | cons s ss ih => rw [List.cons_append, linesAll, linesAll, ih, List.append_assoc]

mutual

/-- A selection has the lines of what stands in its place. The induction is on the tree: an unnamed
selection stands at the depth of its children. -/
theorem Selection.linesAll_splice : ∀ (s : Selection Int) (depth : Nat), s.Renderable →
    linesAll depth s.splice = s.lines depth
  | .field name arguments children, depth, hs => by
    by_cases hname : name = ""
    · have hchildren := linesAll_spliceAll children depth hs.2
      simpa [Selection.splice, Selection.lines, hname] using hchildren
    · have hchildren := linesAll_spliceAll children (depth + 1) hs.2
      cases children with
      | nil => simp [Selection.splice, Selection.lines, hname, spliceAll, linesAll]
      | cons child more =>
        have hne : (spliceAll (child :: more)).isEmpty = false := by
          simpa using (hs.1 hname).2.2 (by simp)
        have hempty : name.isEmpty = false := by simpa using hname
        rw [Selection.splice, hempty, if_neg Bool.false_ne_true, linesAll, linesAll,
          List.append_nil, Selection.lines, Selection.lines, hempty, if_neg Bool.false_ne_true,
          if_neg Bool.false_ne_true, hne, List.isEmpty_cons, if_neg Bool.false_ne_true,
          if_neg Bool.false_ne_true, hchildren]

theorem linesAll_spliceAll : ∀ (ss : List (Selection Int)) (depth : Nat), AllRenderable ss →
    linesAll depth (spliceAll ss) = linesAll depth ss
  | [], _, _ => rfl
  | s :: rest, depth, hs => by
    rw [spliceAll, linesAll_append, s.linesAll_splice depth hs.1,
      linesAll_spliceAll rest depth hs.2, linesAll]

end

/-- **A forest and its splicing have one text.** -/
theorem render_spliceAll {ss : List (Selection Int)} (hs : AllRenderable ss) :
    render (spliceAll ss) = render ss := by
  rw [render, render, queryLines, queryLines, linesAll_spliceAll ss 1 hs]

/-! ### Drafts -/

mutual

/-- A value with its numbers in another form. -/
def Value.map (f : ν → μ) : Value ν → Value μ
  | .string text => .string text
  | .int number => .int (f number)
  | .enum name => .enum name
  | .object fields => .object (mapFields f fields)

/-- The fields of an input object with their numbers in another form. -/
def mapFields (f : ν → μ) : List (String × Value ν) → List (String × Value μ)
  | [] => []
  | (key, value) :: rest => (key, value.map f) :: mapFields f rest

end

/-- An argument with its numbers in another form. -/
def Argument.map (f : ν → μ) (a : Argument ν) : Argument μ :=
  ⟨a.name, a.value.map f⟩

mutual

/-- A selection with its numbers in another form. -/
def Selection.map (f : ν → μ) : Selection ν → Selection μ
  | .field name arguments children =>
    .field name (arguments.map (Argument.map f)) (mapAll f children)

/-- A forest with its numbers in another form. -/
def mapAll (f : ν → μ) : List (Selection ν) → List (Selection μ)
  | [] => []
  | s :: rest => s.map f :: mapAll f rest

end

section Drafts

variable {draft : μ → ν} {check : ν → Except ε μ}

mutual

theorem Value.check_map (h : ∀ n, check (draft n) = .ok n) : ∀ v : Value μ,
    (v.map draft).check check = .ok v
  | .string _ => rfl
  | .int n => by
    rw [Value.map, Value.check, h]
    rfl
  | .enum _ => rfl
  | .object fields => by
    rw [Value.map, Value.check, checkFields_map h fields]
    rfl

theorem checkFields_map (h : ∀ n, check (draft n) = .ok n) : ∀ fields : List (String × Value μ),
    checkFields check (mapFields draft fields) = .ok fields
  | [] => rfl
  | (key, value) :: rest => by
    rw [mapFields, checkFields, value.check_map h, checkFields_map h rest]
    rfl

end

theorem Argument.check_map (h : ∀ n, check (draft n) = .ok n) (a : Argument μ) :
    (a.map draft).check check = .ok a := by
  rw [Argument.map, Argument.check, a.value.check_map h]
  rfl

theorem mapM_check_map (h : ∀ n, check (draft n) = .ok n) (arguments : List (Argument μ)) :
    (arguments.map (Argument.map draft)).mapM (Argument.check check) = .ok arguments := by
  induction arguments with
  | nil => rfl
  | cons a more ih =>
    rw [List.map_cons, List.mapM_cons, a.check_map h, ih]
    rfl

end Drafts

section Checks

variable {draft : Int → ν} {check : ν → Except ε Int}

/-- Selections that are written alike at every depth. -/
structure LinesEq (ss ss' : List (Selection Int)) : Prop where
  lines_eq : ∀ depth, linesAll depth ss = linesAll depth ss'
  isEmpty_eq : ss.isEmpty = ss'.isEmpty

mutual

/-- A draft of a selection is checked to one that is written alike: only the arguments of selections
without a name are lost. -/
theorem Selection.check_map (h : ∀ n, check (draft n) = .ok n) : ∀ s : Selection Int,
    ∃ s', (s.map draft).check check = .ok s' ∧ ∀ depth, s'.lines depth = s.lines depth
  | .field name arguments children => by
    obtain ⟨children', hchildren, hlines, hempty⟩ := checkAll_map h children
    rw [Selection.map, Selection.check]
    by_cases hname : name.isEmpty = true
    · refine ⟨.field name [] children', ?_, fun depth => ?_⟩
      · rw [if_pos hname, List.mapM_nil, hchildren]
        rfl
      · rw [Selection.lines, Selection.lines, if_pos hname, if_pos hname, hlines]
    · refine ⟨.field name arguments children', ?_, fun depth => ?_⟩
      · rw [if_neg hname, mapM_check_map h, hchildren]
        rfl
      · rw [Selection.lines, Selection.lines, if_neg hname, if_neg hname, hempty, hlines]

theorem checkAll_map (h : ∀ n, check (draft n) = .ok n) : ∀ ss : List (Selection Int),
    ∃ ss', checkAll check (mapAll draft ss) = .ok ss' ∧ LinesEq ss' ss
  | [] => ⟨[], rfl, fun _ => rfl, rfl⟩
  | s :: rest => by
    obtain ⟨s', hs, hlines⟩ := s.check_map h
    obtain ⟨rest', hrest, hrestLines, -⟩ := checkAll_map h rest
    refine ⟨s' :: rest', ?_, fun depth => ?_, rfl⟩
    · rw [mapAll, checkAll, hs, hrest]
      rfl
    · rw [linesAll, linesAll, hlines, hrestLines]

end

end Checks

/-- A draft as a text, if its numbers are whole. -/
def written (draft : List (Selection Json)) : Except Failure String :=
  (checkAll Json.toWhole draft).map render

/-- A draft of integers is written as these integers. -/
theorem written_map (ss : List (Selection Int)) :
    written (mapAll .integer ss) = .ok (render ss) := by
  have hwhole (n : Int) : (Json.integer n).toWhole = .ok n := rfl
  obtain ⟨ss', hcheck, hlines, -⟩ := checkAll_map hwhole ss
  have hrender : render ss' = render ss := by
    rw [render, render, queryLines, queryLines, hlines]
  rw [written, hcheck, ← hrender]
  rfl

/-! ### Drafts of forests -/

/-- **A forest with any unnamed selections** is written without failing, as a text that is read as
the forest with every unnamed selection replaced by its children; and the forest so spliced is
written as the same text. -/
theorem reads_spliced_forest {ss : List (Selection Int)} (hs : AllFormed ss) (hnamed : AnyNamed ss) :
    ∃ text, written (mapAll .integer ss) = .ok text
      ∧ written (mapAll .integer (spliceAll ss)) = .ok text ∧ read text = some (spliceAll ss) := by
  have hrenderable := AllFormed.renderable hs
  refine ⟨render ss, written_map ss, ?_, ?_⟩
  · rw [written_map, render_spliceAll hrenderable]
  · exact read_render ss hrenderable ((spliceAll_ne_nil_iff ss).2 hnamed)

/-- Unnamed selections above, between and below named ones, with arguments that are dropped. -/
theorem reads_spliced_forest_nested :
    let leaf (name : String) : Selection Int := .field name [] []
    let filter : Value Int := .object [("name", .string "a \"b\"\n"), ("of", .object [])]
    let ss : List (Selection Int) := [
      .field "" [⟨"limit", .int 3⟩] [leaf "first", .field "" [] []],
      .field "second" [⟨"where", filter⟩, ⟨"skip", .int (-5)⟩, ⟨"order", .enum "ASC"⟩]
        [.field "" [] [leaf "third"]]]
    ∃ text, written (mapAll .integer ss) = .ok text
      ∧ read text = some [leaf "first",
        .field "second" [⟨"where", filter⟩, ⟨"skip", .int (-5)⟩, ⟨"order", .enum "ASC"⟩]
          [leaf "third"]] := by
  intro leaf filter ss
  have hs : AllFormed ss := by
    simp [ss, leaf, filter, AllFormed, Selection.Formed, Argument.Formed, Value.Formed,
      FieldsFormed, AnyNamed, Selection.Named, reservedNames]
    decide
  have hnamed : AnyNamed ss := .inl (.inr (.inl (.inl (by decide))))
  obtain ⟨text, hwritten, -, hread⟩ := reads_spliced_forest hs hnamed
  exact ⟨text, hwritten, hread⟩

end ConceptQuery.GraphQL
