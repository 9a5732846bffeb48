import ConceptQuery.Proofs.GraphQL.Rendering
import ConceptQuery.Proofs.Json.Ascii

/-!
# The indentation of rendered queries

The lines of a query follow the braces that stand at their ends: each is indented by two blanks for
every brace that is open, whatever the strings of the query hold.

* `textLines`, `indentation`, `opens`, `closes`, `openBraces` — lines, and what is open after some;
* `Step`, `Steps` — lines that go from one depth to another without passing below a floor;
* `Stands`, `HeadLine` — what is seen of an indented line, and of a line with a head;
* `Selection.nodes`, `Selection.Legible` — the selections of a forest, and the names that they need;
* `Block`, `block_lines` — the lines of a selection come back to the depth at which they began;
* `LaidOut`, `laidOut_render` — the text of a forest.
-/

namespace ConceptQuery.GraphQL

open Json (Printable)

/-! ### Lines and braces -/

/-- A line. -/
abbrev Line := List Char

/-- The lines of a text, each without the line feed that ends it. What stands behind the last line
feed is no line. -/
def textLines (text : String) : List Line :=
  (text.toList.splitOn '\n').dropLast

/-- The number of blanks a line begins with. -/
def indentation (line : Line) : Nat :=
  (line.takeWhile (· = ' ')).length

/-- A line that opens a brace at its end. -/
def opens (line : Line) : Bool :=
  line.getLast? = some '\x7b'

/-- A line that consists of a closing brace. -/
def closes (line : Line) : Bool :=
  line.dropWhile (· = ' ') = ['\x7d']

/-- The braces that are opened at a line and not closed by it. -/
def weight (line : Line) : Int :=
  (if opens line then 1 else 0) - (if closes line then 1 else 0)

/-- The braces that some lines open and do not close. -/
def openBraces : List Line → Int
  | [] => 0
  | line :: lines => weight line + openBraces lines

variable {floor depth first middle last : Nat} {line : Line} {before after lines : List Line}

/-- A line at a depth, and the depth behind it, which is not below the floor. -/
structure Step (floor depth : Nat) (line : Line) (next : Nat) : Prop where
  indented : (indentation line : Int) = 2 * (depth - if closes line then 1 else 0)
  next_eq : (next : Int) = depth + weight line
  floor_le : floor ≤ next

/-- Lines that go from one depth to another, step by step. -/
inductive Steps (floor : Nat) : Nat → List Line → Nat → Prop where
  | nil (depth : Nat) : Steps floor depth [] depth
  | cons {depth next last : Nat} {line : Line} {lines : List Line} (h : Step floor depth line next)
      (hrest : Steps floor next lines last) : Steps floor depth (line :: lines) last

theorem Steps.append {lines' : List Line} (h : Steps floor first lines middle)
    (h' : Steps floor middle lines' last) : Steps floor first (lines ++ lines') last := by
  induction h with
  | nil => exact h'
  | cons hstep _ ih => exact .cons hstep (ih h')

/-- Between two parts of the lines there is a depth that the first part leads to. -/
theorem Steps.split (h : Steps floor first (before ++ after) last) :
    ∃ middle, Steps floor first before middle ∧ Steps floor middle after last := by
  induction before generalizing first with
  | nil => exact ⟨first, .nil first, h⟩
  | cons line before ih =>
    cases h with
    | cons hstep hrest =>
      obtain ⟨middle, hbefore, hafter⟩ := ih hrest
      exact ⟨middle, .cons hstep hbefore, hafter⟩

/-- Lines above a floor stay above any lower one. -/
theorem Steps.mono {lower : Nat} (hlower : lower ≤ floor) (h : Steps floor first lines last) :
    Steps lower first lines last := by
  induction h with
  | nil depth => exact .nil depth
  | cons hstep _ ih =>
    exact .cons ⟨hstep.indented, hstep.next_eq, Nat.le_trans hlower hstep.floor_le⟩ ih

theorem Steps.floor_le (h : Steps floor first lines last) (hfirst : floor ≤ first) :
    floor ≤ last := by
  induction h with
  | nil => exact hfirst
  | cons hstep _ ih => exact ih hstep.floor_le

/-- The depths differ by the braces left open. -/
theorem Steps.last_eq (h : Steps floor first lines last) :
    (last : Int) = first + openBraces lines := by
  induction h with
  | nil => simp [openBraces]
  | cons hstep _ ih =>
    have hnext := hstep.next_eq
    rw [openBraces]
    omega

/-! ### The lines of a query -/

theorem linesText_eq_intercalate (ls : List String) :
    linesText ls = ['\n'].intercalate (ls.map String.toList ++ [[]]) := by
  induction ls with
  | nil => simp
  | cons l ls ih =>
    cases ls with
    | nil => simp [List.intercalate]
    | cons l' ls => simpa [List.intercalate, List.intersperse] using ih

/-- Lines without line feeds are the lines of the text they make up. -/
theorem textLines_eq {text : String} {ls : List String} (htext : text.toList = linesText ls)
    (hls : ∀ l ∈ ls, '\n' ∉ l.toList) : textLines text = ls.map String.toList := by
  have hpieces : ∀ piece ∈ ls.map String.toList ++ [[]], '\n' ∉ piece := by
    simpa [List.forall_mem_append, or_imp, forall_and] using hls
  rw [textLines, htext, linesText_eq_intercalate, List.splitOn_intercalate '\n' hpieces (by simp),
    List.dropLast_concat]

theorem toList_render (ss : List (Selection Int)) :
    (render ss).toList = linesText (queryLines ss) := by
  simp [render, linesText, List.flatMap_map]

/-- What is seen of a line with the indentation of a depth. -/
structure Stands (depth : Nat) (rest line : Line) : Prop where
  indentation_eq : indentation line = 2 * depth
  opens_iff : opens line = true ↔ rest.getLast? = some '\x7b'
  closes_iff : closes line = true ↔ rest = ['\x7d']

theorem stands_indent {c : Char} {rest : List Char} (depth : Nat) (hc : c ≠ ' ') :
    Stands depth (c :: rest) ((indent depth).toList ++ c :: rest) := by
  have hblank : ∀ d ∈ (indent depth).toList, decide (d = ' ') = true := by
    intro d hd
    simpa using eq_blank_of_mem_indent hd
  have hlength : (indent depth).toList.length = 2 * depth := by simp [indent]
  constructor
  · rw [indentation, List.takeWhile_append_of_pos hblank, List.takeWhile_cons_of_neg (by simpa)]
    simpa using hlength
  · simp [opens, List.getLast?_append]
  · rw [closes, List.dropWhile_append_of_pos hblank, List.dropWhile_cons_of_neg (by simpa),
      decide_eq_true_eq]

section Stands

variable {rest : List Char}

/-- A line that opens and closes nothing. -/
theorem Stands.plain (h : Stands depth rest line) (ho : rest.getLast? ≠ some '\x7b')
    (hc : rest ≠ ['\x7d']) : Step depth depth line depth := by
  have hopens : ¬ opens line = true := by rwa [h.opens_iff]
  have hcloses : ¬ closes line = true := by rwa [h.closes_iff]
  refine ⟨?_, ?_, Nat.le_refl depth⟩
  · simp [h.indentation_eq, hcloses]
  · simp [weight, hopens, hcloses]

/-- A line that opens a brace. -/
theorem Stands.opening (h : Stands depth rest line) (ho : rest.getLast? = some '\x7b')
    (hc : rest ≠ ['\x7d']) : Step depth depth line (depth + 1) := by
  have hopens : opens line = true := h.opens_iff.2 ho
  have hcloses : ¬ closes line = true := by rwa [h.closes_iff]
  refine ⟨?_, ?_, Nat.le_succ depth⟩
  · simp [h.indentation_eq, hcloses]
  · simp [weight, hopens, hcloses]

/-- A line that closes a brace, one level above those before it. -/
theorem Stands.closing (h : Stands depth ['\x7d'] line) : Step depth (depth + 1) line depth := by
  have hopens : ¬ opens line = true := by
    rw [h.opens_iff]
    decide
  have hcloses : closes line = true := h.closes_iff.2 rfl
  have hweight : weight line = -1 := by simp [weight, hopens, hcloses]
  refine ⟨?_, ?_, Nat.le_refl depth⟩
  · simp [h.indentation_eq, hcloses]
  · omega

end Stands

/-! ### What lines are made of -/

/-- A text without control characters. -/
def Visible (s : List Char) : Prop :=
  ∀ c ∈ s, 0x20 ≤ c.toNat

theorem Visible.append {s t : List Char} (hs : Visible s) (ht : Visible t) : Visible (s ++ t) :=
  List.forall_mem_append.2 ⟨hs, ht⟩

theorem Visible.of_printable {s : List Char} (hs : Printable s) : Visible s := by
  intro c hc
  have hlow := (hs c hc).1
  rwa [Char.le_def, UInt32.le_iff_toNat_le] at hlow

theorem visible_intercalate {pieces : List String} (h : ∀ p ∈ pieces, Visible p.toList) :
    Visible (", ".intercalate pieces).toList :=
  Json.forall_mem_intercalate (Visible.of_printable (by decide)) h

theorem Visible.not_mem_lineFeed {s : List Char} (hs : Visible s) : '\n' ∉ s := by
  intro h
  exact absurd (hs '\n' h) (by decide)

theorem isNameContinue_of_mem_name {name : String} (hn : Intent.isFieldName name = true) :
    ∀ c ∈ name.toList, isNameContinue c = true := by
  obtain ⟨c, rest, hname, hc, hrest⟩ := isFieldName_iff.1 hn
  rw [hname, List.forall_mem_cons]
  exact ⟨by simp [isNameContinue, hc], hrest⟩

theorem visible_name {name : String} (hn : Intent.isFieldName name = true) :
    Visible name.toList := by
  intro c hc
  by_contra hlow
  have hnot : ∀ n < 0x20, isNameContinue (Char.ofNat n) = false := by decide
  have hfalse := hnot c.toNat (Nat.lt_of_not_le hlow)
  rw [Char.ofNat_toNat, isNameContinue_of_mem_name hn c hc] at hfalse
  cases hfalse

/-- Strings are written without control characters, whatever they hold. -/
theorem visible_escapeChar (c : Char) : Visible (escapeChar c) := by
  unfold escapeChar
  repeat
    split
    · exact .of_printable (by decide)
  split
  · exact .append (s := ['\\', 'u']) (.of_printable (by decide))
      (.of_printable (Json.printable_hex4 c.toNat))
  · next hlow => simpa [Visible] using hlow

theorem visible_quote (text : String) : Visible (quote text).toList := by
  rw [quote, String.toList_append, String.toList_append, toList_escape]
  refine .append (.append (.of_printable (by decide)) ?_) (.of_printable (by decide))
  intro c hc
  obtain ⟨d, -, hd⟩ := List.mem_flatMap.1 hc
  exact visible_escapeChar d c hd

mutual

/-- A value whose object keys and enumeration values are names. -/
def Value.Legible : Value Int → Prop
  | .string _ => True
  | .int _ => True
  | .enum name => Intent.isFieldName name = true
  | .object fields => FieldsLegible fields

/-- The same for the fields of an input object. -/
def FieldsLegible : List (String × Value Int) → Prop
  | [] => True
  | (key, value) :: rest => Intent.isFieldName key = true ∧ value.Legible ∧ FieldsLegible rest

end

/-- An argument whose key is a name, with a value that is legible. -/
def Argument.Legible (a : Argument Int) : Prop :=
  Intent.isFieldName a.name = true ∧ a.value.Legible

mutual

theorem visible_value : ∀ v : Value Int, v.Legible → Visible v.render.toList
  | .string text, _ => by
    rw [Value.render]
    exact visible_quote text
  | .int number, _ => by
    rw [Value.render]
    exact .of_printable (Json.printable_integer number)
  | .enum name, hv => by
    rw [Value.render]
    exact visible_name hv
  | .object fields, hv => by
    have hfields := visible_intercalate (visible_fields fields hv)
    rw [Value.render, String.toList_append, String.toList_append]
    exact .append (.append (.of_printable (by decide)) hfields) (.of_printable (by decide))

theorem visible_fields : ∀ fields : List (String × Value Int), FieldsLegible fields →
    ∀ p ∈ renderFields fields, Visible p.toList
  | [], _ => by simp [renderFields]
  | (key, value) :: rest, hf => by
    rw [renderFields, List.forall_mem_cons, String.toList_append, String.toList_append]
    refine ⟨.append (.append (visible_name hf.1) (.of_printable (by decide))) ?_, ?_⟩
    · exact visible_value value hf.2.1
    · exact visible_fields rest hf.2.2

end

theorem visible_argument (a : Argument Int) (ha : a.Legible) : Visible a.render.toList := by
  rw [Argument.render, String.toList_append, String.toList_append]
  exact .append (.append (visible_name ha.1) (.of_printable (by decide)))
    (visible_value a.value ha.2)

/-- A head is visible, begins with neither a blank nor a closing brace, and opens no brace at its
end. -/
structure HeadLine (s : List Char) : Prop where
  visible : Visible s
  starts : ∃ c rest, s = c :: rest ∧ c ≠ ' ' ∧ c ≠ '\x7d'
  ends : s.getLast? ≠ some '\x7b'

theorem headLine_head {name : String} {arguments : List (Argument Int)}
    (hn : Intent.isFieldName name = true) (ha : ∀ a ∈ arguments, a.Legible) :
    HeadLine (head name arguments).toList := by
  have hvisible := visible_name hn
  obtain ⟨c, rest, hname, hc, -⟩ := isFieldName_iff.1 hn
  have hstart : c ≠ ' ' ∧ c ≠ '\x7d' := by
    constructor
    · rintro rfl
      exact absurd hc (by decide)
    · rintro rfl
      exact absurd hc (by decide)
  cases arguments with
  | nil =>
    show HeadLine name.toList
    refine ⟨hvisible, ⟨c, rest, hname, hstart⟩, fun hlast => ?_⟩
    have hcontinue := isNameContinue_of_mem_name hn _ (List.mem_of_getLast? hlast)
    exact absurd hcontinue (by decide)
  | cons a more =>
    have hpieces : ∀ p ∈ (a :: more).map Argument.render, Visible p.toList := by
      rw [List.forall_mem_map]
      exact fun b hb => visible_argument b (ha b hb)
    have harguments := visible_intercalate hpieces
    have hhead : (head name (a :: more)).toList = name.toList ++ '(' ::
        ((", ".intercalate ((a :: more).map Argument.render)).toList ++ [')']) := by
      simp [head]
    rw [hhead]
    refine ⟨hvisible.append ?_, ⟨c, _, by rw [hname]; rfl, hstart⟩, ?_⟩
    · exact .append (s := ['(']) (.of_printable (by decide))
        (.append harguments (.of_printable (by decide)))
    · rw [← List.cons_append, ← List.append_assoc, List.getLast?_concat]
      decide

/-! ### The selections of a forest -/

variable {ν : Type}

mutual

/-- A selection and all that stand below it. -/
def Selection.nodes : Selection ν → List (Selection ν)
  | .field name arguments children => .field name arguments children :: nodesAll children

/-- All selections of a forest. -/
def nodesAll : List (Selection ν) → List (Selection ν)
  | [] => []
  | s :: rest => s.nodes ++ nodesAll rest

end

/-- A selection with a name and without children. -/
def Selection.isLeaf : Selection ν → Bool
  | .field name _ children => name ≠ "" && children.isEmpty

/-- A selection with a name and with children. -/
def Selection.isBranch : Selection ν → Bool
  | .field name _ children => name ≠ "" && !children.isEmpty

/-- The lines that selections take up: one for a leaf, two for a branch. -/
def lineCount (nodes : List (Selection ν)) : Nat :=
  nodes.countP Selection.isLeaf + 2 * nodes.countP Selection.isBranch

theorem lineCount_append (nodes nodes' : List (Selection ν)) :
    lineCount (nodes ++ nodes') = lineCount nodes + lineCount nodes' := by
  simp only [lineCount, List.countP_append]
  omega

/-- A selection without a name or with one of the grammar, and with legible arguments. -/
def Selection.Legible : Selection Int → Prop
  | .field name arguments _ =>
    (name = "" ∨ Intent.isFieldName name = true) ∧ ∀ a ∈ arguments, a.Legible

/-! ### The lines of a selection -/

/-- Lines of a part of a query: their number, what they are made of, and their depths. -/
structure Block (depth count : Nat) (ls : List String) : Prop where
  length_eq : ls.length = count
  visible : ∀ l ∈ ls, Visible l.toList
  steps : Steps depth depth (ls.map String.toList) depth

theorem Block.nil (depth : Nat) : Block depth 0 [] :=
  ⟨rfl, by simp, .nil depth⟩

theorem Block.append {count count' : Nat} {ls ls' : List String} (h : Block depth count ls)
    (h' : Block depth count' ls') : Block depth (count + count') (ls ++ ls') where
  length_eq := by rw [List.length_append, h.length_eq, h'.length_eq]
  visible := List.forall_mem_append.2 ⟨h.visible, h'.visible⟩
  steps := by
    rw [List.map_append]
    exact h.steps.append h'.steps

theorem visible_indent (depth : Nat) : Visible (indent depth).toList := by
  intro c hc
  rw [eq_blank_of_mem_indent hc]
  decide

/-- A line with a head alone. -/
theorem Block.leaf {l : String} (depth : Nat) (hl : HeadLine l.toList) :
    Block depth 1 [indent depth ++ l] := by
  obtain ⟨c, rest, hstart, hblank, hbrace⟩ := hl.starts
  have hline : Stands depth l.toList (indent depth ++ l).toList := by
    rw [String.toList_append, hstart]
    exact stands_indent depth hblank
  have hstep := hline.plain hl.ends (by simp [hstart, hbrace])
  refine ⟨by simp, ?_, .cons hstep (.nil depth)⟩
  simpa using (visible_indent depth).append hl.visible

/-- A head with a brace behind it, lines one level below, and the line that closes the brace. -/
theorem Block.branch {l : String} {count : Nat} {ls : List String} (depth : Nat)
    (hl : HeadLine l.toList) (h : Block (depth + 1) count ls) : Block depth (count + 2)
      ((indent depth ++ l ++ " \x7b") :: (ls ++ [indent depth ++ "\x7d"])) := by
  obtain ⟨c, rest, hstart, hblank, hbrace⟩ := hl.starts
  have hopen : (indent depth ++ l ++ " \x7b").toList
      = (indent depth).toList ++ c :: (rest ++ [' ', '\x7b']) := by simp [hstart]
  have hclose : (indent depth ++ "\x7d").toList = (indent depth).toList ++ ['\x7d'] := by simp
  have hends : (c :: (rest ++ [' ', '\x7b'])).getLast? = some '\x7b' := by
    rw [← List.cons_append, List.getLast?_append]
    rfl
  have hfirst := (stands_indent depth hblank).opening hends (by simp)
  have hlast : Step depth (depth + 1) ((indent depth).toList ++ ['\x7d']) depth :=
    (stands_indent depth (by decide)).closing
  have hbody := (h.steps.mono (Nat.le_succ depth)).append (.cons hlast (.nil depth))
  constructor
  · simp [h.length_eq]
  · have hhead := ((visible_indent depth).append hl.visible).append
      (.of_printable (s := [' ', '\x7b']) (by decide))
    have hfoot := (visible_indent depth).append (.of_printable (s := ['\x7d']) (by decide))
    rw [List.forall_mem_cons, List.forall_mem_append, List.forall_mem_singleton]
    refine ⟨?_, h.visible, ?_⟩
    · simpa using hhead
    · simpa using hfoot
  · simp only [List.map_cons, List.map_append, List.map_nil, hopen, hclose]
    exact .cons hfirst hbody

mutual

/-- The lines of a selection come back to the depth at which they begin. The induction is on the
tree: an unnamed selection leaves its children at its own depth, a named one lowers them by one. -/
theorem block_lines : ∀ (s : Selection Int) (depth : Nat), (∀ t ∈ s.nodes, t.Legible) →
    Block depth (lineCount s.nodes) (s.lines depth)
  | .field name arguments children, depth, hs => by
    rw [Selection.nodes, List.forall_mem_cons] at hs
    obtain ⟨⟨hname, ha⟩, hbelow⟩ := hs
    have hchildren (d : Nat) := block_linesAll children d hbelow
    by_cases hempty : name = ""
    · simpa [Selection.lines, Selection.nodes, lineCount, hempty, Selection.isLeaf,
        Selection.isBranch] using hchildren depth
    · have hhead := headLine_head (hname.resolve_left hempty) ha
      cases children with
      | nil =>
        simpa [Selection.lines, Selection.nodes, nodesAll, lineCount, hempty, Selection.isLeaf,
          Selection.isBranch] using Block.leaf depth hhead
      | cons child more =>
        have hcount : lineCount (Selection.field name arguments (child :: more)).nodes
            = lineCount (nodesAll (child :: more)) + 2 := by
          simp [Selection.nodes, lineCount, hempty, Selection.isLeaf, Selection.isBranch]
          omega
        have hbranch := Block.branch depth hhead (hchildren (depth + 1))
        rw [hcount]
        simpa [Selection.lines, hempty] using hbranch

theorem block_linesAll : ∀ (ss : List (Selection Int)) (depth : Nat),
    (∀ t ∈ nodesAll ss, t.Legible) → Block depth (lineCount (nodesAll ss)) (linesAll depth ss)
  | [], depth, _ => .nil depth
  | s :: rest, depth, hs => by
    rw [nodesAll, List.forall_mem_append] at hs
    rw [nodesAll, lineCount_append, linesAll]
    exact (block_lines s depth hs.1).append (block_linesAll rest depth hs.2)

end

/-! ### The text of a forest -/

/-- The lines of a query: one opens the outermost brace, one closes it, and those between stay
inside of it. -/
structure Enclosed (count : Nat) (ls : List String) : Prop extends Block 0 count ls where
  inner : ∃ body, ls = "query \x7b" :: (body ++ ["\x7d"])
    ∧ Steps 1 1 (body.map String.toList) 1

theorem enclosed_queryLines {ss : List (Selection Int)} (hs : ∀ s ∈ nodesAll ss, s.Legible) :
    Enclosed (lineCount (nodesAll ss) + 2) (queryLines ss) := by
  have hbody := block_linesAll ss 1 hs
  have hhead : HeadLine (head "query" []).toList := headLine_head (by decide) (by simp)
  exact ⟨Block.branch 0 hhead hbody, linesAll 1 ss, rfl, hbody.steps⟩

theorem Enclosed.textLines_eq {count : Nat} {ls : List String} (h : Enclosed count ls)
    {text : String} (htext : text.toList = linesText ls) : textLines text = ls.map String.toList :=
  GraphQL.textLines_eq htext fun l hl => (h.visible l hl).not_mem_lineFeed

/-- The outermost brace is open after every line but the last. -/
theorem Enclosed.openBraces_eq_zero_iff {count : Nat} {ls : List String} (h : Enclosed count ls)
    (hlines : ls.map String.toList = before ++ after) (hne : before ≠ []) :
    openBraces before = 0 ↔ after = [] := by
  constructor
  · intro hzero
    by_contra hafter
    obtain ⟨body, rfl, hinner⟩ := h.inner
    obtain ⟨line, before, rfl⟩ := List.exists_cons_of_ne_nil hne
    rw [List.map_cons, List.map_append, List.cons_append] at hlines
    obtain ⟨rfl, hrest⟩ := List.cons.inj hlines
    obtain hall | ⟨behind, hbehind⟩ := List.prefix_concat_iff.1 ⟨after, hrest.symm⟩
    · rw [hall] at hrest
      exact hafter (by simpa using hrest)
    · rw [← hbehind] at hinner
      obtain ⟨middle, hbefore, -⟩ := hinner.split
      have hfloor := hbefore.floor_le (Nat.le_refl 1)
      have hmiddle := hbefore.last_eq
      have hopen : weight "query \x7b".toList = 1 := by decide
      rw [openBraces] at hzero
      omega
  · rintro rfl
    have hlast := h.steps.last_eq
    rw [hlines, List.append_nil] at hlast
    omega

/-- A text of a number of lines that are laid out by the braces at their ends. -/
structure LaidOut (count : Nat) (text : String) : Prop where
  /-- It ends with a line feed. -/
  ends : text.toList.getLast? = some '\n'
  length_eq : (textLines text).length = count
  /-- Line feeds are its only control characters. -/
  visible : ∀ c ∈ text.toList, c = '\n' ∨ 0x20 ≤ c.toNat
  /-- A line has two blanks for each brace that is open before it, and a line that closes a brace
  counts that one as closed. -/
  indented : ∀ before line after, textLines text = before ++ line :: after →
    (indentation line : Int) = 2 * (openBraces before - if closes line then 1 else 0)
  /-- No brace is closed before it is opened. -/
  nonneg : ∀ before after, textLines text = before ++ after → 0 ≤ openBraces before
  /-- All braces are closed after the last line and after no line before it. -/
  closed_iff : ∀ before after, textLines text = before ++ after → before ≠ [] →
    (openBraces before = 0 ↔ after = [])

/-- **The layout of a query** follows from the braces at the ends of its lines, and the number of
its lines from the names and children of its selections. -/
theorem laidOut_render {ss : List (Selection Int)} (hs : ∀ s ∈ nodesAll ss, s.Legible) :
    LaidOut (2 + (nodesAll ss).countP Selection.isLeaf
      + 2 * (nodesAll ss).countP Selection.isBranch) (render ss) := by
  have hquery := enclosed_queryLines hs
  have hlines := hquery.textLines_eq (toList_render ss)
  constructor
  · rw [toList_render, queryLines, linesText_cons, linesText_append]
    simp [List.getLast?_cons, List.getLast?_append]
  · rw [hlines, List.length_map, hquery.length_eq, lineCount]
    omega
  · intro c hc
    rw [toList_render, linesText, List.mem_flatMap] at hc
    obtain ⟨l, hl, hmem⟩ := hc
    rcases List.mem_append.1 hmem with hin | hend
    · exact .inr (hquery.visible l hl c hin)
    · exact .inl (List.mem_singleton.1 hend)
  · intro before line after hsplit
    have hsteps := hquery.steps
    rw [← hlines, hsplit] at hsteps
    obtain ⟨middle, hbefore, hafter⟩ := hsteps.split
    have hmiddle := hbefore.last_eq
    cases hafter with
    | cons hstep _ =>
      rw [hstep.indented, hmiddle]
      omega
  · intro before after hsplit
    have hsteps := hquery.steps
    rw [← hlines, hsplit] at hsteps
    obtain ⟨middle, hbefore, -⟩ := hsteps.split
    have hmiddle := hbefore.last_eq
    omega
  · intro before after hsplit hne
    rw [hlines] at hsplit
    exact hquery.openBraces_eq_zero_iff hsplit hne

/-- Strings with line feeds, quotes and braces, an unnamed selection with arguments, and a named one
whose only child is written as nothing. -/
theorem laidOut_render_braces :
    let leaf (name : String) : Selection Int := .field name [] []
    let filter : Value Int := .object [("name", .string "a \x7b\n\"b\"\n\x7d"), ("of", .object [])]
    let ss : List (Selection Int) := [
      .field "" [⟨"limit", .int 3⟩] [leaf "first", leaf ""],
      .field "second" [⟨"where", filter⟩, ⟨"skip", .int (-5)⟩, ⟨"flag", .enum "true"⟩]
        [leaf "", .field "" [] [leaf "third"]],
      .field "last" [] [leaf ""]]
    LaidOut 8 (render ss) := by
  intro leaf filter ss
  have hs : ∀ s ∈ nodesAll ss, s.Legible := by
    simp [ss, leaf, filter, nodesAll, Selection.nodes, Selection.Legible, Argument.Legible,
      Value.Legible, FieldsLegible]
    decide
  exact laidOut_render hs

end ConceptQuery.GraphQL
