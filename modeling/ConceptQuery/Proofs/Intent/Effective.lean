import ConceptQuery.Proofs.Intent.Acceptance
import ConceptQuery.Proofs.Json.Printing

/-!
# What an intent text is read by

The intent of a text, and the issues of a text that gives none, are told by the values of the
members that an intent is made from. Neither the layout of the text nor the order of its members,
nor the spelling of its strings, nor members that another one overwrites, nor members of other names
have a say. Only the issues of a sub-entity tell which of its two names it was found under.

* `Json.Same`, `Json.Same.refl` — values that are equal but for the order of members and for
  overwritten ones;
* `SameMembers` — objects that give the same values to the members of an intent;
* `checkText_same` to `checkFields_same`, `required_same`, `optional_same` — a check takes equal
  values for one;
* `ofMembersWith`, `ofMembers_eq` — members with the sub-entity checked apart;
* `Failure.renamed` — a report with another name of the sub-entity;
* `reads_effective` — texts with the same members have the same intent, or the same issues but for
  the name of the sub-entity;
* `names_spelling` — a text in which that name makes a difference.
-/

namespace ConceptQuery

/-! ### Equal values -/

/-- Two JSON values are equal but for the order in which the members of objects are written, and for
members that another one of the same name overwrites. -/
inductive Json.Same : Json → Json → Prop where
  | null : Same .null .null
  | bool (b : Bool) : Same (.bool b) (.bool b)
  | integer (n : Int) : Same (.integer n) (.integer n)
  | float (x : Binary64) : Same (.float x) (.float x)
  | string (s : String) : Same (.string s) (.string s)
  | array {items items' : List Json} (h : List.Forall₂ Same items items') :
    Same (.array items) (.array items')
  | object {members members' : List (String × Json)}
    (h : ∀ name, Option.Rel Same (lookup members name) (lookup members' name)) :
    Same (.object members) (.object members')

theorem Json.lookup_mem {members : List (String × Json)} {name : String} {v : Json}
    (h : lookup members name = some v) : (name, v) ∈ members := by
  obtain ⟨before, after, rfl, -⟩ := Intent.lookup_eq_some.1 h
  exact List.mem_append_right _ List.mem_cons_self

mutual

theorem Json.Same.refl : (v : Json) → v.Same v
  | .null => .null
  | .bool b => .bool b
  | .integer n => .integer n
  | .float x => .float x
  | .string s => .string s
  | .array items => .array (Json.Same.refl_items items)
  | .object members => .object fun name => by
    cases h : Json.lookup members name with
    | none => exact .none
    | some v => exact .some (Json.Same.refl_members members (name, v) (Json.lookup_mem h))

theorem Json.Same.refl_items : (items : List Json) → List.Forall₂ Json.Same items items
  | [] => .nil
  | item :: rest => .cons (Json.Same.refl item) (Json.Same.refl_items rest)

theorem Json.Same.refl_members :
    (members : List (String × Json)) → ∀ m ∈ members, m.2.Same m.2
  | [], _, hm => by cases hm
  | (_, v) :: rest, m, hm => by
    rcases List.mem_cons.1 hm with rfl | hm
    · exact Json.Same.refl v
    · exact Json.Same.refl_members rest m hm

end

namespace Intent

/-- The members that an intent is made from, but for the sub-entity. -/
def plainNames : List String :=
  ["action", "target", "identifier", "limit", "constraints", "fields", "api"]

/-- Two objects give equal values to the members that an intent is made from, or no value. -/
structure SameMembers (get other : String → Option Json) : Prop where
  plain : ∀ name ∈ plainNames, Option.Rel Json.Same (get name) (other name)
  /-- The first spelling counts if both are there. -/
  subEntity : Option.Rel Json.Same ((get "subEntity").or (get "sub_entity"))
    ((other "subEntity").or (other "sub_entity"))

variable {α β : Type} {get get' : String → Option Json} {place : List Place} {v w : Json}

/-! ### Checks of equal values -/

theorem checkText_same (h : v.Same w) (place : List Place) :
    checkText place v = checkText place w := by
  cases h <;> rfl

theorem checkLabel_same (h : v.Same w) (place : List Place) :
    checkLabel place v = checkLabel place w := by
  unfold checkLabel
  rw [checkText_same h]

theorem countOf_same (h : v.Same w) : countOf v = countOf w := by
  cases h <;> rfl

theorem checkLimit_same (h : v.Same w) (place : List Place) :
    checkLimit place v = checkLimit place w := by
  unfold checkLimit
  rw [countOf_same h]

theorem mapIdx_checkText_same {items items' : List Json} (h : List.Forall₂ Json.Same items items')
    (place : Nat → List Place) :
    items.mapIdx (fun index item => checkText (place index) item)
      = items'.mapIdx fun index item => checkText (place index) item := by
  induction h generalizing place with
  | nil => rfl
  | cons hitem _ ih =>
    rw [List.mapIdx_cons, List.mapIdx_cons, checkText_same hitem]
    exact congrArg _ (ih fun index => place (index + 1))

theorem checkTexts_same (h : v.Same w) (place : List Place) :
    checkTexts place v = checkTexts place w := by
  cases h with
  | array h => exact congrArg Checked.all (mapIdx_checkText_same h fun i => place ++ [.item i])
  | _ => rfl

theorem checkConstraints_same (h : v.Same w) (place : List Place) :
    checkConstraints place v = checkConstraints place w := by
  have htexts := checkTexts_same h place
  cases h with
  | null => rfl
  | _ => exact htexts

theorem checkFields_same (h : v.Same w) (place : List Place) :
    checkFields place v = checkFields place w := by
  unfold checkFields
  rw [checkTexts_same h]

theorem required_same {check : List Place → Json → Checked α}
    (hcheck : ∀ {v w : Json}, v.Same w → ∀ place, check place v = check place w) (name : String)
    {value value' : Option Json} (h : Option.Rel Json.Same value value') :
    required check name value = required check name value' := by
  cases h with
  | none => rfl
  | some h => exact hcheck h _

theorem optional_same {check : List Place → Json → Checked α}
    (hcheck : ∀ {v w : Json}, v.Same w → ∀ place, check place v = check place w) (default : α)
    (name : String) {value value' : Option Json} (h : Option.Rel Json.Same value value') :
    optional check default name value = optional check default name value' := by
  cases h with
  | none => rfl
  | some h => exact hcheck h _

/-! ### Members with the sub-entity checked apart -/

/-- The check of a sub-entity that is given under a name. -/
def checkSubEntity (get : String → Option Json) (name : String) : Checked String :=
  required checkLabel name ((get "subEntity").or (get "sub_entity"))

/-- The intent that members give with a sub-entity that was checked apart. -/
def ofMembersWith (get : String → Option Json) (subEntity : Checked String) : Checked Intent :=
  ((optional checkText defaultAction "action" (get "action")).both
    ((required checkLabel "target" (get "target")).both
    ((required checkText "identifier" (get "identifier")).both
    (subEntity.both
    ((required checkLimit "limit" (get "limit")).both
    ((optional checkConstraints [] "constraints" (get "constraints")).both
    ((required checkFields "fields" (get "fields")).both
      (required checkLabel "api" (get "api"))))))))).map
    fun (action, target, identifier, subEntity, limit, constraints, fields, api) =>
      { action, target, identifier, subEntity, limit, constraints, fields, api }

theorem ofMembers_eq (get : String → Option Json) :
    ofMembers get = ofMembersWith get (checkSubEntity get (subEntityName get)) := by
  unfold ofMembers
  rw [subEntityMember_eq]
  rfl

/-- **Only the values of the members of an intent are read.** -/
theorem SameMembers.ofMembersWith_eq (h : SameMembers get get') (subEntity : Checked String) :
    ofMembersWith get subEntity = ofMembersWith get' subEntity := by
  have hplain := h.plain
  simp only [plainNames, List.forall_mem_cons, List.not_mem_nil, false_implies, implies_true,
    and_true] at hplain
  obtain ⟨haction, htarget, hidentifier, hlimit, hconstraints, hfields, hapi⟩ := hplain
  unfold ofMembersWith
  rw [optional_same checkText_same _ _ haction, required_same checkLabel_same _ htarget,
    required_same checkText_same _ hidentifier, required_same checkLimit_same _ hlimit,
    optional_same checkConstraints_same _ _ hconstraints, required_same checkFields_same _ hfields,
    required_same checkLabel_same _ hapi]

theorem SameMembers.checkSubEntity_eq (h : SameMembers get get') (name : String) :
    checkSubEntity get name = checkSubEntity get' name :=
  required_same checkLabel_same name h.subEntity

/-! ### The name of the sub-entity -/

/-- A step to a member, with another name for the sub-entity. -/
def Place.renamed (name : String) : Place → Place
  | .member given =>
    .member (if given = "subEntity" ∨ given = "sub_entity" then name else given)
  | .item index => .item index

/-- An issue whose place begins with another name for the sub-entity. -/
def Issue.renamed (name : String) (issue : Issue) : Issue :=
  { issue with place := issue.place.modifyHead (Place.renamed name) }

/-- A checked part with another name for the sub-entity in its issues. -/
def Checked.renamed (name : String) (c : Checked α) : Checked α :=
  c.mapError fun issues => issues.map (Issue.renamed name)

theorem Checked.renamed_both (name : String) (a : Checked α) (b : Checked β) :
    (a.both b).renamed name = (a.renamed name).both (b.renamed name) := by
  cases a <;> cases b <;> simp [Checked.both, Checked.renamed, Except.mapError]

theorem Checked.renamed_map (name : String) (f : α → β) (c : Checked α) :
    Checked.renamed name (c.map f) = (c.renamed name).map f := by
  cases c <;> rfl

/-- The other parts have no say in how a sub-entity is renamed. -/
theorem renamed_ofMembersWith {name : String} {c c' : Checked String}
    (h : c.renamed name = c'.renamed name) (get : String → Option Json) :
    (ofMembersWith get c).renamed name = (ofMembersWith get c').renamed name := by
  unfold ofMembersWith
  simp only [Checked.renamed_map, Checked.renamed_both, h]

/-- A name of the sub-entity. -/
def IsSubEntityName (given : String) : Prop :=
  given = "subEntity" ∨ given = "sub_entity"

theorem isSubEntityName_subEntityName (get : String → Option Json) :
    IsSubEntityName (subEntityName get) := by
  unfold subEntityName
  split
  · exact .inr rfl
  · exact .inl rfl

theorem renamed_fail {given : String} (hgiven : IsSubEntityName given) (name : String)
    (problem : Problem) :
    (Checked.fail problem [.member given] : Checked α).renamed name
      = .fail problem [.member name] := by
  have hplace : Place.renamed name (.member given) = .member name :=
    congrArg Place.member (if_pos hgiven)
  simp [Checked.renamed, Checked.fail, Except.mapError, Issue.renamed, hplace]

/-- The check of a sub-entity tells the name that it was given under, and nothing else of it. -/
theorem renamed_checkSubEntity {given : String} (hgiven : IsSubEntityName given) (name : String)
    (get : String → Option Json) :
    (checkSubEntity get given).renamed name = checkSubEntity get name := by
  unfold checkSubEntity
  cases (get "subEntity").or (get "sub_entity") with
  | none => exact renamed_fail hgiven name _
  | some v =>
    show (checkLabel [.member given] v).renamed name = checkLabel [.member name] v
    cases v with
    | string s =>
      unfold checkLabel
      dsimp only [checkText]
      split
      · exact renamed_fail hgiven name _
      · rfl
    | _ => exact renamed_fail hgiven name _

/-- Renaming makes no difference to issues of other members, nor to those that have the name. -/
theorem Checked.renamed_eq_self {name : String} {c : Checked α}
    (h : ∀ given, c.Names given → IsSubEntityName given → given = name) : c.renamed name = c := by
  cases c with
  | ok x => rfl
  | error issues =>
    refine congrArg Except.error ((List.map_congr_left fun issue hissue => ?_).trans
      (List.map_id issues))
    rw [id]
    obtain ⟨problem, place⟩ := issue
    cases place with
    | nil => rfl
    | cons step rest =>
      cases step with
      | item index => rfl
      | member given =>
        have hname := h given ⟨_, hissue, rfl⟩
        simp only [Issue.renamed, List.modifyHead_cons, Place.renamed]
        split
        · next hgiven => rw [hname hgiven]
        · rfl

theorem renamed_ofMembers (get : String → Option Json) :
    (ofMembers get).renamed (subEntityName get) = ofMembers get := by
  apply Checked.renamed_eq_self
  intro given hnames hgiven
  unfold IsSubEntityName at hgiven
  cases names_ofMembers.1 hnames with
  | subEntity => rfl
  | _ => simp at hgiven

/-- **Members with equal values give the same intent, or the same issues** but for the name of the
sub-entity. -/
theorem SameMembers.ofMembers_renamed (h : SameMembers get get') :
    (ofMembers get).renamed (subEntityName get') = ofMembers get' := by
  have hsub : (checkSubEntity get (subEntityName get)).renamed (subEntityName get')
      = (checkSubEntity get (subEntityName get')).renamed (subEntityName get') := by
    rw [renamed_checkSubEntity (isSubEntityName_subEntityName get),
      renamed_checkSubEntity (isSubEntityName_subEntityName get')]
  rw [ofMembers_eq, renamed_ofMembersWith hsub, h.ofMembersWith_eq, h.checkSubEntity_eq,
    ← ofMembers_eq, renamed_ofMembers]

/-- A sub-entity that is found under the same name in both, or that is good, makes no difference. -/
theorem SameMembers.ofMembers_eq_of (h : SameMembers get get')
    (hname : subEntityName get = subEntityName get'
      ∨ ∃ s, (get "subEntity").or (get "sub_entity") = some (.string s) ∧ s ≠ "") :
    ofMembers get = ofMembers get' := by
  rw [ofMembers_eq, ofMembers_eq, ← h.ofMembersWith_eq, ← h.checkSubEntity_eq]
  rcases hname with hname | ⟨s, hs, hne⟩
  · rw [hname]
  · have hgood (name : String) : checkSubEntity get name = .ok s := required_label.2 ⟨hs, hne⟩
    rw [hgood, hgood]

end Intent

/-- A report on an intent text, with another name for the sub-entity. -/
def Failure.renamed (name : String) : Failure → Failure
  | .malformedIntent text issues => .malformedIntent text (issues.map (Intent.Issue.renamed name))
  | f => f

namespace Intent

/-! ### Texts -/

theorem check_of_textOf {raw : String} {members : List (String × Json)}
    (h : Json.TextOf .strict raw.toList (.object members)) :
    check raw = ofMembers (Json.lookup members) := by
  unfold check
  rw [Json.readText_eq_ok.2 h]
  rfl

theorem ofText_renamed (raw name : String) :
    (ofText raw).mapError (Failure.renamed name) = ((check raw).renamed name).mapError fun issues =>
      .malformedIntent (summary issues.length) issues := by
  unfold ofText Checked.renamed
  cases check raw with
  | ok i => rfl
  | error issues => simp [Except.mapError, Failure.renamed]

/-- **An intent text is read by the values of its members.** Take two texts that hold objects, and
let the members that an intent is made from have equal values in both, or none: for each name the
last member counts, and the last `subEntity`, if there is one, before `sub_entity`. Then both texts
give the same intent or none. The issues are the same, in the same order, but for the name of the
sub-entity, which is the one that it was found under; they are all the same if that is one name, or
if the sub-entity is good. -/
theorem reads_effective {raw raw' : String} {members members' : List (String × Json)}
    (h : Json.TextOf ⟨some 200, true⟩ raw.toList (.object members))
    (h' : Json.TextOf ⟨some 200, true⟩ raw'.toList (.object members'))
    (hsame : SameMembers (Json.lookup members) (Json.lookup members')) :
    (∀ i, ofText raw = .ok i ↔ ofText raw' = .ok i)
      ∧ (ofText raw).mapError (Failure.renamed (subEntityName (Json.lookup members')))
        = ofText raw'
      ∧ ((subEntityName (Json.lookup members) = subEntityName (Json.lookup members')
          ∨ ∃ s, (Json.lookup members "subEntity").or (Json.lookup members "sub_entity")
            = some (.string s) ∧ s ≠ "") → ofText raw = ofText raw') := by
  have hrenamed : (ofText raw).mapError (Failure.renamed (subEntityName (Json.lookup members')))
      = ofText raw' := by
    rw [ofText_renamed, check_of_textOf h, hsame.ofMembers_renamed, ← check_of_textOf h']
    rfl
  refine ⟨fun i => ?_, hrenamed, fun hname => ?_⟩
  · rw [← hrenamed, Except.mapError_eq_ok]
  · unfold ofText
    rw [check_of_textOf h, check_of_textOf h', hsame.ofMembers_eq_of hname]

/-- Three texts of an intent with an empty sub-entity, with other members around, in another order,
with other escapes and blanks, and with an object that is equal but for an overwritten member. In
the second one the sub-entity has its other name. -/
theorem reads_effective_respelled :
    let members := [("target", .string "é"),
      ("constraints", .object [("a", .integer 1), ("b", .null)]), ("sub_entity", .string "")]
    let members' := [("subEntity", .string ""), ("target", .string "old"), ("x", .array [.null]),
      ("constraints", .object [("b", .null), ("a", .bool true), ("a", .integer 1)]),
      ("sub_entity", .string "s"), ("target", .string "é")]
    let raw := (Json.object members).print .compact
    let raw' := (Json.object members').print .ascii
    let raw'' := (Json.object (("y", .null) :: members.reverse)).print .ascii
    (∀ i, ofText raw = .ok i ↔ ofText raw' = .ok i)
      ∧ (ofText raw).mapError (Failure.renamed "subEntity") = ofText raw'
      ∧ ofText raw = ofText raw'' := by
  intro members members' raw raw' raw''
  have hinteger : (Json.integer 1).Writable := .integer (by decide)
  have hobject : (Json.object [("a", .integer 1), ("b", .null)]).Writable :=
    .object (by simp [hinteger, Json.Writable.null])
  have hobject' : (Json.object [("b", .null), ("a", .bool true), ("a", .integer 1)]).Writable :=
    .object (by simp [hinteger, Json.Writable.null, Json.Writable.bool])
  have harray : (Json.array [.null]).Writable := .array (by simp [Json.Writable.null])
  have hequal : (Json.object [("a", .integer 1), ("b", .null)]).Same
      (.object [("b", .null), ("a", .bool true), ("a", .integer 1)]) := by
    refine .object fun name => ?_
    by_cases ha : "a" = name
    · subst ha
      exact .some (.integer 1)
    · by_cases hb : "b" = name
      · subst hb
        exact .some .null
      · simp [Json.lookup, ha, hb]
  have hsame : SameMembers (Json.lookup members) (Json.lookup members') := by
    constructor
    · simp [plainNames, members, members', Json.lookup, hequal, Json.Same.refl]
    · exact .some (.string "")
  have hsame'' : SameMembers (Json.lookup members)
      (Json.lookup (("y", .null) :: members.reverse)) := by
    constructor
    · simp [plainNames, members, Json.lookup, Json.Same.refl]
    · exact .some (.string "")
  have htext {style : Json.Style} (hstyle : style.Lawful) {members : List (String × Json)}
      (h : ∀ m ∈ members, m.2.Writable) (hdepth : Json.nestingMembers members < 200) :
      Json.TextOf .strict ((Json.object members).print style).toList (.object members) :=
    Json.textOf_print_within hstyle (.object h) (Json.enough_some hdepth)
  have h := htext Json.lawful_compact
    (show ∀ m ∈ members, m.2.Writable by simp [members, hobject, Json.Writable.string]) (by decide)
  have h' := htext Json.lawful_ascii (show ∀ m ∈ members', m.2.Writable by
    simp [members', hobject', harray, Json.Writable.string]) (by decide)
  have h'' := htext Json.lawful_ascii
    (show ∀ m ∈ ("y", .null) :: members.reverse, m.2.Writable by
      simp [members, hobject, Json.Writable.string, Json.Writable.null]) (by decide)
  obtain ⟨hok, hrenamed, -⟩ := reads_effective h h' hsame
  exact ⟨hok, hrenamed, (reads_effective h h'' hsame'').2.2 (.inl (by decide))⟩

/-- An empty sub-entity is reported under the name that it was given. -/
theorem names_spelling :
    ¬ ∀ (raw raw' : String) (members members' : List (String × Json)),
      Json.TextOf ⟨some 200, true⟩ raw.toList (.object members) →
      Json.TextOf ⟨some 200, true⟩ raw'.toList (.object members') →
      SameMembers (Json.lookup members) (Json.lookup members') → ofText raw = ofText raw' := by
  intro h
  have htext (name : String) : Json.TextOf .strict
      ((Json.object [(name, .string "")]).print .compact).toList (.object [(name, .string "")]) :=
    Json.textOf_print_within Json.lawful_compact (.object (by simp [Json.Writable.string]))
      (Json.enough_some (by simp [Json.nestingMembers, Json.nesting]))
  have hsame : SameMembers (Json.lookup [("sub_entity", .string "")])
      (Json.lookup [("subEntity", .string "")]) := by
    constructor
    · simp [plainNames, Json.lookup]
    · exact .some (.string "")
  have heq := h _ _ _ _ (htext "sub_entity") (htext "subEntity") hsame
  unfold ofText at heq
  rw [check_of_textOf (htext "sub_entity"), check_of_textOf (htext "subEntity")] at heq
  have hissues := (Failure.malformedIntent.inj (Except.error.inj heq)).2
  revert hissues
  decide

end Intent

end ConceptQuery
