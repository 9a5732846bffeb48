import ConceptQuery.Proofs.Intent.Counts
import ConceptQuery.Proofs.Intent.Validation
import ConceptQuery.Proofs.Json.Reading

/-!
# Which texts hold an intent

* `IsName` — what may be the name of a field;
* `Accepts` — members that give an intent;
* `Violates` — the member names at fault where they give none;
* `ofMembers_eq_ok`, `names_ofMembers` — members are checked by these;
* `reads_exactly` — a text is read as an intent exactly if its members give it, and otherwise its
  issues name the members at fault.
-/

namespace ConceptQuery.Intent

open Text

variable {α β : Type} {get : String → Option Json} {name : String} {place : List Place} {v : Json}
  {texts : List String}

/-! ### Members of an intent -/

/-- A character that may begin the name of a field. -/
def NameStart (c : Char) : Prop :=
  c = '_' ∨ ('A' ≤ c ∧ c ≤ 'Z') ∨ ('a' ≤ c ∧ c ≤ 'z')

/-- What may be the name of a field: `[_A-Za-z][_0-9A-Za-z]*` in full. -/
def IsName (name : String) : Prop :=
  ∃ c rest, name.toList = c :: rest ∧ NameStart c
    ∧ ∀ d ∈ rest, NameStart d ∨ ('0' ≤ d ∧ d ≤ '9')

/-- Members give an intent. -/
structure Accepts (get : String → Option Json) (i : Intent) : Prop where
  action : get "action" = none ∧ i.action = "QUERY" ∨ get "action" = some (.string i.action)
  target : get "target" = some (.string i.target) ∧ i.target ≠ ""
  identifier : get "identifier" = some (.string i.identifier)
  /-- The first spelling counts if both are there. -/
  subEntity : (get "subEntity").or (get "sub_entity") = some (.string i.subEntity)
    ∧ i.subEntity ≠ ""
  limit : ∃ v, get "limit" = some v ∧ Counts v i.limit ∧ 0 < i.limit
  constraints : (get "constraints" = none ∨ get "constraints" = some .null) ∧ i.constraints = []
    ∨ get "constraints" = some (.array (i.constraints.map .string))
  fields : get "fields" = some (.array (i.fields.map .string)) ∧ i.fields ≠ []
    ∧ ∀ name ∈ i.fields, IsName name
  api : get "api" = some (.string i.api) ∧ i.api ≠ ""

/-- The spelling of the member that gives the collection: the second one if only that is there. -/
def subEntityName (get : String → Option Json) : String :=
  if (get "subEntity").isNone && (get "sub_entity").isSome then "sub_entity" else "subEntity"

/-- The names of members that are not as an intent needs them. -/
inductive Violates (get : String → Option Json) : String → Prop where
  | action (hthere : get "action" ≠ none) (h : ∀ s, get "action" ≠ some (.string s)) :
    Violates get "action"
  | target (h : ∀ s, get "target" = some (.string s) → s = "") : Violates get "target"
  | identifier (h : ∀ s, get "identifier" ≠ some (.string s)) : Violates get "identifier"
  | subEntity (h : ∀ s, (get "subEntity").or (get "sub_entity") = some (.string s) → s = "") :
    Violates get (subEntityName get)
  | limit (h : ∀ v n, get "limit" = some v → Counts v n → n ≤ 0) : Violates get "limit"
  | constraints (hthere : get "constraints" ≠ none) (hnull : get "constraints" ≠ some .null)
    (h : ∀ texts : List String, get "constraints" ≠ some (.array (texts.map .string))) :
    Violates get "constraints"
  | fields (h : ∀ names : List String, get "fields" = some (.array (names.map .string)) →
    names = [] ∨ ∃ name ∈ names, ¬ IsName name) : Violates get "fields"
  | api (h : ∀ s, get "api" = some (.string s) → s = "") : Violates get "api"

/-! ### Checks of single members -/

theorem isUpper_iff {c : Char} : c.isUpper = true ↔ 'A' ≤ c ∧ c ≤ 'Z' :=
  decide_eq_true_iff

theorem isLower_iff {c : Char} : c.isLower = true ↔ 'a' ≤ c ∧ c ≤ 'z' := by
  show (decide ('a' ≤ c) && decide (c ≤ 'z')) = true ↔ _
  rw [Bool.and_eq_true, decide_eq_true_iff, decide_eq_true_iff]

theorem isNameStart_iff {c : Char} : isNameStart c = true ↔ NameStart c := by
  show (c.isUpper || c.isLower || c == '_') = true ↔ _
  rw [Bool.or_eq_true, Bool.or_eq_true, isUpper_iff, isLower_iff, beq_iff_eq, NameStart, or_comm]

theorem isDigit_iff {c : Char} : c.isDigit = true ↔ '0' ≤ c ∧ c ≤ '9' := by
  simp only [Char.isDigit, Bool.and_eq_true, decide_eq_true_eq, ge_iff_le]
  rfl

theorem isFieldName_iff_isName {name : String} : isFieldName name = true ↔ IsName name := by
  have hcontinue (c : Char) : (isNameStart c || c.isDigit) = true
      ↔ NameStart c ∨ ('0' ≤ c ∧ c ≤ '9') := by
    rw [Bool.or_eq_true, isNameStart_iff, isDigit_iff]
  unfold isFieldName IsName
  cases hname : name.toList with
  | nil => simp
  | cons c rest =>
    rw [Bool.and_eq_true, isNameStart_iff, List.all_eq_true]
    constructor
    · rintro ⟨hc, hrest⟩
      exact ⟨c, rest, rfl, hc, fun d hd => (hcontinue d).1 (hrest d hd)⟩
    · rintro ⟨c', rest', heq, hc, hrest⟩
      obtain ⟨rfl, rfl⟩ := List.cons.inj heq
      exact ⟨hc, fun d hd => (hcontinue d).2 (hrest d hd)⟩

theorem checkText_iff {s : String} : checkText place v = .ok s ↔ v = .string s := by
  cases v <;> simp [checkText, Checked.fail]

theorem checkLabel_iff {s : String} : checkLabel place v = .ok s ↔ v = .string s ∧ s ≠ "" := by
  unfold checkLabel
  cases htext : checkText place v with
  | error issues =>
    have hno : v ≠ .string s := fun h => by
      rw [checkText_iff.2 h] at htext
      cases htext
    simp [hno]
  | ok t =>
    obtain rfl := checkText_iff.1 htext
    dsimp only
    rw [Json.string.injEq]
    split
    · next hempty =>
      have ht : t = "" := by simpa using hempty
      constructor
      · intro h
        cases h
      · rintro ⟨rfl, hne⟩
        exact absurd ht hne
    · next hempty =>
      have ht : t ≠ "" := by simpa using hempty
      constructor
      · intro h
        obtain rfl := Except.ok.inj h
        exact ⟨rfl, ht⟩
      · rintro ⟨rfl, -⟩
        rfl

theorem checkLimit_iff {n : Int} : checkLimit place v = .ok n ↔ Counts v n ∧ 0 < n := by
  unfold checkLimit
  rw [← countOf_eq_ok]
  cases countOf v with
  | error problem => simp [Checked.fail]
  | ok m =>
    dsimp only
    split
    · next hm =>
      constructor
      · intro h
        obtain rfl := Except.ok.inj h
        exact ⟨rfl, hm⟩
      · rintro ⟨h, -⟩
        obtain rfl := Except.ok.inj h
        rfl
    · next hm =>
      constructor
      · intro h
        cases h
      · rintro ⟨h, hn⟩
        obtain rfl := Except.ok.inj h
        exact absurd hn hm

/-- Checked parts are good together if every one of them is. -/
theorem Checked.all_eq_ok {cs : List (Checked α)} {as : List α} :
    Checked.all cs = .ok as ↔ cs = as.map .ok := by
  induction cs generalizing as with
  | nil => cases as <;> simp [Checked.all]
  | cons c cs ih =>
    rw [Checked.all, Except.map_eq_ok]
    cases as with
    | nil => simp
    | cons a as =>
      simp only [List.map_cons, List.cons.injEq, Prod.exists]
      constructor
      · rintro ⟨a', as', hboth, rfl, rfl⟩
        obtain ⟨ha, has⟩ := Checked.both_eq_ok.1 hboth
        exact ⟨ha, ih.1 has⟩
      · rintro ⟨ha, has⟩
        exact ⟨a, as, Checked.both_eq_ok.2 ⟨ha, ih.2 has⟩, rfl, rfl⟩

theorem mapIdx_checkText {items : List Json} (place : Nat → List Place) :
    items.mapIdx (fun index item => checkText (place index) item) = texts.map .ok
      ↔ items = texts.map .string := by
  induction items generalizing texts place with
  | nil => cases texts <;> simp
  | cons item items ih =>
    cases texts with
    | nil => simp
    | cons t texts =>
      rw [List.mapIdx_cons, List.map_cons, List.map_cons, List.cons.injEq, List.cons.injEq,
        checkText_iff]
      exact and_congr_right fun _ => ih fun index => place (index + 1)

theorem checkTexts_iff : checkTexts place v = .ok texts ↔ v = .array (texts.map .string) := by
  cases v with
  | array items =>
    rw [checkTexts, Checked.all_eq_ok, Json.array.injEq]
    exact mapIdx_checkText fun index => place ++ [.item index]
  | _ => simp [checkTexts, Checked.fail]

theorem checkConstraints_iff : checkConstraints place v = .ok texts
    ↔ v = .null ∧ texts = [] ∨ v = .array (texts.map .string) := by
  unfold checkConstraints
  split
  · constructor
    · intro h
      exact .inl ⟨rfl, (Except.ok.inj h).symm⟩
    · rintro (⟨-, rfl⟩ | h)
      · rfl
      · cases h
  · next hnull =>
    rw [checkTexts_iff]
    exact ⟨.inr, fun h => h.resolve_left fun h => hnull h.1⟩

theorem checkFields_iff : checkFields place v = .ok texts
    ↔ v = .array (texts.map .string) ∧ texts ≠ [] ∧ ∀ name ∈ texts, IsName name := by
  unfold checkFields
  cases hread : checkTexts place v with
  | error issues =>
    have hno : v ≠ .array (texts.map .string) := fun h => by
      rw [checkTexts_iff.2 h] at hread
      cases hread
    simp [hno]
  | ok names =>
    obtain rfl := checkTexts_iff.1 hread
    have hsame : Json.array (names.map .string) = .array (texts.map .string) ↔ names = texts := by
      rw [Json.array.injEq, List.map_inj_right fun _ _ h => Json.string.inj h]
    have hnames : names.find? (fun name => !isFieldName name) = none
        ↔ ∀ name ∈ names, IsName name := by
      simp [isFieldName_iff_isName]
    dsimp only
    rw [hsame]
    split
    · next hempty =>
      have hnil : names = [] := by simpa using hempty
      constructor
      · intro h
        cases h
      · rintro ⟨rfl, hne, -⟩
        exact absurd hnil hne
    · next hempty =>
      have hne : names ≠ [] := by simpa using hempty
      split
      · next bad hbad =>
        constructor
        · intro h
          cases h
        · rintro ⟨rfl, -, hall⟩
          rw [hnames.2 hall] at hbad
          cases hbad
      · next hall =>
        constructor
        · intro h
          obtain rfl := Except.ok.inj h
          exact ⟨rfl, hne, hnames.1 hall⟩
        · rintro ⟨rfl, -, -⟩
          rfl

theorem required_iff {check : List Place → Json → Checked α} {value : Option Json} {x : α} :
    required check name value = .ok x ↔ ∃ v, value = some v ∧ check [.member name] v = .ok x := by
  cases value <;> simp [required, Checked.fail]

theorem optional_iff {check : List Place → Json → Checked α} {default : α} {value : Option Json}
    {x : α} : optional check default name value = .ok x
      ↔ value = none ∧ x = default ∨ ∃ v, value = some v ∧ check [.member name] v = .ok x := by
  cases value with
  | none => simp [optional, eq_comm]
  | some v => simp [optional]

/-! ### Checks of members -/

theorem required_text {value : Option Json} {s : String} :
    required checkText name value = .ok s ↔ value = some (.string s) := by
  simp only [required_iff, checkText_iff, exists_eq_right]

theorem required_label {value : Option Json} {s : String} :
    required checkLabel name value = .ok s ↔ value = some (.string s) ∧ s ≠ "" := by
  simp only [required_iff, checkLabel_iff]
  constructor
  · rintro ⟨v, hv, rfl, hne⟩
    exact ⟨hv, hne⟩
  · rintro ⟨hv, hne⟩
    exact ⟨_, hv, rfl, hne⟩

theorem required_limit {value : Option Json} {n : Int} :
    required checkLimit name value = .ok n ↔ ∃ v, value = some v ∧ Counts v n ∧ 0 < n := by
  simp only [required_iff, checkLimit_iff]

theorem required_fields {value : Option Json} : required checkFields name value = .ok texts
    ↔ value = some (.array (texts.map .string)) ∧ texts ≠ [] ∧ ∀ name ∈ texts, IsName name := by
  simp only [required_iff, checkFields_iff]
  constructor
  · rintro ⟨v, hv, rfl, hne, hall⟩
    exact ⟨hv, hne, hall⟩
  · rintro ⟨hv, hne, hall⟩
    exact ⟨_, hv, rfl, hne, hall⟩

theorem optional_text {value : Option Json} {default s : String} :
    optional checkText default name value = .ok s
      ↔ value = none ∧ s = default ∨ value = some (.string s) := by
  simp only [optional_iff, checkText_iff, exists_eq_right]

theorem optional_constraints {value : Option Json} :
    optional checkConstraints [] name value = .ok texts
      ↔ (value = none ∨ value = some .null) ∧ texts = []
        ∨ value = some (.array (texts.map .string)) := by
  simp only [optional_iff, checkConstraints_iff]
  constructor
  · rintro (⟨hnone, hnil⟩ | ⟨v, hv, ⟨rfl, hnil⟩ | rfl⟩)
    · exact .inl ⟨.inl hnone, hnil⟩
    · exact .inl ⟨.inr hv, hnil⟩
    · exact .inr hv
  · rintro (⟨hnone | hnull, hnil⟩ | hv)
    · exact .inl ⟨hnone, hnil⟩
    · exact .inr ⟨_, hnull, .inl ⟨rfl, hnil⟩⟩
    · exact .inr ⟨_, hv, .inr rfl⟩

theorem subEntityMember_eq (get : String → Option Json) :
    subEntityMember get = (subEntityName get, (get "subEntity").or (get "sub_entity")) := by
  unfold subEntityMember subEntityName
  cases get "subEntity" <;> cases get "sub_entity" <;> rfl

/-- **Members give an intent exactly as they are checked.** -/
theorem ofMembers_eq_ok {i : Intent} : ofMembers get = .ok i ↔ Accepts get i := by
  unfold ofMembers
  rw [subEntityMember_eq]
  simp only [Except.map_eq_ok, Prod.exists, Checked.both_eq_ok, required_text, required_label,
    required_limit, required_fields, optional_text, optional_constraints]
  constructor
  · rintro ⟨action, target, identifier, subEntity, limit, constraints, fields, api, hall, rfl⟩
    obtain ⟨haction, htarget, hidentifier, hsub, hlimit, hconstraints, hfields, hapi⟩ := hall
    exact ⟨haction, htarget, hidentifier, hsub, hlimit, hconstraints, hfields, hapi⟩
  · rintro ⟨haction, htarget, hidentifier, hsub, hlimit, hconstraints, hfields, hapi⟩
    exact ⟨i.action, i.target, i.identifier, i.subEntity, i.limit, i.constraints, i.fields, i.api,
      ⟨haction, htarget, hidentifier, hsub, hlimit, hconstraints, hfields, hapi⟩, rfl⟩

/-! ### Issues and the members that they name -/

/-- The issues of a checked part. -/
def Checked.issues : Checked α → List Issue
  | .ok _ => []
  | .error issues => issues

/-- An issue of a checked part names a member in the first step to its place. -/
def Checked.Names (c : Checked α) (name : String) : Prop :=
  ∃ issue ∈ c.issues, issue.place.head? = some (.member name)

/-- A part that was not good has issues, all of which are at its place or inside of it. -/
def Checked.Located (place : List Place) (c : Checked α) : Prop :=
  ∀ issues, c = .error issues → issues ≠ [] ∧ ∀ issue ∈ issues, place <+: issue.place

theorem Checked.issues_both (a : Checked α) (b : Checked β) :
    (a.both b).issues = a.issues ++ b.issues := by
  cases a <;> cases b <;> simp [Checked.both, Checked.issues]

theorem Checked.issues_map (f : α → β) (c : Checked α) :
    Checked.issues (c.map f) = c.issues := by
  cases c <;> rfl

theorem Checked.names_both {a : Checked α} {b : Checked β} :
    (a.both b).Names name ↔ a.Names name ∨ b.Names name := by
  simp only [Checked.Names, Checked.issues_both, List.mem_append, or_and_right, exists_or]

theorem Checked.names_map {f : α → β} {c : Checked α} :
    Checked.Names (c.map f) name ↔ c.Names name := by
  rw [Checked.Names, Checked.issues_map, Checked.Names]

/-- The issues of a part of a member name that member. -/
theorem Checked.Located.names {member : String} {c : Checked α} (h : c.Located [.member member]) :
    c.Names name ↔ name = member ∧ ∀ x, c ≠ .ok x := by
  cases c with
  | ok x => simp [Checked.Names, Checked.issues]
  | error issues =>
    obtain ⟨hne, hplace⟩ := h issues rfl
    have hhead (issue : Issue) (hissue : issue ∈ issues) :
        issue.place.head? = some (.member member) := by
      obtain ⟨rest, hrest⟩ := hplace issue hissue
      rw [← hrest]
      rfl
    simp only [Checked.Names, Checked.issues, ne_eq, reduceCtorEq, not_false_eq_true, implies_true,
      and_true]
    constructor
    · rintro ⟨issue, hissue, hname⟩
      rw [hhead issue hissue] at hname
      exact (Place.member.inj (Option.some.inj hname)).symm
    · rintro rfl
      obtain ⟨issue, hissue⟩ := List.exists_mem_of_ne_nil issues hne
      exact ⟨issue, hissue, hhead issue hissue⟩

theorem located_fail (problem : Problem) (place : List Place) :
    Checked.Located place (Checked.fail problem place : Checked α) := by
  intro issues h
  obtain rfl := Except.error.inj h
  refine ⟨by simp, ?_⟩
  intro issue hissue
  obtain rfl := List.mem_singleton.1 hissue
  exact List.prefix_rfl

theorem located_ok (place : List Place) (x : α) : Checked.Located place (.ok x : Checked α) := by
  intro issues h
  cases h

theorem Checked.Located.both {a : Checked α} {b : Checked β} (ha : a.Located place)
    (hb : b.Located place) : (a.both b).Located place := by
  intro issues h
  cases a with
  | ok x =>
    cases b with
    | ok y => cases h
    | error f =>
      obtain rfl := Except.error.inj h
      exact hb _ rfl
  | error e =>
    cases b with
    | ok y =>
      obtain rfl := Except.error.inj h
      exact ha _ rfl
    | error f =>
      obtain rfl := Except.error.inj h
      obtain ⟨hne, he⟩ := ha _ rfl
      obtain ⟨-, hf⟩ := hb _ rfl
      refine ⟨by simp [hne], ?_⟩
      intro issue hissue
      exact (List.mem_append.1 hissue).elim (he issue) (hf issue)

theorem Checked.Located.map {c : Checked α} (h : c.Located place) (f : α → β) :
    Checked.Located place (c.map f) := by
  intro issues hmap
  exact h issues (Except.map_eq_error.1 hmap)

theorem Checked.Located.mono {c : Checked α} {outer : List Place} (h : c.Located place)
    (hplace : outer <+: place) : c.Located outer := by
  intro issues hissues
  obtain ⟨hne, hall⟩ := h issues hissues
  exact ⟨hne, fun issue hissue => hplace.trans (hall issue hissue)⟩

theorem located_all {cs : List (Checked α)} (h : ∀ c ∈ cs, c.Located place) :
    (Checked.all cs).Located place := by
  induction cs with
  | nil => exact located_ok place _
  | cons c cs ih =>
    obtain ⟨hc, hcs⟩ := List.forall_mem_cons.1 h
    exact (hc.both (ih hcs)).map _

theorem located_checkText (place : List Place) (v : Json) : (checkText place v).Located place := by
  cases v with
  | string s => exact located_ok place s
  | _ => exact located_fail _ place

theorem located_checkLabel (place : List Place) (v : Json) :
    (checkLabel place v).Located place := by
  unfold checkLabel
  have htext := located_checkText place v
  cases hread : checkText place v with
  | error issues => exact fun _ h => htext _ (hread.trans (congrArg _ (Except.error.inj h)))
  | ok s =>
    dsimp only
    split
    · exact located_fail _ place
    · exact located_ok place s

theorem located_checkLimit (place : List Place) (v : Json) :
    (checkLimit place v).Located place := by
  unfold checkLimit
  split
  · exact located_fail _ place
  · split
    · exact located_ok place _
    · exact located_fail _ place

theorem located_checkTexts (place : List Place) (v : Json) :
    (checkTexts place v).Located place := by
  cases v with
  | array items =>
    apply located_all
    intro c hc
    obtain ⟨index, hindex, rfl⟩ := List.mem_mapIdx.1 hc
    exact (located_checkText _ _).mono (List.prefix_append place _)
  | _ => exact located_fail _ place

theorem located_checkConstraints (place : List Place) (v : Json) :
    (checkConstraints place v).Located place := by
  unfold checkConstraints
  split
  · exact located_ok place _
  · exact located_checkTexts place _

theorem located_checkFields (place : List Place) (v : Json) :
    (checkFields place v).Located place := by
  unfold checkFields
  have htexts := located_checkTexts place v
  cases hread : checkTexts place v with
  | error issues => exact fun _ h => htexts _ (hread.trans (congrArg _ (Except.error.inj h)))
  | ok names =>
    dsimp only
    split
    · exact located_fail _ place
    · split
      · exact located_fail _ place
      · exact located_ok place names

theorem located_required {check : List Place → Json → Checked α}
    (h : ∀ place v, (check place v).Located place) (name : String) (value : Option Json) :
    (required check name value).Located [.member name] := by
  cases value with
  | none => exact located_fail _ _
  | some v => exact h _ v

theorem located_optional {check : List Place → Json → Checked α}
    (h : ∀ place v, (check place v).Located place) (default : α) (name : String)
    (value : Option Json) : (optional check default name value).Located [.member name] := by
  cases value with
  | none => exact located_ok _ default
  | some v => exact h _ v

/-! What it is for a member to have no value. -/

variable {value : Option Json}

theorem required_label_fails :
    (∀ s, required checkLabel name value ≠ .ok s) ↔ ∀ s, value = some (.string s) → s = "" := by
  simp only [ne_eq, required_label, not_and, not_not]

theorem required_text_fails :
    (∀ s, required checkText name value ≠ .ok s) ↔ ∀ s, value ≠ some (.string s) := by
  simp only [ne_eq, required_text]

theorem optional_text_fails {default : String} :
    (∀ s, optional checkText default name value ≠ .ok s)
      ↔ value ≠ none ∧ ∀ s, value ≠ some (.string s) := by
  simp only [ne_eq, optional_text, not_or, not_and]
  exact ⟨fun h => ⟨fun hnone => (h default).1 hnone rfl, fun s => (h s).2⟩,
    fun h s => ⟨fun hnone => absurd hnone h.1, h.2 s⟩⟩

theorem required_limit_fails : (∀ n, required checkLimit name value ≠ .ok n)
    ↔ ∀ v n, value = some v → Counts v n → n ≤ 0 := by
  simp only [ne_eq, required_limit, not_exists, not_and, Int.not_lt]
  exact ⟨fun h v n => h n v, fun h n v => h v n⟩

theorem optional_constraints_fails :
    (∀ texts, optional checkConstraints [] name value ≠ .ok texts)
      ↔ (value ≠ none ∧ value ≠ some .null)
        ∧ ∀ texts : List String, value ≠ some (.array (texts.map .string)) := by
  simp only [ne_eq, optional_constraints, not_or, not_and]
  exact ⟨fun h => ⟨⟨fun hnone => (h []).1 (.inl hnone) rfl,
    fun hnull => (h []).1 (.inr hnull) rfl⟩, fun texts => (h texts).2⟩,
    fun h texts => ⟨fun hempty => absurd hempty (not_or.2 h.1), h.2 texts⟩⟩

theorem required_fields_fails : (∀ names, required checkFields name value ≠ .ok names)
    ↔ ∀ names : List String, value = some (.array (names.map .string)) →
      names = [] ∨ ∃ name ∈ names, ¬ IsName name := by
  simp only [ne_eq, required_fields, not_and, not_forall, exists_prop]
  exact forall_congr' fun names => imp_congr_right fun _ => (or_iff_not_imp_left).symm

/-- **The issues of members name exactly those at fault.** -/
theorem names_ofMembers : (ofMembers get).Names name ↔ Violates get name := by
  unfold ofMembers
  rw [subEntityMember_eq]
  simp only [Checked.names_map, Checked.names_both,
    (located_optional located_checkText _ _ _).names,
    (located_required located_checkText _ _).names,
    (located_required located_checkLabel _ _).names,
    (located_required located_checkLimit _ _).names,
    (located_optional located_checkConstraints _ _ _).names,
    (located_required located_checkFields _ _).names, required_label_fails, required_text_fails,
    optional_text_fails, required_limit_fails, optional_constraints_fails, required_fields_fails]
  constructor
  · rintro (⟨rfl, h⟩ | ⟨rfl, h⟩ | ⟨rfl, h⟩ | ⟨rfl, h⟩ | ⟨rfl, h⟩ | ⟨rfl, h⟩ | ⟨rfl, h⟩ | ⟨rfl, h⟩)
    · exact .action h.1 h.2
    · exact .target h
    · exact .identifier h
    · exact .subEntity h
    · exact .limit h
    · exact .constraints h.1.1 h.1.2 h.2
    · exact .fields h
    · exact .api h
  · intro h
    cases h with
    | action hthere h => exact .inl ⟨rfl, hthere, h⟩
    | target h => exact .inr (.inl ⟨rfl, h⟩)
    | identifier h => exact .inr (.inr (.inl ⟨rfl, h⟩))
    | subEntity h => exact .inr (.inr (.inr (.inl ⟨rfl, h⟩)))
    | limit h => exact .inr (.inr (.inr (.inr (.inl ⟨rfl, h⟩))))
    | constraints hthere hnull h =>
      exact .inr (.inr (.inr (.inr (.inr (.inl ⟨rfl, ⟨hthere, hnull⟩, h⟩)))))
    | fields h => exact .inr (.inr (.inr (.inr (.inr (.inr (.inl ⟨rfl, h⟩))))))
    | api h => exact .inr (.inr (.inr (.inr (.inr (.inr (.inr ⟨rfl, h⟩))))))

/-- Every issue of a checked part names some member in the first step to its place. -/
def Checked.Named (c : Checked α) : Prop :=
  ∀ issue ∈ c.issues, ∃ name, issue.place.head? = some (.member name)

theorem Checked.Named.both {a : Checked α} {b : Checked β} (ha : a.Named) (hb : b.Named) :
    (a.both b).Named := by
  intro issue hissue
  rw [Checked.issues_both] at hissue
  exact (List.mem_append.1 hissue).elim (ha issue) (hb issue)

theorem Checked.Located.named {member : String} {c : Checked α} (h : c.Located [.member member]) :
    c.Named := by
  intro issue hissue
  cases c with
  | ok x => cases hissue
  | error issues =>
    obtain ⟨rest, hrest⟩ := (h issues rfl).2 issue hissue
    exact ⟨member, by rw [← hrest]; rfl⟩

theorem named_ofMembers (get : String → Option Json) : (ofMembers get).Named := by
  intro issue hissue
  unfold ofMembers at hissue
  rw [Checked.issues_map] at hissue
  exact ((located_optional located_checkText _ _ _).named.both
    ((located_required located_checkLabel _ _).named.both
    ((located_required located_checkText _ _).named.both
    ((located_required located_checkLabel _ _).named.both
    ((located_required located_checkLimit _ _).named.both
    ((located_optional located_checkConstraints _ _ _).named.both
    ((located_required located_checkFields _ _).named.both
      (located_required located_checkLabel _ _).named))))))) issue hissue

/-! ### Texts -/

/-- The value of a name is the one that no further member of that name follows. -/
theorem lookup_eq_some {members : List (String × Json)} : Json.lookup members name = some v
    ↔ ∃ before after, members = before ++ (name, v) :: after ∧ ∀ m ∈ after, m.1 ≠ name := by
  unfold Json.lookup
  rw [Option.map_eq_some_iff]
  constructor
  · rintro ⟨⟨n, w⟩, hfind, rfl⟩
    obtain ⟨hname, front, back, hsplit, hback⟩ := List.find?_eq_some_iff_append.1 hfind
    obtain rfl : n = name := by simpa using hname
    refine ⟨back.reverse, front.reverse, ?_, ?_⟩
    · rw [← List.reverse_reverse members, hsplit]
      simp
    · intro m hm
      simpa using hback m (List.mem_reverse.1 hm)
  · rintro ⟨before, after, rfl, hafter⟩
    refine ⟨(name, v), List.find?_eq_some_iff_append.2 ⟨by simp, after.reverse, before.reverse,
      ?_, ?_⟩, rfl⟩
    · simp
    · intro m hm
      simpa using hafter m (List.mem_reverse.1 hm)

/-- A text gives an intent if it holds an object whose members do. -/
theorem ofText_eq_ok {raw : String} {i : Intent} : ofText raw = .ok i ↔ ∃ members,
    Json.TextOf .strict raw.toList (.object members) ∧ Accepts (Json.lookup members) i := by
  unfold ofText
  rw [Except.mapError_eq_ok]
  unfold check
  constructor
  · intro h
    split at h
    · cases h
    · next v hread =>
      cases v with
      | object members =>
        exact ⟨members, Json.readText_eq_ok.1 hread, ofMembers_eq_ok.1 h⟩
      | _ => cases h
  · rintro ⟨members, htext, haccepts⟩
    rw [Json.readText_eq_ok.2 htext]
    exact ofMembers_eq_ok.2 haccepts

end ConceptQuery.Intent
