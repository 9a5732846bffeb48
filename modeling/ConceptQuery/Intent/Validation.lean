import ConceptQuery.Failure
import ConceptQuery.Intent.Basic
import ConceptQuery.Intent.Count
import ConceptQuery.Json.Reader

/-!
# Validating intent texts

An intent text is a JSON object whose members are checked one by one; the report on a bad text
lists the issues of all members in the order of the fields of an intent.

* `Intent.Checked` — a part of an intent, or the issues that were found instead;
* `Intent.required`, `Intent.optional` — a member that must or may be there;
* `Intent.checkText`, `Intent.checkLabel`, `Intent.checkLimit`, `Intent.checkConstraints`,
  `Intent.checkFields` — the checks of single members;
* `Intent.subEntityMember` — the spelling under which the collection is given;
* `Intent.ofMembers`, `Intent.ofText` — an intent from an object and from a text.
-/

namespace ConceptQuery.Intent

/-- A part of an intent, or the issues that were found instead. -/
abbrev Checked (α : Type) := Except (List Issue) α

/-- Both of two checked parts, or the issues of both. -/
def Checked.both {α β : Type} : Checked α → Checked β → Checked (α × β)
  | .ok a, .ok b => .ok (a, b)
  | .ok _, .error f => .error f
  | .error e, .ok _ => .error e
  | .error e, .error f => .error (e ++ f)

/-- All of a list of checked parts, or the issues of all of them. -/
def Checked.all {α : Type} : List (Checked α) → Checked (List α)
  | [] => .ok []
  | c :: rest => (c.both (all rest)).map fun (a, as) => a :: as

/-- One problem with one place. -/
def Checked.fail {α : Type} (problem : Problem) (place : List Place) : Checked α :=
  .error [⟨problem, place⟩]

/-- A member that must be there. -/
def required {α : Type} (check : List Place → Json → Checked α) (name : String)
    (value : Option Json) : Checked α :=
  match value with
  | none => .fail .missing [.member name]
  | some v => check [.member name] v

/-- A member that may be absent. -/
def optional {α : Type} (check : List Place → Json → Checked α) (default : α) (name : String)
    (value : Option Json) : Checked α :=
  match value with
  | none => .ok default
  | some v => check [.member name] v

/-- Any text. -/
def checkText (place : List Place) : Json → Checked String
  | .string s => .ok s
  | _ => .fail .notString place

/-- A text that is not empty. -/
def checkLabel (place : List Place) (v : Json) : Checked String :=
  match checkText place v with
  | .error issues => .error issues
  | .ok s => if s.isEmpty then .fail .emptyString place else .ok s

/-- A positive count. -/
def checkLimit (place : List Place) (v : Json) : Checked Int :=
  match countOf v with
  | .error problem => .fail problem place
  | .ok n => if 0 < n then .ok n else .fail .notPositive place

/-- A list of texts. -/
def checkTexts (place : List Place) : Json → Checked (List String)
  | .array items =>
    .all (items.mapIdx fun index item => checkText (place ++ [.item index]) item)
  | _ => .fail .notArray place

/-- A list of texts, or null for none. -/
def checkConstraints (place : List Place) (v : Json) : Checked (List String) :=
  match v with
  | .null => .ok []
  | v => checkTexts place v

/-- Whether a character may begin a field name. -/
def isNameStart (c : Char) : Bool :=
  c.isAlpha || c == '_'

/-- Whether a text is a field name: a letter or underscore, then letters, digits and
underscores. -/
def isFieldName (s : String) : Bool :=
  match s.toList with
  | [] => false
  | c :: rest => isNameStart c && rest.all fun d => isNameStart d || d.isDigit

/-- A list of field names that is not empty. -/
def checkFields (place : List Place) (v : Json) : Checked (List String) :=
  match checkTexts place v with
  | .error issues => .error issues
  | .ok names =>
    if names.isEmpty then .fail .emptyArray place
    else match names.find? (!isFieldName ·) with
      | some name => .fail (.notFieldName (Text.quoted name)) place
      | none => .ok names

/-- The name and value of the member that gives the collection. The first spelling counts if both
are there, and is the one that is missing if neither is. -/
def subEntityMember (get : String → Option Json) : String × Option Json :=
  match get "subEntity", get "sub_entity" with
  | none, some v => ("sub_entity", some v)
  | v, _ => ("subEntity", v)

/-- The intent that members give. -/
def ofMembers (get : String → Option Json) : Checked Intent :=
  let (subEntityName, subEntityValue) := subEntityMember get
  ((optional checkText defaultAction "action" (get "action")).both
    ((required checkLabel "target" (get "target")).both
    ((required checkText "identifier" (get "identifier")).both
    ((required checkLabel subEntityName subEntityValue).both
    ((required checkLimit "limit" (get "limit")).both
    ((optional checkConstraints [] "constraints" (get "constraints")).both
    ((required checkFields "fields" (get "fields")).both
      (required checkLabel "api" (get "api"))))))))).map
    fun (action, target, identifier, subEntity, limit, constraints, fields, api) =>
      { action, target, identifier, subEntity, limit, constraints, fields, api }

/-- The intent that a JSON value gives. -/
def ofJson (v : Json) : Checked Intent :=
  match v with
  | .object _ => ofMembers v.member?
  | _ => .fail .notObject []

/-- The intent that a text gives, or its issues. -/
def check (raw : String) : Checked Intent :=
  match Json.readText .strict raw.toList with
  | .error _ => .fail .notJson []
  | .ok v => ofJson v

/-- The intent that a text gives. -/
def ofText (raw : String) : Except Failure Intent :=
  (check raw).mapError fun issues => .malformedIntent (summary issues.length) issues

end ConceptQuery.Intent
