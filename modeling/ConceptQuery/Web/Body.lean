import ConceptQuery.Http.Content
import ConceptQuery.Json.Reader
import ConceptQuery.Web.Message

/-!
# Bodies of requests

A body is an object with texts as members.  It is read as JSON if its content type says so, and as
a text otherwise, which is no object.

* `Web.Problem` — what is wrong with a body;
* `Web.isJsonType` — whether a content type announces JSON;
* `Web.bodyOf` — the body of a request;
* `Web.textMember` — a text among the members of a body;
* `Web.PromptForm`, `Web.QueryForm` — the two kinds of bodies.
-/

namespace ConceptQuery.Web

open Http

/-- What is wrong with a body. The input is the value that is at fault, or the one that lacks a
member. -/
inductive Problem where
  /-- There is no body. -/
  | noBody
  | notJson (reason : String) (position : Nat)
  | notObject (input : Json)
  | missing (name : String) (input : Json)
  | notText (name : String) (input : Json)
  | tooShort (name : String) (input : Json)

namespace Problem

/-- The report on a problem. -/
def report (type : String) (place : List Json) (words : String) (input : Json)
    (context : List (String × Json)) : Json :=
  .object ([("type", .string type), ("loc", .array (.string "body" :: place)),
    ("msg", .string words), ("input", input)]
    ++ if context.isEmpty then [] else [("ctx", .object context)])

/-- A problem as answers report it. -/
def toJson : Problem → Json
  | .noBody => report "missing" [] "Field required" .null []
  | .notJson reason position =>
    report "json_invalid" [.integer position] "JSON decode error" (.object [])
      [("error", .string reason)]
  | .notObject input =>
    report "model_attributes_type" []
      "Input should be a valid dictionary or object to extract fields from" input []
  | .missing name input => report "missing" [.string name] "Field required" input []
  | .notText name input =>
    report "string_type" [.string name] "Input should be a valid string" input []
  | .tooShort name input =>
    report "string_too_short" [.string name] "String should have at least 1 character" input
      [("min_length", .integer 1)]

end Problem

/-- The answer to a request whose body has problems. -/
def rejected (problems : List Problem) : Answer :=
  .detail 422 (.array (problems.map Problem.toJson))

/-- Whether a content type announces JSON. -/
def isJsonType (contentType : String) : Bool :=
  let type := Text.toLower (.ofList (Text.trim Text.isWhiteSpace (contentType.toList.takeWhile (· != ';'))))
  match type.splitOn "/" with
  | ["application", subtype] => subtype == "json" || subtype.endsWith "+json"
  | _ => false

/-- Reads a body that is announced as JSON. -/
def readJson (body : List UInt8) : Except Answer Json :=
  let broken := Answer.detail 400 (.string "There was an error parsing the body")
  match (Text.Charset.detect body).decode body with
  | .error _ => .error broken
  | .ok text =>
    match Json.readUnmarked .lenient text with
    | .ok v => .ok v
    | .error f =>
      if f.cause.isNotation then .error (rejected [.notJson f.cause.words (f.position text)])
      else if f.cause = .loneSurrogate then .error .unhandled
      else .error broken

/-- The body of a request, if there is one. -/
def bodyOf (r : Request) : Except Answer (Option Json) :=
  if r.body.isEmpty then .ok none
  else if isJsonType ((header? r.headers "content-type").getD "") then (readJson r.body).map some
  else .ok (some (.string (.ofList (Text.Utf8.decodeLossy r.body))))

/-- A text among the members of an object, perhaps not an empty one. -/
def textMember (members : List (String × Json)) (name : String) (nonempty : Bool) :
    Except Problem String :=
  match Json.lookup members name with
  | none => .error (.missing name (.object members))
  | some (.string s) =>
    if nonempty && s.isEmpty then .error (.tooShort name (.string s)) else .ok s
  | some v => .error (.notText name v)

/-- A prompt. -/
structure PromptForm where
  prompt : String

/-- A prompt for an API. -/
structure QueryForm where
  prompt : String
  api : String

/-- Reads the members of a body. -/
def ofMembers {α : Type} (read : List (String × Json) → Except (List Problem) α) :
    Option Json → Except (List Problem) α
  | none => .error [.noBody]
  | some (.object members) => read members
  | some v => .error [.notObject v]

/-- The prompt in a body. -/
def PromptForm.ofBody : Option Json → Except (List Problem) PromptForm :=
  ofMembers fun members =>
    match textMember members "prompt" true with
    | .ok prompt => .ok ⟨prompt⟩
    | .error p => .error [p]

/-- The prompt and the API in a body. -/
def QueryForm.ofBody : Option Json → Except (List Problem) QueryForm :=
  ofMembers fun members =>
    match textMember members "prompt" true, textMember members "api" false with
    | .ok prompt, .ok api => .ok ⟨prompt, api⟩
    | .ok _, .error q => .error [q]
    | .error p, .ok _ => .error [p]
    | .error p, .error q => .error [p, q]

end ConceptQuery.Web
