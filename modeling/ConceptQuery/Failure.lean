import ConceptQuery.Intent.Issue
import ConceptQuery.Json.Display

/-!
# Failures

Everything that can abort an operation.  The first five are failures of the pipeline itself, which
callers tell apart; the others come from values that an operation cannot use.

* `Failure` — a cause;
* `Failure.message` — its text;
* `Failure.status` — the HTTP status that reports it.
-/

namespace ConceptQuery

/-- Why an operation was aborted. Tags and texts are kept as the caller gave them. -/
inductive Failure where
  /-- An intent text with issues. The text here is the first line of the report on them; the lines
  that go into the issues are left out of it, as the issues stand beside it. -/
  | malformedIntent (text : String) (issues : List Intent.Issue)
  /-- An intent that names a variant nobody registered. -/
  | unsupportedApi (api : Json)
  /-- A mapping document that cannot be read, perhaps with the reason. -/
  | mappingLoad (api source : Json) (reason : Option Json)
  /-- A cache backend that cannot be reached or answers with an error. -/
  | cacheUnavailable (text : String)
  /-- An API that answered with a status other than success, or with no status at all. -/
  | apiFailed (api status body : Json)
  /-- Any other failure of the pipeline. -/
  | pipeline (text : String)
  | missingKey (key : Json)
  | invalidValue (text : String)
  | outOfRange (text : String)
  | wrongType (text : String)
  | missingAttribute (text : String)
  | invalidUrl (text : String)
  /-- A codec that cannot go on. -/
  | undecodable (text : String)
  /-- A document that is nested more deeply than its reader follows. -/
  | tooDeep (text : String)
  /-- A document with half of a surrogate pair that stands alone, which the texts here cannot hold:
  what becomes of it is left open. -/
  | loneSurrogate
  | notInitialised (text : String)

/-- The text of a failure. -/
def Failure.message : Failure → String
  | .malformedIntent text _ => text
  | .unsupportedApi api => "Unsupported API variant: " ++ api.display
  | .mappingLoad api source reason =>
    "Failed to load mapping store for " ++ api.display ++ " from " ++ source.plain
      ++ match reason with
        | none => ""
        | some r => ": " ++ r.plain
  | .cacheUnavailable text => text
  | .apiFailed api .null body => "Upstream API " ++ api.display ++ " unreachable: " ++ body.plain
  | .apiFailed api status _ =>
    "Upstream API " ++ api.display ++ " returned HTTP " ++ status.plain
  | .pipeline text => text
  | .missingKey key => key.display
  | .invalidValue text => text
  | .outOfRange text => text
  | .wrongType text => text
  | .missingAttribute text => text
  | .invalidUrl text => text
  | .undecodable text => text
  | .tooDeep text => text
  | .loneSurrogate => "Lone surrogate"
  | .notInitialised text => text

/-- The HTTP status that reports a failure. -/
def Failure.status : Failure → Nat
  | .malformedIntent _ _ => 422
  | .unsupportedApi _ => 400
  | .cacheUnavailable _ => 503
  | .apiFailed _ _ _ => 502
  | _ => 500

/-- The detail of the HTTP report on a failed action. -/
def Failure.detail (failure : Failure) (action : String) : String :=
  "Failed to " ++ action ++ ": " ++ failure.message

end ConceptQuery
