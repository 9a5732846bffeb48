import ConceptQuery.Http.Message
import ConceptQuery.Json.Value

/-!
# Messages of the service

* `Web.Request` — what a client sends to the service;
* `Web.Content`, `Web.Answer` — what the service sends back;
* `Web.Answer.document`, `Web.Answer.detail`, `Web.Answer.unhandled` — the shapes of answers.
-/

namespace ConceptQuery

namespace Web

/-- What a client sends. The target is a path, perhaps with a query. -/
structure Request where
  method : String
  target : String
  headers : Http.Headers
  body : List UInt8
deriving Inhabited

/-- What an answer holds: a JSON document or a plain text. -/
inductive Content where
  | document (j : Json)
  | text (s : String)
deriving Inhabited

/-- What the service sends back. -/
structure Answer where
  status : Nat
  content : Content
  headers : Http.Headers := []
deriving Inhabited

namespace Answer

/-- The answer to a request whose handling broke down. -/
def unhandled : Answer :=
  { status := 500, content := .text "Internal Server Error" }

/-- An answer that holds a document; it breaks down if the document has no JSON form. -/
def document (status : Nat) (j : Json) : Answer :=
  if j.isFinite then { status, content := .document j } else unhandled

/-- An answer that says what is wrong. -/
def detail (status : Nat) (what : Json) : Answer :=
  document status (.object [("detail", what)])

/-- Whether handling broke down. -/
def isUnhandled (a : Answer) : Bool :=
  match a.content with
  | .text s => a.status == 500 && s == "Internal Server Error"
  | .document _ => false

/-- An answer with further headers. -/
def withHeaders (a : Answer) (headers : Http.Headers) : Answer :=
  { a with headers := a.headers ++ headers }

end Answer

end Web

end ConceptQuery
