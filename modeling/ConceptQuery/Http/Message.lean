import ConceptQuery.Http.Client
import ConceptQuery.Text.LetterCase

/-!
# HTTP messages

* `Http.Headers`, `Http.header?` — header lines, looked up whatever the case of their names;
* `Http.Request`, `Http.Request.form`, `Http.Request.document` — what is sent, and the two shapes
  it takes;
* `Http.Response`, `Http.Reply` — what comes back, if anything does.
-/

namespace ConceptQuery.Http

/-- Header lines: names with values. -/
abbrev Headers := List (String × String)

/-- The value of a header, several values joined by commas; case does not matter in its name. -/
def header? (headers : Headers) (name : String) : Option String :=
  let values := headers.filter fun line => Text.toLower line.1 == Text.toLower name
  if values.isEmpty then none else some (", ".intercalate (values.map (·.2)))

/-- A posted request, with the headers that matter. -/
structure Request where
  url : String
  accept : String
  contentType : String
  authorization : Option String
  body : String
deriving Repr, DecidableEq

/-- What is accepted if nothing in particular is asked for. -/
def anything : String := "*/*"

/-- The content type of JSON documents. -/
def jsonType : String := "application/json"

/-- A posted form. -/
def Request.form (url accept body : String) : Request :=
  { url, accept, contentType := "application/x-www-form-urlencoded", authorization := none, body }

/-- A posted JSON document. -/
def Request.document (url : String) (authorization : Option String) (body : String) : Request :=
  { url, accept := anything, contentType := jsonType, authorization, body }

/-- A response, and the client that receives it. -/
structure Response where
  status : Nat
  headers : Headers
  body : List UInt8
  client : Client := {}
deriving Inhabited

/-- What comes back for a request: a response, or no response at all. -/
inductive Reply where
  | response (r : Response)
  /-- The exchange failed. -/
  | failed (reason : String)
  /-- The address is no address. -/
  | invalidUrl (reason : String)

instance : Inhabited Reply := ⟨.response { status := 200, headers := [], body := [] }⟩

end ConceptQuery.Http
