import ConceptQuery.Http.Message
import ConceptQuery.Json.Document

/-!
# Contents of responses

* `Http.Response.codec`, `Http.Response.text` — the text of a response;
* `Http.Response.json` — the value of the document in a response;
* `Http.Response.isSuccess` — whether a response reports success.
-/

namespace ConceptQuery.Http

open Text

namespace Response

/-- The codec of a response: the one that its client has for the content type, else UTF-8. -/
def codec (r : Response) : Codec :=
  ((header? r.headers "content-type").bind r.client.codec?).getD Charset.utf8.codec

/-- The text of a response. An empty body has the empty text, whatever the codec. -/
def text (r : Response) : Except Failure String :=
  (if r.body.isEmpty then .ok "" else r.codec r.body).mapError .undecodable

/-- The limits of the documents in a response. -/
def limits (r : Response) : Json.Limits :=
  { Json.Limits.lenient with depth := r.client.depth }

/-- The value of the document in a response. -/
def json (r : Response) : Except Json.Refusal Json :=
  Json.ofDocument r.limits r.body

/-- Whether a response reports success. -/
def isSuccess (r : Response) : Bool :=
  200 ≤ r.status && r.status < 300

end Response

end ConceptQuery.Http
