import ConceptQuery.Http.Network
import ConceptQuery.Http.Content
import ConceptQuery.Json.Printer
import ConceptQuery.Variant.Registry

/-!
# Dispatching queries

A query is posted to the endpoint of the variant it is meant for, and the text of the response is
the result.

* `Variant.request` — the request that carries a query to a variant;
* `Variant.outcome` — what a reply from a variant amounts to;
* `dispatch` — sends a query to the variant registered under a tag.
-/

namespace ConceptQuery

open Http

/-- The document that carries a query. -/
def queryDocument (query : Json) : Json :=
  .object [("query", query)]

/-- The request that carries a query to a variant, with the variant's own authorisation. -/
def Variant.request (v : Variant) (query : Json) : Request :=
  .document v.endpoint v.bearer? ((queryDocument query).print .compact)

/-- What a reply from a variant amounts to: the text of a success, a failure for all else. The text
of a response that has none is missed in both cases. -/
def Variant.outcome (v : Variant) : Reply → Except Failure String
  | .response r => do
    let text ← r.text
    if r.isSuccess then return text
    throw (.apiFailed (.string v.name) (.integer r.status) (.string text))
  | .failed reason => .error (.apiFailed (.string v.name) .null (.string reason))
  | .invalidUrl reason => .error (.invalidUrl reason)

theorem Variant.outcome_of_text {v : Variant} {r : Response} {text : String}
    (h : r.text = .ok text) : v.outcome (.response r) = if r.isSuccess then .ok text
      else .error (.apiFailed (.string v.name) (.integer r.status) (.string text)) := by
  rw [outcome, h]
  rfl

theorem Variant.outcome_of_text_error {v : Variant} {r : Response} {f : Failure}
    (h : r.text = .error f) : v.outcome (.response r) = .error f := by
  rw [outcome, h]
  rfl

/-- The failure of a query that has no JSON form. -/
def noDocument : Failure :=
  .invalidValue "Out of range float values are not JSON compliant"

/-- Sends a query to the variant registered under a tag. Nothing is sent if there is none, or if
the query has no JSON form. -/
def dispatch (variants : Registry) (query : Json) (tag : Option String) (network : Network) :
    Except Failure String × Network :=
  match variants.get tag with
  | .error f => (.error f, network)
  | .ok v =>
    if query.isFinite then
      let (reply, network) := network.exchange (v.request query)
      (v.outcome reply, network)
    else (.error noDocument, network)

end ConceptQuery
