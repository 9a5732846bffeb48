import ConceptQuery.Web.Message

/-!
# Requests from other origins

Every origin may use the service, with credentials, by every method and with every header.

* `Web.isPreflight` — whether a browser asks beforehand what it may send;
* `Web.preflight` — the answer to that;
* `Web.allowOrigin` — an answer that its origin may read.
-/

namespace ConceptQuery.Web

open Http

/-- The methods that other origins may use. -/
def allowedMethods : List String :=
  ["DELETE", "GET", "HEAD", "OPTIONS", "PATCH", "POST", "PUT", "QUERY"]

/-- What an answer to an origin depends on. -/
def preflightDependsOn : List String :=
  ["Origin", "Access-Control-Request-Method", "Access-Control-Request-Headers",
    "Access-Control-Request-Private-Network"]

/-- The headers that let an origin read an answer. -/
def originHeaders (origin : String) : Headers :=
  [("access-control-allow-origin", origin), ("access-control-allow-credentials", "true")]

/-- Whether a browser asks beforehand what it may send. -/
def isPreflight (r : Request) : Bool :=
  r.method == "OPTIONS" && (header? r.headers "access-control-request-method").isSome

/-- What a browser asks for in vain. -/
def refusals (r : Request) : List String :=
  (if allowedMethods.contains ((header? r.headers "access-control-request-method").getD "") then []
    else ["method"])
  ++ if (header? r.headers "access-control-request-private-network").isSome then ["private-network"]
    else []

/-- The answer to a browser that asks beforehand. -/
def preflight (r : Request) (origin : String) : Answer :=
  let headers := originHeaders origin
    ++ [("access-control-allow-methods", ", ".intercalate allowedMethods),
      ("access-control-max-age", "600"), ("vary", ", ".intercalate preflightDependsOn)]
    ++ ((header? r.headers "access-control-request-headers").map
        fun asked => ("access-control-allow-headers", asked)).toList
  match refusals r with
  | [] => { status := 200, content := .text "OK", headers }
  | refused =>
    { status := 400, content := .text ("Disallowed CORS " ++ ", ".intercalate refused), headers }

/-- An answer that its origin may read, unless handling broke down. -/
def allowOrigin (origin : String) (a : Answer) : Answer :=
  if a.isUnhandled then a else a.withHeaders (originHeaders origin ++ [("vary", "Origin")])

end ConceptQuery.Web
