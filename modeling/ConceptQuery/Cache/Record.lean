import ConceptQuery.Text.FormEncoding
import ConceptQuery.Time.Timestamp

/-!
# Cache records

* `Cache.promptKey` — the key of a prompt: a resource name that spells the exact prompt text;
* `Cache.Record` — a cached compilation of one prompt, over the type of its texts;
* `Cache.Record.age` — the time since a record was made;
* `Cache.Record.isExpired` — whether a record has reached its lifetime;
* `Cache.Stats` — what a backend tells about its records.
-/

namespace ConceptQuery.Cache

/-- What every key begins with. -/
def keyStart : String := "urn:prompt:"

/-- The key of a prompt. -/
def promptKey (prompt : String) : String :=
  keyStart ++ Text.formEncode prompt

/-- A cached compilation of one prompt. Records that are written hold texts; records as a backend
reports them may hold other values in their place. -/
structure Record (τ : Type) where
  /-- The key of the prompt. -/
  key : String
  prompt : τ
  /-- The intent text that the query was compiled from. -/
  intentText : τ
  query : τ
  /-- The answer of the API, if it was cached. -/
  result : Option τ
  createdAt : Timestamp

namespace Record

variable {τ σ : Type}

/-- The microseconds since a record was made. -/
def age (r : Record τ) (now : Timestamp) : Int :=
  now.instant - r.createdAt.instant

/-- Whether a record has reached a lifetime in microseconds. -/
def isExpired (r : Record τ) (ttl : Int) (now : Timestamp) : Bool :=
  ttl ≤ r.age now

/-- A record with other texts. -/
def map (f : τ → σ) (r : Record τ) : Record σ :=
  { key := r.key, prompt := f r.prompt, intentText := f r.intentText, query := f r.query,
    result := r.result.map f, createdAt := r.createdAt }

end Record

/-- What a backend tells about itself. -/
structure Stats where
  backend : String
  /-- Where the records are, under the name that the backend has for it. -/
  place : Option (String × String)
  /-- The number of records, expired ones included. -/
  totalEntries : Int
deriving Repr, DecidableEq, Inhabited

end ConceptQuery.Cache
