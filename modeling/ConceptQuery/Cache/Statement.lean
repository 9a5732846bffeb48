import ConceptQuery.Cache.Record

/-!
# Cache records in SPARQL

A record is one resource, named by its key, with one property for each text and one for the time.

* `Sparql.quote` — the literal of a text;
* `Cache.Statement.select`, `Cache.Statement.count` — the queries for one record and for their
  number;
* `Cache.Statement.replace`, `Cache.Statement.delete` — the updates that write and delete a record;
* `Cache.Statement.probe` — a query that any endpoint answers.
-/

namespace ConceptQuery.Sparql

/-- A character inside a string literal: backslash, quote, line feed, carriage return and tab are
escaped, all else stands for itself. -/
def escapeChar (c : Char) : List Char :=
  if c = '\\' then ['\\', '\\']
  else if c = '"' then ['\\', '"']
  else if c = '\n' then ['\\', 'n']
  else if c = '\r' then ['\\', 'r']
  else if c = '\t' then ['\\', 't']
  else [c]

/-- The literal of a text given by its characters. -/
def quoteChars (s : List Char) : List Char :=
  '"' :: s.flatMap escapeChar ++ ['"']

/-- The literal of a text. -/
def quote (s : String) : String :=
  .ofList (quoteChars s.toList)

end ConceptQuery.Sparql

namespace ConceptQuery.Cache.Statement

/-- The lines that name the vocabularies. -/
def vocabularies : String :=
  "PREFIX cache: <http://example.org/cache#>\nPREFIX xsd: <http://www.w3.org/2001/XMLSchema#>\n"

/-- A group between braces on lines of its own. -/
def block (lines : List String) : String :=
  "\x7b\n" ++ "\n".intercalate lines ++ "\n\x7d"

/-- A key as the name of a resource. -/
def resource (key : String) : String :=
  "<" ++ key ++ ">"

/-- The query for the record of a key. -/
def select (key : String) : String :=
  vocabularies ++ "SELECT ?prompt ?intent ?query ?result ?createdAt WHERE " ++ block
    ["  " ++ resource key ++ " a cache:CachedEntry ;",
      "    cache:originalPrompt ?prompt ;",
      "    cache:hasNLPResponse ?intent ;",
      "    cache:hasGraphQLQuery ?query ;",
      "    cache:createdAt ?createdAt .",
      "  OPTIONAL \x7b " ++ resource key ++ " cache:hasResult ?result \x7d"]
    ++ "\nLIMIT 1"

/-- The query for the number of records. -/
def count : String :=
  vocabularies
    ++ "SELECT (COUNT(?entry) AS ?total) WHERE \x7b ?entry a cache:CachedEntry \x7d"

/-- The update that deletes the record of a key. -/
def delete (key : String) : String :=
  "DELETE WHERE \x7b " ++ resource key ++ " ?p ?o \x7d"

/-- A line that gives a text as a property. -/
def property (name value : String) : String :=
  "    cache:" ++ name ++ " " ++ Sparql.quote value ++ " ;"

/-- The lines that state a record made at a time. -/
def facts (r : Record String) (time : String) : List String :=
  ["  " ++ resource r.key ++ " a cache:CachedEntry ;",
    property "originalPrompt" r.prompt,
    property "hasNLPResponse" r.intentText,
    property "hasGraphQLQuery" r.query]
    ++ (r.result.map (property "hasResult")).toList
    ++ ["    cache:createdAt " ++ Sparql.quote time ++ "^^xsd:dateTime ."]

/-- The update that writes a record in place of the one under its key. The time is given in
universal time, which it must have. -/
def replace (r : Record String) : Except Failure String := do
  let t ← r.createdAt.toUtc
  return vocabularies ++ delete r.key ++ " ;\nINSERT DATA " ++ block (facts r t.toText)

/-- A query that any endpoint answers. -/
def probe : String := "ASK \x7b\x7d"

end ConceptQuery.Cache.Statement
