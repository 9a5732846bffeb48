import ConceptQuery.Text.Hex

/-!
# GraphQL string literals

* `GraphQL.escapeChar` — a character inside a string literal: quote, backslash and control
  characters are escaped, all else stands for itself;
* `GraphQL.escape` — the inside of the literal of a text;
* `GraphQL.quote` — the literal with its quotes.
-/

namespace ConceptQuery.GraphQL

open Text

/-- A character inside a string literal. -/
def escapeChar (c : Char) : List Char :=
  if c = '"' then ['\\', '"']
  else if c = '\\' then ['\\', '\\']
  else if c = '\x08' then ['\\', 'b']
  else if c = '\x0c' then ['\\', 'f']
  else if c = '\n' then ['\\', 'n']
  else if c = '\r' then ['\\', 'r']
  else if c = '\t' then ['\\', 't']
  else if c.toNat < 0x20 then '\\' :: 'u' :: hex4 c.toNat
  else [c]

/-- The inside of the string literal of a text. -/
def escape (s : String) : String :=
  .ofList (s.toList.flatMap escapeChar)

/-- The string literal of a text. -/
def quote (s : String) : String :=
  "\"" ++ escape s ++ "\""

end ConceptQuery.GraphQL
