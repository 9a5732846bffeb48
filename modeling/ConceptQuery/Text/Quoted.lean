import ConceptQuery.Text.Hex
import ConceptQuery.Text.Printable

/-!
# Quoted texts in messages

The form in which a message shows a text: between single quotes, or between double quotes if it
holds a single quote and no double one, with the backslash, the quote in use, line feed, carriage
return and tab escaped, other unprintable characters by their code point, and all else as it is.

* `quoteFor` — the quote in use;
* `shownChar` — one character between given quotes;
* `quoted` — the whole form.
-/

namespace ConceptQuery.Text

/-- The quote a text is shown between. -/
def quoteFor (s : List Char) : Char :=
  if s.contains '\'' && !s.contains '"' then '"' else '\''

/-- A character as it is shown between the given quotes. -/
def shownChar (quote c : Char) : List Char :=
  if c = quote || c = '\\' then ['\\', c]
  else if c = '\n' then ['\\', 'n']
  else if c = '\r' then ['\\', 'r']
  else if c = '\t' then ['\\', 't']
  else if isPrintable c then [c]
  else if c.toNat < 0x100 then '\\' :: 'x' :: hexPad 2 c.toNat
  else if c.toNat < 0x10000 then '\\' :: 'u' :: hexPad 4 c.toNat
  else '\\' :: 'U' :: hexPad 8 c.toNat

/-- A text as messages show it. -/
def quoted (s : String) : String :=
  let cs := s.toList
  let q := quoteFor cs
  .ofList (q :: cs.flatMap (shownChar q) ++ [q])

end ConceptQuery.Text
