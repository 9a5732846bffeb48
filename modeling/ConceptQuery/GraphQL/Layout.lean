import ConceptQuery.GraphQL.Document
import ConceptQuery.GraphQL.Quoted

/-!
# The layout of GraphQL queries

A query is written with one selection a line, two blanks of indentation a level, and nested
selections between braces at the ends of lines and on lines of their own.

* `GraphQL.Value.render`, `GraphQL.Argument.render` — values and arguments, on one line;
* `GraphQL.Selection.lines` — a selection as indented lines; one without a name gives way to its
  children;
* `GraphQL.render` — the whole query.
-/

namespace ConceptQuery.GraphQL

mutual

/-- A value on one line. -/
def Value.render : Value Int → String
  | .string text => quote text
  | .int number => toString number
  | .enum name => name
  | .object fields => "\x7b " ++ ", ".intercalate (renderFields fields) ++ " \x7d"

/-- The fields of an input object. -/
def renderFields : List (String × Value Int) → List String
  | [] => []
  | (key, value) :: rest => (key ++ ": " ++ value.render) :: renderFields rest

end

/-- An argument on one line. -/
def Argument.render (a : Argument Int) : String :=
  a.name ++ ": " ++ a.value.render

/-- Two blanks a level. -/
def indent (depth : Nat) : String :=
  .ofList (List.replicate (2 * depth) ' ')

/-- A field name with its arguments, if it has any. -/
def head (name : String) (arguments : List (Argument Int)) : String :=
  if arguments.isEmpty then name
  else name ++ "(" ++ ", ".intercalate (arguments.map Argument.render) ++ ")"

mutual

/-- A selection as lines at a depth. -/
def Selection.lines (depth : Nat) : Selection Int → List String
  | .field name arguments children =>
    if name.isEmpty then linesAll depth children
    else if children.isEmpty then [indent depth ++ head name arguments]
    else
      (indent depth ++ head name arguments ++ " \x7b")
        :: (linesAll (depth + 1) children ++ [indent depth ++ "\x7d"])

/-- A list of selections as lines at a depth. -/
def linesAll (depth : Nat) : List (Selection Int) → List String
  | [] => []
  | s :: rest => s.lines depth ++ linesAll depth rest

end

/-- The lines of a query. -/
def queryLines (selections : List (Selection Int)) : List String :=
  "query \x7b" :: (linesAll 1 selections ++ ["\x7d"])

/-- A query as text. -/
def render (selections : List (Selection Int)) : String :=
  String.join ((queryLines selections).map (· ++ "\n"))

end ConceptQuery.GraphQL
