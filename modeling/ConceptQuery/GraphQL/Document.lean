/-!
# GraphQL documents

The part of the GraphQL language that queries for mapped concepts need: one anonymous query whose
selections have arguments and nested selections.  A selection whose name is empty stands for a
concept without a mapping.

Numbers are a parameter: a document is written over the integers, and a draft of one may hold
numbers in another form until they are checked.

* `GraphQL.Value` — an argument value;
* `GraphQL.Argument`, `GraphQL.Selection` — a named value, and a field with its arguments and
  nested selections;
* `GraphQL.Selection.splice` — unnamed selections are replaced by their children;
* `GraphQL.Value.check`, `GraphQL.Selection.check` — the numbers of a draft are checked in the
  order in which they are written.
-/

namespace ConceptQuery.GraphQL

/-- An argument value over a type of numbers. -/
inductive Value (ν : Type) where
  | string (text : String)
  | int (number : ν)
  | enum (name : String)
  | object (fields : List (String × Value ν))
deriving Inhabited

/-- A named argument. -/
structure Argument (ν : Type) where
  name : String
  value : Value ν

/-- A field with its arguments and nested selections. -/
inductive Selection (ν : Type) where
  | field (name : String) (arguments : List (Argument ν)) (children : List (Selection ν))
deriving Inhabited

variable {ν μ ε : Type}

mutual

/-- The selections that stand in place of one: itself with its children spliced, or its children
if it has no name. -/
def Selection.splice : Selection ν → List (Selection ν)
  | .field name arguments children =>
    if name.isEmpty then spliceAll children else [.field name arguments (spliceAll children)]

/-- A list of selections with every unnamed one replaced by its children. -/
def spliceAll : List (Selection ν) → List (Selection ν)
  | [] => []
  | s :: rest => s.splice ++ spliceAll rest

end

mutual

/-- A value with its numbers checked. -/
def Value.check (f : ν → Except ε μ) : Value ν → Except ε (Value μ)
  | .string text => .ok (.string text)
  | .int number => (f number).map .int
  | .enum name => .ok (.enum name)
  | .object fields => (checkFields f fields).map .object

/-- The fields of an input object with their numbers checked. -/
def checkFields (f : ν → Except ε μ) : List (String × Value ν) → Except ε (List (String × Value μ))
  | [] => .ok []
  | (key, value) :: rest => do
    let value ← value.check f
    let rest ← checkFields f rest
    return (key, value) :: rest

end

/-- An argument with its numbers checked. -/
def Argument.check (f : ν → Except ε μ) (a : Argument ν) : Except ε (Argument μ) :=
  (a.value.check f).map (Argument.mk a.name)

mutual

/-- A selection with its numbers checked, its own arguments first. The arguments of a selection
without a name are never written, so they are dropped unchecked. -/
def Selection.check (f : ν → Except ε μ) : Selection ν → Except ε (Selection μ)
  | .field name arguments children => do
    let arguments ← (if name.isEmpty then [] else arguments).mapM (Argument.check f)
    let children ← checkAll f children
    return .field name arguments children

/-- A list of selections with their numbers checked. -/
def checkAll (f : ν → Except ε μ) : List (Selection ν) → Except ε (List (Selection μ))
  | [] => .ok []
  | s :: rest => do
    let s ← s.check f
    let rest ← checkAll f rest
    return s :: rest

end

end ConceptQuery.GraphQL
