/-!
# Relative references

* `Turtle.resolve` — the resource that a reference names in a document with a base.
-/

namespace ConceptQuery.Turtle

/-- The position of the first character of a class. -/
def position? (p : Char → Bool) (s : List Char) : Option Nat :=
  s.findIdx? p

/-- Whether a reference begins with a scheme and thus stands for itself. -/
def isAbsolute (reference : List Char) : Bool :=
  match position? (· == ':') reference, position? (· == '/') reference with
  | none, _ => false
  | some _, none => true
  | some colon, some slash => colon < slash

/-- The length of a base up to the path that follows its authority. -/
def pathStart (base : List Char) : Nat :=
  let afterColon := (position? (· == ':') base).map (· + 1) |>.getD 0
  if (base.drop afterColon).take 2 = ['/', '/'] then
    match position? (· == '/') (base.drop (afterColon + 2)) with
    | some i => afterColon + 2 + i
    | none => base.length
  else afterColon

/-- A text up to and with its last slash, but not shorter than `least`. -/
def directory (least : Nat) (s : List Char) : List Char :=
  let kept := (s.reverse.dropWhile (· != '/')).reverse
  if kept.length < least then s.take least else kept

/-- A directory without its last segment. -/
def parent (least : Nat) (dir : List Char) : List Char :=
  directory least dir.dropLast

/-- Follows the leading dot segments of a path from a directory. -/
def walk (least : Nat) : Nat → List Char → List Char → List Char × List Char
  | 0, dir, path => (dir, path)
  | steps + 1, dir, path =>
    if path = ['.', '.'] then (parent least dir, [])
    else if path = ['.'] then (dir, [])
    else if path.take 3 = ['.', '.', '/'] then walk least steps (parent least dir) (path.drop 3)
    else if path.take 2 = ['.', '/'] then walk least steps dir (path.drop 2)
    else (dir, path)

/-- The resource that a reference names: an absolute reference stands for itself, and any other is
taken relative to the base. -/
def resolve (base reference : String) : String :=
  let b := base.toList
  let r := reference.toList
  if isAbsolute r then reference
  else
    let path := r.takeWhile (· != '#')
    let fragment := r.dropWhile (· != '#')
    let start := pathStart b
    if path.isEmpty then .ofList (b ++ fragment)
    else if r.take 2 = ['/', '/'] then .ofList (b.takeWhile (· != ':') ++ ':' :: r)
    else if r.take 1 = ['/'] then .ofList (b.take start ++ r)
    else
      let b := if start = b.length then b ++ ['/'] else b
      let (dir, rest) := walk (start + 1) path.length (directory (start + 1) b) path
      .ofList (dir ++ rest ++ fragment)

end ConceptQuery.Turtle
