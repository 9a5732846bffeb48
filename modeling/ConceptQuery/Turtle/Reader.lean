import ConceptQuery.Rdf.Datatype
import ConceptQuery.Rdf.Graph
import ConceptQuery.Table
import ConceptQuery.Turtle.Iri
import ConceptQuery.Turtle.Token

/-!
# Reading Turtle documents

A document is read token by token into a graph.

* `Turtle.Reading` — the base, the prefixes, the blank nodes and the triples so far;
* `Turtle.Reading.resource?` — the resource that a token names;
* `Turtle.readNode`, `Turtle.readObjects`, `Turtle.readProperties`, `Turtle.readItems` — nodes,
  object lists, property lists and collections, by recursion on a bound on the number of steps;
* `Turtle.readStatement`, `Turtle.readStatements` — directives and statements;
* `Turtle.read` — a whole document.
-/

namespace ConceptQuery.Turtle

open Rdf

/-- What has been read so far. -/
structure Reading where
  base : String
  prefixes : Table String := .empty
  /-- How many blank nodes without a label there are. -/
  blanks : Nat := 0
  graph : Graph := .empty

/-- A name in the namespace of the language of graphs. -/
def rdfName (name : String) : Term :=
  .iri ("http://www.w3.org/" ++ "1999/02/22-rdf-syntax-ns" ++ "#" ++ name)

namespace Reading

/-- The resource that a token names. -/
def resource? (r : Reading) : Token → Option String
  | .iri reference => some (resolve r.base reference)
  | .name scope rest => (r.prefixes.get? scope).map (· ++ rest)
  | _ => none

/-- A new blank node. -/
def newBlank (r : Reading) : Term × Reading :=
  (.fresh r.blanks, { r with blanks := r.blanks + 1 })

/-- States triples. -/
def state (r : Reading) (ts : List Triple) : Reading :=
  { r with graph := r.graph.addAll ts }

/-- States the triples of a collection and gives its first node. -/
def collection (r : Reading) : List Term → Term × Reading
  | [] => (rdfName "nil", r)
  | item :: items =>
    let (node, r) := r.newBlank
    let (rest, r) := r.collection items
    (node, r.state [⟨node, rdfName "first", item⟩, ⟨node, rdfName "rest", rest⟩])

end Reading

/-- The predicate that a token stands for; the word `a` stands for the type. -/
def verb? (r : Reading) (t : Token) : Option Term :=
  if t = .word "a" then some (rdfName "type") else (r.resource? t).map .iri

/-- The literal of a number. -/
def numberLiteral (kind : NumberKind) (lexical : String) : Literal :=
  match kind with
  | .integer => .typed lexical (xsd "integer")
  | .decimal => .typed lexical (xsd "decimal")
  | .double => .typed lexical (xsd "double")

/-- A literal at the front of the tokens. -/
def readLiteral? (r : Reading) : List Token → Option (Literal × List Token)
  | .string text .plain :: rest => some (⟨text, .plain⟩, rest)
  | .string text (.language tag) :: rest => some (⟨text, .language tag⟩, rest)
  | .string text .datatype :: type :: rest =>
    (r.resource? type).map fun iri => (.typed text iri, rest)
  | .number kind lexical :: rest => some (numberLiteral kind lexical, rest)
  | .word "true" :: rest => some (.typed "true" (xsd "boolean"), rest)
  | .word "false" :: rest => some (.typed "false" (xsd "boolean"), rest)
  | _ => none

/-- The tokens after a mark at their front. -/
def afterMark? (c : Char) : List Token → Option (List Token)
  | t :: rest => if t = .mark c then some rest else none
  | [] => none

/-- The tokens after the semicolons at their front. -/
def skipSemicolons : List Token → List Token
  | t :: rest => if t = .mark ';' then skipSemicolons rest else t :: rest
  | [] => []

/-- The predicate at the front of the tokens, if one is there. -/
def takeVerb? (r : Reading) : List Token → Option (Term × List Token)
  | t :: rest => (verb? r t).map fun p => (p, rest)
  | [] => none

mutual

/-- A node that may be an object. -/
def readNode : (fuel : Nat) → Reading → List Token → Option (Term × Reading × List Token)
  | 0, _, _ => none
  | fuel + 1, r, tokens =>
    match afterMark? '[' tokens, afterMark? '(' tokens with
    | some rest, _ =>
      let (node, r) := r.newBlank
      match afterMark? ']' rest with
      | some left => some (node, r, left)
      | none => do
        let (r, left) ← readProperties fuel node r rest
        let left ← afterMark? ']' left
        return (node, r, left)
    | none, some rest => do
      let (items, r, left) ← readItems fuel r rest
      let (node, r) := r.collection items
      return (node, r, left)
    | none, none =>
      match tokens with
      | [] => none
      | t :: rest =>
        match t, r.resource? t with
        | .blank label, _ => some (.labelled label, r, rest)
        | _, some iri => some (.iri iri, r, rest)
        | _, none => (readLiteral? r tokens).map fun (l, left) => (.literal l, r, left)

/-- The objects of a predicate, with commas between them. -/
def readObjects : (fuel : Nat) → Reading → List Token → Option (List Term × Reading × List Token)
  | 0, _, _ => none
  | fuel + 1, r, tokens => do
    let (object, r, left) ← readNode fuel r tokens
    match afterMark? ',' left with
    | none => return ([object], r, left)
    | some rest =>
      let (objects, r, left) ← readObjects fuel r rest
      return (object :: objects, r, left)

/-- The predicates of a subject with their objects; semicolons stand between them. -/
def readProperties : (fuel : Nat) → Term → Reading → List Token → Option (Reading × List Token)
  | 0, _, _, _ => none
  | fuel + 1, subject, r, tokens => do
    let (predicate, rest) ← takeVerb? r tokens
    let (objects, r, left) ← readObjects fuel r rest
    let r := r.state (objects.map fun object => ⟨subject, predicate, object⟩)
    match afterMark? ';' left with
    | none => return (r, left)
    | some more =>
      let more := skipSemicolons more
      match takeVerb? r more with
      | none => return (r, more)
      | some _ => readProperties fuel subject r more

/-- The items of a collection up to its closing bracket. -/
def readItems : (fuel : Nat) → Reading → List Token → Option (List Term × Reading × List Token)
  | 0, _, _ => none
  | fuel + 1, r, tokens =>
    match afterMark? ')' tokens with
    | some left => some ([], r, left)
    | none => do
      let (item, r, left) ← readNode fuel r tokens
      let (items, r, left) ← readItems fuel r left
      return (item :: items, r, left)

end

/-- The subject of a statement and whether its properties may be left out, as they may after a
blank node with properties of its own. -/
def readSubject (fuel : Nat) (r : Reading) (tokens : List Token) :
    Option (Term × Bool × Reading × List Token) := do
  let (node, r, left) ← readNode fuel r tokens
  match node with
  | .literal _ => none
  | _ =>
    let bracketed := (afterMark? '[' tokens).any fun rest => (afterMark? ']' rest).isNone
    return (node, bracketed, r, left)

/-- A statement about a subject, up to its point. -/
def readTriples (fuel : Nat) (r : Reading) (tokens : List Token) :
    Option (Reading × List Token) := do
  let (subject, complete, r, left) ← readSubject fuel r tokens
  match complete, afterMark? '.' left with
  | true, some rest => return (r, rest)
  | _, _ =>
    let (r, left) ← readProperties fuel subject r left
    let rest ← afterMark? '.' left
    return (r, rest)

/-- Whether a bare word is a keyword, in any letter case. -/
def isKeyword (word keyword : String) : Bool :=
  word.toList.map Char.toLower == keyword.toList

/-- The prefix and the reference of a prefix declaration. -/
def takePrefix? (r : Reading) : List Token → Option (Reading × List Token)
  | .name scope "" :: .iri reference :: rest =>
    some ({ r with prefixes := r.prefixes.insert scope (resolve r.base reference) }, rest)
  | _ => none

/-- The reference of a base declaration. -/
def takeBase? (r : Reading) : List Token → Option (Reading × List Token)
  | .iri reference :: rest => some ({ r with base := resolve r.base reference }, rest)
  | _ => none

/-- A declaration and the point that ends it. -/
def withPoint (declaration : Option (Reading × List Token)) : Option (Reading × List Token) := do
  let (r, left) ← declaration
  let rest ← afterMark? '.' left
  return (r, rest)

/-- A directive or a statement at the front of the tokens. -/
def readStatement (fuel : Nat) (r : Reading) (tokens : List Token) :
    Option (Reading × List Token) :=
  match tokens with
  | .directive word :: rest =>
    if word = "prefix" then withPoint (takePrefix? r rest)
    else if word = "base" then withPoint (takeBase? r rest)
    else none
  | .word word :: rest =>
    if isKeyword word "prefix" then takePrefix? r rest
    else if isKeyword word "base" then takeBase? r rest
    else none
  | _ => readTriples fuel r tokens

/-- The statements of a document. -/
def readStatements : (fuel : Nat) → Reading → List Token → Option Reading
  | _, r, [] => some r
  | 0, _, _ :: _ => none
  | fuel + 1, r, tokens => do
    let (r, left) ← readStatement (2 * tokens.length + 2) r tokens
    readStatements fuel r left

/-- The graph of a document with a base; a byte order mark at its front is passed over. -/
def read (base : String) (document : String) : Option Graph := do
  let chars := document.toList
  let chars := if chars.head? = some '\ufeff' then chars.drop 1 else chars
  let tokens ← tokensFrom chars
  let r ← readStatements tokens.length { base } tokens
  return r.graph

end ConceptQuery.Turtle
