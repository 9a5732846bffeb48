import ConceptQuery.Proofs.Sparql.Token
import ConceptQuery.Rdf.Datatype

/-!
# The grammar of SPARQL queries and updates

Blocks of triples, updates that delete by a pattern or insert data, and queries with at most one
optional part.  Keywords are read in capitals.  A text that has anything else in it is refused.

* `Sparql.Node`, `Sparql.Pattern` — triples with variables in them;
* `Sparql.Operation`, `Sparql.Query` — what updates and queries are made of;
* `Sparql.resolve?` — tokens with their names looked up;
* `Sparql.readBlock` — a block of triples, with the semicolons and commas that share their subjects
  and predicates;
* `Sparql.readUpdate?`, `Sparql.readQuery?` — an update and a query.
-/

namespace ConceptQuery.Sparql

open Rdf

/-! ### What texts say -/

/-- A place in a triple: a term, or a variable that stands for one. -/
inductive Node where
  | term (t : Term)
  | var (name : String)
deriving Repr, DecidableEq

/-- A triple with variables in it. -/
structure Pattern where
  subject : Node
  predicate : Node
  object : Node
deriving Repr, DecidableEq

/-- An operation of an update. -/
inductive Operation where
  | deleteWhere (patterns : List Pattern)
  | insertData (triples : List Triple)
deriving Repr, DecidableEq

/-- What a query selects: the values of variables, or the number of values of one under a name. -/
inductive Selection where
  | values (names : List String)
  | count (counted name : String)
deriving Repr, DecidableEq

/-- A query. Solutions are extended by the optional part where it has any. -/
structure Query where
  selection : Selection
  required : List Pattern
  optional : Option (List Pattern)
  limit : Option Nat
deriving Repr, DecidableEq

/-! ### Names and literals -/

/-- The namespaces that prefixes stand for, the latest declaration first. -/
abbrev Prefixes := List (String × String)

/-- A token with its name looked up, or a literal. -/
inductive Item where
  | node (n : Node)
  | word (text : String)
  | number (n : Nat)
  | mark (c : Char)
deriving Repr, DecidableEq

/-- The declarations at the front of a text, and what follows them. -/
def readPrologue : Prefixes → List Token → Prefixes × List Token
  | prefixes, .word "PREFIX" :: .name scope "" :: .iri space :: rest =>
    readPrologue ((scope, space) :: prefixes) rest
  | prefixes, ts => (prefixes, ts)

/-- The resource of a name. -/
def expand? (prefixes : Prefixes) (scope part : String) : Option String :=
  (prefixes.lookup scope).map (· ++ part)

/-- A literal of a type; strings are plain. -/
def literalOf (text type : String) : Literal :=
  if type = xsd "string" then ⟨text, .plain⟩ else ⟨text, .datatype type⟩

/-- Tokens with their names looked up. -/
def resolve? (prefixes : Prefixes) : List Token → Option (List Item)
  | [] => some []
  | .iri name :: rest => (resolve? prefixes rest).map (.node (.term (.iri name)) :: ·)
  | .name scope part :: rest => do
    let name ← expand? prefixes scope part
    (resolve? prefixes rest).map (.node (.term (.iri name)) :: ·)
  | .var name :: rest => (resolve? prefixes rest).map (.node (.var name) :: ·)
  | .string text :: .carets :: .iri type :: rest =>
    (resolve? prefixes rest).map (.node (.term (.literal (literalOf text type))) :: ·)
  | .string text :: .carets :: .name scope part :: rest => do
    let type ← expand? prefixes scope part
    (resolve? prefixes rest).map (.node (.term (.literal (literalOf text type))) :: ·)
  | .string text :: rest => (resolve? prefixes rest).map (.node (.term (.plain text)) :: ·)
  | .word text :: rest => (resolve? prefixes rest).map (.word text :: ·)
  | .number n :: rest => (resolve? prefixes rest).map (.number n :: ·)
  | .mark c :: rest => (resolve? prefixes rest).map (.mark c :: ·)
  | .carets :: _ => none

/-- The items of a text behind its declarations. -/
def items? (text : String) : Option (List Item) := do
  let (prefixes, ts) := readPrologue [] (← tokens? text)
  resolve? prefixes ts

/-! ### Blocks of triples -/

/-- The predicate that the word `a` stands for. -/
def typePredicate : Term := .iri "http://www.w3.org/1999/02/22-rdf-syntax-ns#type"

/-- Whether a node may stand as a subject or a predicate. -/
def Node.isResource : Node → Bool
  | .term (.iri _) => true
  | .var _ => true
  | _ => false

/-- What goes on a block of triples. -/
inductive Expected where
  | subject
  | predicate (s : Node)
  | object (s p : Node)
  /-- Behind an object. -/
  | separator (s p : Node)
  /-- Behind a semicolon, where a further predicate may stand. -/
  | further (s : Node)

/-- A block of triples up to the first item that cannot go on it, and the items from there. -/
def readBlock : Expected → List Item → Option (List Pattern × List Item)
  | .subject, .node s :: rest => if s.isResource then readBlock (.predicate s) rest else none
  | .subject, rest => some ([], rest)
  | .predicate s, .node p :: rest => if p.isResource then readBlock (.object s p) rest else none
  | .predicate s, .word "a" :: rest => readBlock (.object s (.term typePredicate)) rest
  | .predicate _, _ => none
  | .object s p, .node o :: rest => do
    let (patterns, left) ← readBlock (.separator s p) rest
    return (⟨s, p, o⟩ :: patterns, left)
  | .object _ _, _ => none
  | .separator s p, .mark ',' :: rest => readBlock (.object s p) rest
  | .separator s _, .mark ';' :: rest => readBlock (.further s) rest
  | .separator _ _, .mark '.' :: rest => readBlock .subject rest
  | .separator _ _, rest => some ([], rest)
  | .further s, .node p :: rest => if p.isResource then readBlock (.object s p) rest else none
  | .further s, .word "a" :: rest => readBlock (.object s (.term typePredicate)) rest
  | .further s, .mark ';' :: rest => readBlock (.further s) rest
  | .further _, .mark '.' :: rest => readBlock .subject rest
  | .further _, rest => some ([], rest)

/-- A block of triples up to its closing brace. -/
def readBraced (items : List Item) : Option (List Pattern × List Item) :=
  match readBlock .subject items with
  | some (patterns, .mark '\x7d' :: rest) => some (patterns, rest)
  | _ => none

/-! ### Updates -/

/-- The triple of a pattern without variables. -/
def Pattern.ground? : Pattern → Option Triple
  | ⟨.term s, .term p, .term o⟩ => some ⟨s, p, o⟩
  | _ => none

/-- An operation, and what follows it. -/
def readOperation : List Item → Option (Operation × List Item)
  | .word "DELETE" :: .word "WHERE" :: .mark '\x7b' :: rest => do
    let (patterns, left) ← readBraced rest
    return (.deleteWhere patterns, left)
  | .word "INSERT" :: .word "DATA" :: .mark '\x7b' :: rest => do
    let (patterns, left) ← readBraced rest
    return (.insertData (← patterns.mapM Pattern.ground?), left)
  | _ => none

/-- Operations with semicolons between them. -/
def readOperations : (fuel : Nat) → List Item → Option (List Operation)
  | _, [] => some []
  | 0, _ => none
  | fuel + 1, items => do
    let (o, rest) ← readOperation items
    match rest with
    | [] => return [o]
    | .mark ';' :: left => return o :: (← readOperations fuel left)
    | _ => none

/-- The operations of an update. -/
def readUpdate? (text : String) : Option (List Operation) := do
  let items ← items? text
  readOperations items.length items

/-! ### Queries -/

/-- Variables up to the word behind them, and what follows that word. -/
def readNames : List Item → Option (List String × List Item)
  | .node (.var name) :: rest => do
    let (names, left) ← readNames rest
    return (name :: names, left)
  | .word "WHERE" :: rest => some ([], rest)
  | _ => none

/-- What a query selects, and what follows its `WHERE`. -/
def readSelection : List Item → Option (Selection × List Item)
  | .mark '(' :: .word "COUNT" :: .mark '(' :: .node (.var counted) :: .mark ')' ::
      .word "AS" :: .node (.var name) :: .mark ')' :: .word "WHERE" :: rest =>
    some (.count counted name, rest)
  | items => do
    let (names, rest) ← readNames items
    if names.isEmpty then none else return (.values names, rest)

/-- A group of patterns with an optional group at its end, up to the closing brace. -/
def readGroup (items : List Item) :
    Option (List Pattern × Option (List Pattern) × List Item) := do
  let (required, rest) ← readBlock .subject items
  match rest with
  | .mark '\x7d' :: left => return (required, none, left)
  | .word "OPTIONAL" :: .mark '\x7b' :: inner =>
    match readBraced inner with
    | some (optional, .mark '\x7d' :: left) => return (required, some optional, left)
    | _ => none
  | _ => none

/-- The greatest number of solutions, at the end of a query. -/
def readLimit : List Item → Option (Option Nat)
  | [] => some none
  | [.word "LIMIT", .number n] => some (some n)
  | _ => none

/-- A query. -/
def readQuery? (text : String) : Option Query := do
  match ← items? text with
  | .word "SELECT" :: rest =>
    let (selection, rest) ← readSelection rest
    match rest with
    | .mark '\x7b' :: rest =>
      let (required, optional, rest) ← readGroup rest
      return ⟨selection, required, optional, ← readLimit rest⟩
    | _ => none
  | _ => none

end ConceptQuery.Sparql
