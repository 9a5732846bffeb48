import ConceptQuery.Ontology.Packaged
import ConceptQuery.Proofs.Ontology.Concepts
import ConceptQuery.Proofs.Ontology.Loading
import ConceptQuery.Proofs.Sparql.Literal
import ConceptQuery.Proofs.Turtle.Lexing
import ConceptQuery.Settings

/-!
# Mapping documents mean their tables

A table is written down as a document: two prefixes, and one block of statements for every concept,
with any blanks and comments in between.

* `Ontology.namePiece`, `Ontology.textPiece`, `Ontology.header`, `Concept.pieces`,
  `ConceptTable.pieces` — the pieces of a document;
* `ConceptTable.Document` — the documents of a table;
* `properties_clauses`, `statements_concepts` — the tokens of a table, as the grammar has them;
* `read_document` — a document is read as the triples of its table;
* `Stores.Follows`, `document_means_table` — a variant with a document of a table resolves labels as
  the table has them;
* `githubTable`, `countriesTable`, `document_github`, `document_countries` — the tables of the
  packaged documents.
-/

namespace ConceptQuery.Ontology

open Rdf Turtle

/-! ### Pieces -/

/-- A name of letters, digits and hyphens is written as it is. -/
def Name.plain (name : String) (h : name.toList.all isNameChar = true := by decide)
    (hstart : name.toList.head?.all isLocalStart = true := by decide) : Name :=
  ⟨name.toList, name, localName_plain h hstart⟩

/-- A local name behind its prefix. -/
def namePiece (scope : String) (h : scope ∈ scopes) (n : Name) : Piece :=
  ⟨scope.toList ++ ':' :: n.written, .name scope n.name, lexes_name h n.spelled⟩

/-- A text in its quotes. -/
def textPiece (q : Quoted) : Piece :=
  ⟨'"' :: (q.inside ++ ['"']), .string q.text .plain, lexes_string q.spelled⟩

/-- A reference in its brackets. -/
def referencePiece (reference : String) (h : reference.toList.all isIriChar = true) : Piece :=
  ⟨'<' :: (reference.toList ++ ['>']), .iri reference, lexes_reference (List.all_eq_true.1 h)⟩

/-- A mark. -/
def markPiece (c : Char) (h : c ∈ [';', ',', '.']) : Piece :=
  ⟨[c], .mark c, lexes_mark h⟩

/-- The word for the type of a subject. -/
def typePiece : Piece :=
  ⟨['a'], .word "a", lexes_type⟩

/-- The word that declares a prefix. -/
def declarationPiece : Piece :=
  ⟨"@prefix".toList, .directive "prefix", lexes_declaration⟩

/-- A name in the namespace of mappings. -/
def mappingName (n : Name) : Piece :=
  namePiece "ex" (by decide) n

/-- The name of the property that gives a concept its label. -/
def labelName : Piece :=
  namePiece "rdfs" (by decide) (.plain "label")

def semicolon : Piece := markPiece ';' (by decide)

def comma : Piece := markPiece ',' (by decide)

def point : Piece := markPiece '.' (by decide)

/-! ### Documents -/

/-- The declaration of a prefix. -/
def declaration (scope : String) (h : scope ∈ scopes) (reference : String)
    (hr : reference.toList.all isIriChar = true) : List Piece :=
  [declarationPiece, namePiece scope h (.plain ""), referencePiece reference hr, point]

/-- The namespace of mappings. -/
def mappingRoot : String := "http://example.org/ontology#"

/-- The namespace of labels. -/
def labelRoot : String := "http://www.w3.org/2000/01/rdf-schema#"

/-- The declarations of both prefixes. -/
def header : List Piece :=
  declaration "ex" (by decide) mappingRoot (by decide)
    ++ declaration "rdfs" (by decide) labelRoot (by decide)

/-- The local name of a property as it is written. -/
def Property.asName (p : Property) : Name :=
  .plain p.name (by cases p <;> decide) (by cases p <;> decide)

/-- The clause for the classes of a concept, which is left out if there are none. -/
def classClause : List Name → List Piece
  | [] => []
  | n :: ns =>
    typePiece :: mappingName n :: ns.flatMap (fun n => [comma, mappingName n]) ++ [semicolon]

/-- The clauses behind the label of a concept. -/
def rowClauses (values : List (Property × Quoted)) : List Piece :=
  values.flatMap fun v => [semicolon, mappingName v.1.asName, textPiece v.2]

/-- The block of statements about a concept. -/
def Concept.pieces (c : Concept) : List Piece :=
  mappingName c.name :: (classClause c.classes ++ labelName :: textPiece c.label
    :: rowClauses c.row.properties ++ [point])

/-- The pieces of a document of a table. -/
def ConceptTable.pieces (table : ConceptTable) : List Piece :=
  header ++ table.concepts.flatMap Concept.pieces

/-- A text is a document of a table: the pieces of the table stand in it, with blanks and comments
in front and in between. -/
def ConceptTable.Document (table : ConceptTable) (text : List Char) : Prop :=
  ∃ front body, Gap front ∧ Laid table.pieces body ∧ text = front ++ body

/-- The prefixes behind the header. -/
def prefixTable : Table String :=
  (Table.empty.insert "ex" mappingRoot).insert "rdfs" labelRoot

variable {prefixes : Table String} {table : ConceptTable} {text : List Char}

/-! ### The tokens of a table -/

theorem prefixTable_mappings : prefixTable.get? "ex" = some mappingRoot :=
  rfl

theorem prefixTable_labels : prefixTable.get? "rdfs" = some labelRoot :=
  rfl

theorem denotes_mappingName (n : Name) :
    Denotes prefixTable (mappingName n).token (concept n.name) :=
  .name prefixTable_mappings n.name

theorem verb_mappingName (n : Name) : Verb prefixTable (mappingName n).token (concept n.name) :=
  .name prefixTable_mappings n.name

theorem verb_labelName : Verb prefixTable labelName.token label :=
  .name prefixTable_labels "label"

theorem denotes_textPiece (q : Quoted) : Denotes prefixes (textPiece q).token (.plain q.text) :=
  .text q.text

theorem objects_classes (n : Name) (ns : List Name) : Objects prefixTable
    ((mappingName n :: ns.flatMap fun n => [comma, mappingName n]).map Piece.token)
    ((n :: ns).map fun n => concept n.name) := by
  induction ns generalizing n with
  | nil => exact .one (denotes_mappingName n)
  | cons n' ns ih => exact .more (denotes_mappingName n) (ih n')

/-- A clause with the clauses of a row behind it. -/
theorem properties_rowClauses (values : List (Property × Quoted)) {t o : Token} {p node : Term}
    (hv : Verb prefixTable t p) (ho : Denotes prefixTable o node) :
    Properties prefixTable (t :: o :: (rowClauses values).map Piece.token)
      ((p, node) :: values.map fun v => (v.1.term, .plain v.2.text)) := by
  induction values generalizing t o p node with
  | nil => exact .one hv (.one ho)
  | cons v values ih =>
    exact .more hv (.one ho) (ih (verb_mappingName v.1.asName) (denotes_textPiece v.2))

/-- The clauses of a concept are what is stated of it. -/
theorem properties_clauses (c : Concept) : Properties prefixTable
    ((classClause c.classes ++ labelName :: textPiece c.label
      :: rowClauses c.row.properties).map Piece.token) c.pairs := by
  have hrow := properties_rowClauses c.row.properties verb_labelName (denotes_textPiece c.label)
  unfold Concept.pairs
  cases c.classes with
  | nil => exact hrow
  | cons n ns =>
    have hclasses := Properties.more .type (objects_classes n ns) hrow
    rw [List.map_append, classClause, List.map_append, List.append_assoc]
    rw [List.map_map] at hclasses
    exact hclasses

/-- **The blocks of a table are statements**, and state its triples. -/
theorem statements_concepts (concepts : List Concept) : Statements prefixTable
    ((concepts.flatMap Concept.pieces).map Piece.token) (concepts.flatMap Concept.triples) := by
  induction concepts with
  | nil => exact .nil
  | cons c concepts ih =>
    have hblock := Statements.cons prefixTable_mappings c.name.name (properties_clauses c) ih
    rw [List.flatMap_cons, List.flatMap_cons, List.map_append, Concept.pieces, List.map_cons,
      List.map_append, List.cons_append, List.append_assoc]
    exact hblock

/-! ### Reading a document -/

/-- No document begins with a byte order mark. -/
theorem ConceptTable.Document.head?_ne (h : table.Document text) : text.head? ≠ some '\ufeff' := by
  obtain ⟨front, body, hgap, hlaid, rfl⟩ := h
  cases hgap with
  | nil =>
    cases hlaid with
    | cons => exact fun heq => absurd (Option.some.inj heq) (by decide)
  | blank hc =>
    rintro ⟨⟩
    exact absurd hc (by decide)
  | comment => exact fun heq => absurd (Option.some.inj heq) (by decide)

/-- The declarations of the prefixes are read. -/
theorem readStatements_header (base : String) (fuel : Nat) (ts : List Token) :
    readStatements (fuel + 2) { base } (header.map Piece.token ++ ts)
      = readStatements fuel { base, prefixes := prefixTable } ts := by
  refine (readStatements_declaration { base } "ex" (by decide) (fuel + 1) _).trans ?_
  exact readStatements_declaration { base, prefixes := Table.empty.insert "ex" mappingRoot } "rdfs"
    (by decide) fuel ts

/-- **A document is read as the triples of its table.** -/
theorem read_document (h : table.Document text) (base : String) :
    Turtle.read base (.ofList text) = some table.graph := by
  have hhead := h.head?_ne
  obtain ⟨front, body, hgap, hlaid, rfl⟩ := h
  let ts := (table.concepts.flatMap Concept.pieces).map Piece.token
  have htokens : tokensFrom (front ++ body) = some (header.map Piece.token ++ ts) := by
    rw [tokensFrom_of_laid hlaid hgap, ConceptTable.pieces, List.map_append]
  have hread : readStatements (header.map Piece.token ++ ts).length { base }
      (header.map Piece.token ++ ts) = some (Reading.state { base, prefixes := prefixTable }
        (table.concepts.flatMap Concept.triples)) := by
    have hfuel : (header.map Piece.token ++ ts).length = ts.length + 6 + 2 := by
      rw [List.length_append, Nat.add_comm]
      rfl
    rw [hfuel, readStatements_header]
    exact readStatements_of_statements (statements_concepts table.concepts) (Nat.le_add_right _ _)
  rw [Turtle.read, String.toList_ofList, if_neg hhead, htokens, Option.bind_eq_bind,
    Option.bind_some, hread]
  rfl

/-! ### Stores -/

/-- Stores resolve all labels for a variant as a table has them. -/
structure Stores.Follows (s : Stores) (tag : Option String) (table : ConceptTable) : Prop where
  /-- The document of the variant is read. -/
  loads : ∃ g, (s.get tag).1 = .ok g
  /-- A label of the table is a target with the values of its row, or with empty ones if the row is
  not one of a target. -/
  target : ∀ c ∈ table.concepts, (s.target c.label.text tag).1 = .ok c.row.targetMapping
  /-- A label of the table is a sub-entity with the values of its row and the ordering of the
  constraint, or with empty ones if the row is not one of a sub-entity. -/
  subEntity : ∀ c ∈ table.concepts, ∀ constraint parts, table.Orders constraint parts →
    (s.subEntity c.label.text constraint tag).1 = .ok (c.row.subEntityMapping parts)
  /-- Any other text is a label of nothing. -/
  others : ∀ text, table.Lacks text → (s.target text tag).1 = .ok {}
    ∧ ∀ constraint, (s.subEntity text constraint tag).1 = .ok {}

variable {variants : Registry} {directory : Directory} {s : Stores} {v : Variant} {g : Graph}
  {tag : Option String}

/-- Stores whose kept graphs are those of their documents answer with the graph of a document that
can be read. -/
theorem Stores.Faithful.get_eq_of_spells (h : s.Faithful variants directory)
    (htag : variants.get tag = .ok v) (hg : Spells directory v.ontologyFile g) :
    (s.get tag).1 = .ok g := by
  have hread := readDocument_eq_some_iff.2 hg
  rw [Stores.get, h.variants_eq, htag]
  dsimp only
  rw [Stores.graphOf, h.directory_eq]
  cases hkept : s.graphs.get? v.name with
  | some g' =>
    have hsame := h.graph_eq tag v g' htag hkept
    rw [hread] at hsame
    rw [Option.some.inj hsame]
  | none => rw [hread]

theorem Stores.target_of_get (h : (s.get tag).1 = .ok g) (label : String) :
    (s.target label tag).1 = .ok (resolveTarget g label) :=
  congrArg (Except.map (resolveTarget · label)) h

theorem Stores.subEntity_of_get (h : (s.get tag).1 = .ok g) (label : String)
    (constraint : Option String) :
    (s.subEntity label constraint tag).1 = .ok (resolveSubEntity g label constraint) :=
  congrArg (Except.map (resolveSubEntity · label constraint)) h

/-- Stores that answer with the graph of a table follow the table. -/
theorem Stores.follows_of_get (h : (s.get tag).1 = .ok table.graph) : s.Follows tag table where
  loads := ⟨_, h⟩
  target := by
    intro c hc
    rw [target_of_get h, resolveTarget_of_mem hc]
  subEntity := by
    intro c hc constraint parts hparts
    rw [subEntity_of_get h, resolveSubEntity_of_mem hc hparts]
  others := by
    intro text htext
    refine ⟨?_, fun constraint => ?_⟩
    · rw [target_of_get h, resolveTarget_of_lacks htext]
    · rw [subEntity_of_get h, resolveSubEntity_of_lacks htext]

/-! ### The packaged documents -/

/-- A text with the escapes of literals. -/
def Quoted.ofText (text : String) : Quoted :=
  ⟨text.toList.flatMap Sparql.escapeChar, text, Sparql.stringText_escape text.toList⟩

def targetClass : Name := .plain "TargetConcept"

def subEntityClass : Name := .plain "SubEntityConcept"

def constraintClass : Name := .plain "ConstraintConcept"

/-- The table of the paginated variant. -/
def githubTable : ConceptTable where
  concepts := [
    ⟨.plain "User", [targetClass], .ofText "user", .target (.ofText "user") (.ofText "login")⟩,
    ⟨.plain "Organization", [targetClass], .ofText "organization",
      .target (.ofText "organization") (.ofText "login")⟩,
    ⟨.plain "Repositories", [subEntityClass], .ofText "repositories",
      .subEntity (.ofText "repositories") (.ofText "RepositoryConnection")⟩,
    ⟨.plain "StarredRepositories", [subEntityClass], .ofText "starred repositories",
      .subEntity (.ofText "starredRepositories") (.ofText "StarredRepositoryConnection")⟩,
    ⟨.plain "Followers", [subEntityClass], .ofText "followers",
      .subEntity (.ofText "followers") (.ofText "FollowerConnection")⟩,
    ⟨.plain "Issues", [subEntityClass], .ofText "issues",
      .subEntity (.ofText "issues") (.ofText "IssueConnection")⟩,
    ⟨.plain "MostStarred", [constraintClass], .ofText "most starred",
      .constraint (.ofText "orderBy") (.ofText "STARGAZERS") (.ofText "DESC")⟩,
    ⟨.plain "MostRecent", [constraintClass], .ofText "most recent",
      .constraint (.ofText "orderBy") (.ofText "CREATED_AT") (.ofText "DESC")⟩,
    ⟨.plain "RecentlyUpdated", [constraintClass], .ofText "recently updated",
      .constraint (.ofText "orderBy") (.ofText "UPDATED_AT") (.ofText "DESC")⟩,
    ⟨.plain "Alphabetical", [constraintClass], .ofText "alphabetical",
      .constraint (.ofText "orderBy") (.ofText "NAME") (.ofText "ASC")⟩]
  names_nodup := by decide
  labels_nodup := by decide

/-- The table of the simple variant. -/
def countriesTable : ConceptTable where
  concepts := [
    ⟨.plain "Country", [targetClass, subEntityClass], .ofText "country",
      .both (.ofText "country") (.ofText "code") (.ofText "Country")⟩,
    ⟨.plain "Continent", [targetClass, subEntityClass], .ofText "continent",
      .both (.ofText "continent") (.ofText "code") (.ofText "Continent")⟩,
    ⟨.plain "Language", [targetClass], .ofText "language",
      .target (.ofText "language") (.ofText "code")⟩,
    ⟨.plain "Countries", [subEntityClass], .ofText "countries",
      .subEntity (.ofText "countries") (.ofText "Country")⟩,
    ⟨.plain "Languages", [subEntityClass], .ofText "languages",
      .subEntity (.ofText "languages") (.ofText "Language")⟩,
    ⟨.plain "States", [subEntityClass], .ofText "states",
      .subEntity (.ofText "states") (.ofText "State")⟩,
    ⟨.plain "Subdivisions", [subEntityClass], .ofText "subdivisions",
      .subEntity (.ofText "subdivisions") (.ofText "Subdivision")⟩]
  names_nodup := by decide
  labels_nodup := by decide

/-- A table whose first label looks like the end of its string and a clause. -/
def lookalikeTable : ConceptTable where
  concepts := [
    ⟨.plain "Land", [], .ofText "\" ; ex:mapsToField \"\\",
      .both (.ofText "#land\n") (.ofText "") (.ofText "La\tnd")⟩,
    ⟨.plain "ByName", [constraintClass], .ofText "",
      .constraint (.ofText "orderBy") (.ofText "NAME") (.ofText "\"")⟩]
  names_nodup := by decide
  labels_nodup := by decide

/-- A document of this table, with a comment inside of a block. -/
def lookalikeDocument : List String := [
  "@prefix ex: <http://example.org/ontology#> . # declarations",
  "@prefix rdfs: <http://www.w3.org/2000/01/rdf-schema#> .",
  "ex:Land rdfs:label \"\\\" ; ex:mapsToField \\\"\\\\\" ; ex:mapsToField \"#land\\n\";",
  "  ex:identifierArgument \"\" ; ex:mapsToGraphQLType \"La\\tnd\" .",
  "ex:ByName a ex:ConstraintConcept; rdfs:label \"\" ;",
  "  # the ordering",
  "  ex:mapsToArgumentField \"orderBy\" ; ex:mapsToOrderingField \"NAME\" ;",
  "  ex:defaultDirection \"\\\"\" ."]

/-- The characters of lines with their ends. -/
def charsOfLines (lines : List String) : List Char :=
  lines.flatMap fun line => line.toList ++ ['\n']

theorem bytesOfLines_eq (lines : List String) :
    bytesOfLines lines = (charsOfLines lines).flatMap String.utf8EncodeChar := by
  rw [bytesOfLines, Text.Utf8.toList_toUTF8, String.toList_join, List.flatMap_map, charsOfLines]
  congr 2
  funext line
  exact String.toList_append

theorem document_of_stand (h : stand table.pieces text = true) : table.Document text :=
  ⟨[], text, .nil, laid_of_stand h, rfl⟩

/-- The packaged documents are documents of these tables. -/
theorem document_github : githubTable.Document (charsOfLines githubDocument) := by
  refine document_of_stand ?_
  simp only [charsOfLines, githubDocument, List.flatMap_cons, List.flatMap_nil]
  repeat rw [String.toList_ofList]
  decide +kernel

theorem document_countries : countriesTable.Document (charsOfLines countriesDocument) := by
  refine document_of_stand ?_
  simp only [charsOfLines, countriesDocument, List.flatMap_cons, List.flatMap_nil]
  repeat rw [String.toList_ofList]
  decide +kernel

theorem document_lookalike : lookalikeTable.Document (charsOfLines lookalikeDocument) := by
  refine document_of_stand ?_
  simp only [charsOfLines, lookalikeDocument, List.flatMap_cons, List.flatMap_nil]
  repeat rw [String.toList_ofList]
  decide +kernel

/-! ### Documents mean their tables -/

/-- **A mapping document means its table.** If no kept graph differs from its document, as in stores
that have read nothing so far, a variant with a document of a table loads, and all labels resolve to
what the table has for them, however the document is laid out and its texts are escaped. -/
theorem document_means_table (h : s.Faithful variants directory)
    (htag : variants.get tag = .ok v)
    (hfile : directory.get? v.ontologyFile = some (text.flatMap String.utf8EncodeChar))
    (htext : table.Document text) : s.Follows tag table :=
  Stores.follows_of_get (h.get_eq_of_spells htag
    ⟨_, text, hfile, Text.Utf8.decode_encode text, read_document htext _⟩)

/-- The packaged documents mean their tables, and so does one with a label that looks like the end
of its string. -/
theorem document_means_table_packaged :
    let s := Stores.unread Settings.standard.registry packaged
    let s' := Stores.unread Settings.standard.registry
      (.ofList [("graphql_github.ttl", bytesOfLines lookalikeDocument)])
    s.Follows (some "github") githubTable ∧ s.Follows (some "countries") countriesTable
      ∧ s'.Follows (some "github") lookalikeTable
      ∧ (s'.subEntity "\" ; ex:mapsToField \"\\" (some "") (some "github")).1
        = .ok ⟨"#land\n", "La\tnd", "orderBy", "NAME", "\""⟩ := by
  intro s s'
  have hgithub : packaged.get? Settings.standard.github.ontologyFile
      = some ((charsOfLines githubDocument).flatMap String.utf8EncodeChar) :=
    (bytesOfLines_eq githubDocument) ▸ rfl
  have hcountries : packaged.get? Settings.standard.countries.ontologyFile
      = some ((charsOfLines countriesDocument).flatMap String.utf8EncodeChar) :=
    (bytesOfLines_eq countriesDocument) ▸ rfl
  have hlookalike : s'.directory.get? Settings.standard.github.ontologyFile
      = some ((charsOfLines lookalikeDocument).flatMap String.utf8EncodeChar) :=
    (bytesOfLines_eq lookalikeDocument) ▸ rfl
  have hfollows : s'.Follows (some "github") lookalikeTable :=
    document_means_table (Stores.faithful_unread _ _) rfl hlookalike document_lookalike
  exact ⟨document_means_table (Stores.faithful_unread _ _) rfl hgithub document_github,
    document_means_table (Stores.faithful_unread _ _) rfl hcountries document_countries, hfollows,
    hfollows.subEntity _ List.mem_cons_self _ _ (.known (.tail _ List.mem_cons_self))⟩

end ConceptQuery.Ontology
