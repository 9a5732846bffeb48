import ConceptQuery.Cache.Statement
import ConceptQuery.Proofs.Cache.Key
import ConceptQuery.Proofs.Sparql.Evaluation
import ConceptQuery.Proofs.Sparql.Lexing

/-!
# What the statements of the cache say

Every text that the cache sends is read back: it says about the key what it is meant to say,
whatever the texts of the record are.

* `isIriChar_promptKey`, `isAbsolute_promptKey` — a key stands for itself as a reference;
* `Statement.properties`, `Statement.triples` — a record as triples;
* `readUpdate?_delete`, `readUpdate?_replace` — the updates;
* `readQuery?_select`, `readQuery?_count` — the queries.
-/

namespace ConceptQuery.Cache

open Rdf Sparql

/-! ### Keys as references -/

/-- The characters of encoded texts may stand in references, and no slash is among them. -/
theorem isIriChar_of_encoded {c : Char}
    (h : Text.isUnreserved c = true ∨ c = '+' ∨ c = '%') : Turtle.isIriChar c = true ∧ c ≠ '/' := by
  have hall : ∀ n < 128, Text.isUnreserved (Char.ofNat n) = true →
      Turtle.isIriChar (Char.ofNat n) = true ∧ Char.ofNat n ≠ '/' := by decide +kernel
  rcases h with h | rfl | rfl
  · have hc := hall c.toNat (Text.bounds_of_isUnreserved h).2.2
    rw [Char.ofNat_toNat] at hc
    exact hc h
  · decide
  · decide

theorem mem_promptKey {p : String} {c : Char} (h : c ∈ (promptKey p).toList) :
    Turtle.isIriChar c = true ∧ c ≠ '/' := by
  have hstart : keyStart.toList.all (fun c => Turtle.isIriChar c && c != '/') = true := by decide
  rw [promptKey, String.toList_append, List.mem_append] at h
  rcases h with h | h
  · simpa using List.all_eq_true.1 hstart c h
  · exact isIriChar_of_encoded (Text.mem_formEncode h)

theorem isIriChar_promptKey (p : String) : ∀ c ∈ (promptKey p).toList, Turtle.isIriChar c = true :=
  fun _ hc => (mem_promptKey hc).1

theorem isAbsolute_promptKey (p : String) : isAbsolute (promptKey p).toList = true := by
  have hscheme : (promptKey p).toList.takeWhile (· != ':') = ['u', 'r', 'n'] := by
    rw [promptKey, String.toList_append]
    rfl
  have hlength : 3 < (promptKey p).toList.length := by
    rw [promptKey, String.toList_append, List.length_append]
    have hstart : keyStart.toList.length = 11 := by decide
    omega
  have hslash : ('/', '.') ∉ (promptKey p).toList.zip (promptKey p).toList.tail :=
    fun h => (mem_promptKey (List.of_mem_zip h).1).2 rfl
  have hscheme' : ['u', 'r', 'n'].all Char.isAlpha = true := by decide
  simp only [isAbsolute, hscheme, hscheme', List.isEmpty_cons, Bool.not_false, Bool.true_and,
    Bool.and_eq_true, List.length_cons, List.length_nil, Bool.not_eq_true', decide_eq_true_eq,
    List.contains_eq_mem, decide_eq_false_iff_not]
  exact ⟨hlength, hslash⟩

namespace Statement

/-! ### Pieces -/

/-- The tokens of the lines that name the vocabularies. -/
def vocabularyTokens : List Token :=
  [.word "PREFIX", .name "cache" "", .iri "http://example.org/cache#",
    .word "PREFIX", .name "xsd" "", .iri "http://www.w3.org/2001/XMLSchema#"]

theorem reads_vocabularies : Reads .between vocabularies.toList vocabularyTokens .between :=
  reads_fixed (by decide +kernel)

theorem reads_resource (p : String) :
    Reads .between (resource (promptKey p)).toList [.iri (promptKey p)] .between :=
  reads_iri (isIriChar_promptKey p) (isAbsolute_promptKey p)

/-- A property is a name, a string and a semicolon. -/
theorem reads_property {name : String} (h : name.toList.all isNameChar = true)
    (value : String) :
    Reads .between (property name value).toList [.name "cache" name, .string value, .mark ';']
      .between := by
  have hprefix : Reads .between "    cache:".toList [] (.run (.part "cache") []) :=
    reads_fixed (by decide)
  have hname : Reads (.run (.part "cache") []) name.toList []
      (.run (.part "cache") (name.toList.reverse ++ [])) := reads_run (List.all_eq_true.1 h)
  have hblank : Reads (.run (.part "cache") (name.toList.reverse ++ [])) [' '] [.name "cache" name]
      .between := by
    have hstep : walk (.run (.part "cache") (name.toList.reverse ++ [])) [' ']
        = some ([.name "cache" (.ofList (name.toList.reverse ++ []).reverse)], .between) := rfl
    rw [List.append_nil, List.reverse_reverse, String.ofList_toList] at hstep
    rw [List.append_nil]
    exact reads_fixed ⟨by decide, hstep⟩
  have hvalue : Reads .between ((Sparql.quote value).toList ++ [' ']) [.string value] .between :=
    reads_quote value (by decide) (by decide) (by decide)
  have hend : Reads .between [';'] [.mark ';'] .between := reads_fixed (by decide)
  have hall := hprefix.append (hname.append (hblank.append (hvalue.append hend)))
  have htext : (property name value).toList = "    cache:".toList ++ (name.toList ++ ([' ']
      ++ ((Sparql.quote value).toList ++ [' '] ++ [';']))) := by
    simp [property]
  rw [htext]
  exact hall

/-- A line gives certain tokens, its end included. -/
def ReadsLine (line : String) (ts : List Token) : Prop :=
  Reads .between (line.toList ++ ['\n']) ts .between

theorem readsLine_of_reads {line : String} {ts : List Token}
    (h : Reads .between line.toList ts .between) : ReadsLine line ts := by
  have hbreak : Reads .between ['\n'] [] .between := reads_fixed (by decide)
  have hall := h.append hbreak
  rw [List.append_nil] at hall
  exact hall

theorem toList_intercalate_lines {lines : List String} (h : lines ≠ []) :
    ("\n".intercalate lines).toList ++ ['\n'] = lines.flatMap (·.toList ++ ['\n']) := by
  induction lines with
  | nil => exact absurd rfl h
  | cons line rest ih =>
    cases rest with
    | nil => simp
    | cons next more =>
      rw [String.intercalate_cons_cons, String.toList_append, String.toList_append,
        List.append_assoc, ih (by simp), List.flatMap_cons]
      simp

/-- Lines that are read one by one are read as a block. -/
theorem reads_block {lines : List String} {tss : List (List Token)} (hne : lines ≠ [])
    (h : List.Forall₂ ReadsLine lines tss) :
    Reads .between (block lines).toList (.mark '\x7b' :: (tss.flatten ++ [.mark '\x7d']))
      .between := by
  have hopen : Reads .between "\x7b\n".toList [.mark '\x7b'] .between := reads_fixed (by decide)
  have hclose : Reads .between "\x7d".toList [.mark '\x7d'] .between := reads_fixed (by decide)
  have hlines : Reads .between (lines.flatMap (·.toList ++ ['\n'])) tss.flatten .between := by
    clear hne
    induction h with
    | nil => exact reads_nil
    | cons hline _ ih => exact hline.append ih
  have htext : (block lines).toList
      = "\x7b\n".toList ++ (lines.flatMap (·.toList ++ ['\n']) ++ "\x7d".toList) := by
    rw [← toList_intercalate_lines hne]
    simp [block]
  rw [htext]
  exact hopen.append (hlines.append hclose)

/-! ### The tokens of updates -/

/-- The tokens that delete everything about a key. -/
def deleteTokens (key : String) : List Token :=
  [.word "DELETE", .word "WHERE", .mark '\x7b', .iri key, .var "p", .var "o", .mark '\x7d']

theorem reads_delete (p : String) :
    Reads .between (delete (promptKey p)).toList (deleteTokens (promptKey p)) .between := by
  have hfront : Reads .between "DELETE WHERE \x7b ".toList
      [.word "DELETE", .word "WHERE", .mark '\x7b'] .between := reads_fixed (by decide +kernel)
  have hback : Reads .between " ?p ?o \x7d".toList [.var "p", .var "o", .mark '\x7d'] .between :=
    reads_fixed (by decide +kernel)
  have hall := hfront.append ((reads_resource p).append hback)
  unfold delete
  rw [String.toList_append, String.toList_append, List.append_assoc]
  exact hall

/-- The tokens of the lines that state a record. -/
def factTokens (r : Record String) (time : String) : List (List Token) :=
  [[.iri r.key, .word "a", .name "cache" "CachedEntry", .mark ';'],
    [.name "cache" "originalPrompt", .string r.prompt, .mark ';'],
    [.name "cache" "hasNLPResponse", .string r.intentText, .mark ';'],
    [.name "cache" "hasGraphQLQuery", .string r.query, .mark ';']]
    ++ (r.result.map fun s => [Token.name "cache" "hasResult", .string s, .mark ';']).toList
    ++ [[.name "cache" "createdAt", .string time, .carets, .name "xsd" "dateTime", .mark '.']]

/-- The line that names a key and its type. -/
theorem readsLine_type (p : String) :
    ReadsLine ("  " ++ resource (promptKey p) ++ " a cache:CachedEntry ;")
      [.iri (promptKey p), .word "a", .name "cache" "CachedEntry", .mark ';'] := by
  have hindent : Reads .between "  ".toList [] .between := reads_fixed (by decide)
  have htype : Reads .between " a cache:CachedEntry ;".toList
      [.word "a", .name "cache" "CachedEntry", .mark ';'] .between :=
    reads_fixed (by decide +kernel)
  have hall := hindent.append ((reads_resource p).append htype)
  apply readsLine_of_reads
  rw [String.toList_append, String.toList_append, List.append_assoc]
  exact hall

theorem reads_facts {r : Record String} {p : String} (hkey : r.key = promptKey p) (time : String) :
    List.Forall₂ ReadsLine (facts r time) (factTokens r time) := by
  have hfirst : ReadsLine ("  " ++ resource r.key ++ " a cache:CachedEntry ;")
      [.iri r.key, .word "a", .name "cache" "CachedEntry", .mark ';'] := by
    rw [hkey]
    exact readsLine_type p
  have hproperty {name : String} (hname : name.toList.all isNameChar = true) (value : String) :
      ReadsLine (property name value) [.name "cache" name, .string value, .mark ';'] :=
    readsLine_of_reads (reads_property hname value)
  have hresult : List.Forall₂ ReadsLine (r.result.map (property "hasResult")).toList
      (r.result.map fun s => [Token.name "cache" "hasResult", .string s, .mark ';']).toList := by
    cases r.result with
    | none => exact .nil
    | some s => exact .cons (hproperty (by decide) s) .nil
  have hlast : ReadsLine ("    cache:createdAt " ++ Sparql.quote time ++ "^^xsd:dateTime .")
      [.name "cache" "createdAt", .string time, .carets, .name "xsd" "dateTime", .mark '.'] := by
    have hname : Reads .between "    cache:createdAt ".toList [.name "cache" "createdAt"]
        .between := reads_fixed (by decide +kernel)
    have hvalue : Reads .between ((Sparql.quote time).toList ++ ['^']) [.string time] .caret :=
      reads_quote time (by decide) (by decide) (by decide)
    have htype : Reads .caret "^xsd:dateTime .\n".toList
        [.carets, .name "xsd" "dateTime", .mark '.'] .between := reads_fixed (by decide +kernel)
    have hall := hname.append (hvalue.append htype)
    unfold ReadsLine
    simpa using hall
  exact List.rel_append (List.rel_append
    (.cons hfirst (.cons (hproperty (by decide) _) (.cons (hproperty (by decide) _)
      (.cons (hproperty (by decide) _) .nil)))) hresult) (.cons hlast .nil)

/-- The tokens that write a record. -/
def replaceTokens (r : Record String) (time : String) : List Token :=
  vocabularyTokens ++ deleteTokens r.key ++ [.mark ';', .word "INSERT", .word "DATA", .mark '\x7b']
    ++ (factTokens r time).flatten ++ [.mark '\x7d']

theorem tokens?_replace {r : Record String} {p : String} (hkey : r.key = promptKey p)
    {t : Timestamp} (ht : r.createdAt.toUtc = .ok t) :
    ∃ text, replace r = .ok text ∧ tokens? text = some (replaceTokens r t.toText) := by
  have hmiddle : Reads .between " ;\nINSERT DATA ".toList [.mark ';', .word "INSERT", .word "DATA"]
      .between := reads_fixed (by decide +kernel)
  have hblock := reads_block (by simp [facts]) (reads_facts hkey t.toText)
  have hall := reads_vocabularies.append ((reads_delete p).append (hmiddle.append hblock))
  refine ⟨vocabularies ++ delete r.key ++ " ;\nINSERT DATA " ++ block (facts r t.toText), ?_, ?_⟩
  · unfold replace
    rw [ht]
    rfl
  · rw [← hkey] at hall
    have hread : Reads .between (vocabularies ++ delete r.key ++ " ;\nINSERT DATA "
        ++ block (facts r t.toText)).toList (replaceTokens r t.toText) .between := by
      simpa [replaceTokens] using hall
    have htokens := hread.tokens? rfl
    rw [List.append_nil] at htokens
    exact htokens

/-! ### Updates -/

/-- Every triple about a key. -/
def everything (key : String) : Pattern :=
  ⟨.term (.iri key), .var "p", .var "o"⟩

/-- A name in the vocabulary of the cache. -/
def cacheTerm (name : String) : Term :=
  .iri ("http://example.org/cache#" ++ name)

/-- A time as a term. -/
def timeTerm (time : Timestamp) : Term :=
  .literal ⟨time.toText, .datatype (xsd "dateTime")⟩

/-- What is stated of a record made at a time: five properties with their values, six if it has a
result. -/
def properties (r : Record String) (time : Timestamp) : List (Term × Term) :=
  [(typePredicate, cacheTerm "CachedEntry"),
    (cacheTerm "originalPrompt", .plain r.prompt),
    (cacheTerm "hasNLPResponse", .plain r.intentText),
    (cacheTerm "hasGraphQLQuery", .plain r.query)]
    ++ (r.result.map fun s => (cacheTerm "hasResult", Term.plain s)).toList
    ++ [(cacheTerm "createdAt", timeTerm time)]

/-- A record as triples about its key. -/
def triples (r : Record String) (time : Timestamp) : List Triple :=
  (properties r time).map fun property => ⟨.iri r.key, property.1, property.2⟩

theorem length_triples (r : Record String) (time : Timestamp) :
    (triples r time).length = if r.result.isSome then 6 else 5 := by
  unfold triples properties
  cases r.result <;> rfl

theorem readUpdate?_delete (p : String) :
    readUpdate? (delete (promptKey p)) = some [.deleteWhere [everything (promptKey p)]] := by
  have htokens := (reads_delete p).tokens? rfl
  simp only [readUpdate?, items?, htokens]
  rfl

theorem readUpdate?_replace {r : Record String} {p : String} (hkey : r.key = promptKey p)
    {t : Timestamp} (ht : r.createdAt.toUtc = .ok t) :
    ∃ text, replace r = .ok text
      ∧ readUpdate? text = some [.deleteWhere [everything r.key], .insertData (triples r t)] := by
  obtain ⟨text, htext, htokens⟩ := tokens?_replace hkey ht
  refine ⟨text, htext, ?_⟩
  simp only [readUpdate?, items?, htokens]
  unfold replaceTokens factTokens triples properties
  cases r.result with
  | none => rfl
  | some s => rfl

/-! ### Queries -/

/-- A triple about a key with one of its properties. -/
def about (key name : String) (object : Node) : Pattern :=
  ⟨.term (.iri key), .term (cacheTerm name), object⟩

/-- The variables of the query for a record. -/
def recordNames : List String := ["prompt", "intent", "query", "result", "createdAt"]

/-- The query for the record of a key. -/
def recordQuery (key : String) : Query where
  selection := .values recordNames
  required :=
    [⟨.term (.iri key), .term typePredicate, .term (cacheTerm "CachedEntry")⟩,
      about key "originalPrompt" (.var "prompt"),
      about key "hasNLPResponse" (.var "intent"),
      about key "hasGraphQLQuery" (.var "query"),
      about key "createdAt" (.var "createdAt")]
  optional := some [about key "hasResult" (.var "result")]
  limit := some 1

/-- The query for the number of records. -/
def totalQuery : Query where
  selection := .count "entry" "total"
  required := [⟨.var "entry", .term typePredicate, .term (cacheTerm "CachedEntry")⟩]
  optional := none
  limit := none

/-- The tokens of the lines of the query for a record. -/
def patternTokens (key : String) : List (List Token) :=
  [[.iri key, .word "a", .name "cache" "CachedEntry", .mark ';'],
    [.name "cache" "originalPrompt", .var "prompt", .mark ';'],
    [.name "cache" "hasNLPResponse", .var "intent", .mark ';'],
    [.name "cache" "hasGraphQLQuery", .var "query", .mark ';'],
    [.name "cache" "createdAt", .var "createdAt", .mark '.'],
    [.word "OPTIONAL", .mark '\x7b', .iri key, .name "cache" "hasResult", .var "result",
      .mark '\x7d']]

/-- The tokens that select the properties of a record. -/
def selectTokens : List Token :=
  [.word "SELECT", .var "prompt", .var "intent", .var "query", .var "result", .var "createdAt",
    .word "WHERE"]

theorem tokens?_select (p : String) :
    tokens? (select (promptKey p)) = some (vocabularyTokens ++ selectTokens ++ [.mark '\x7b']
      ++ (patternTokens (promptKey p)).flatten
      ++ [.mark '\x7d', .word "LIMIT", .number 1]) := by
  have hselect : Reads .between "SELECT ?prompt ?intent ?query ?result ?createdAt WHERE ".toList
      selectTokens .between := reads_fixed (by decide +kernel)
  have hoptional : ReadsLine ("  OPTIONAL \x7b " ++ resource (promptKey p)
      ++ " cache:hasResult ?result \x7d") [.word "OPTIONAL", .mark '\x7b', .iri (promptKey p),
        .name "cache" "hasResult", .var "result", .mark '\x7d'] := by
    have hfront : Reads .between "  OPTIONAL \x7b ".toList [.word "OPTIONAL", .mark '\x7b']
        .between := reads_fixed (by decide +kernel)
    have hback : Reads .between " cache:hasResult ?result \x7d".toList
        [.name "cache" "hasResult", .var "result", .mark '\x7d'] .between :=
      reads_fixed (by decide +kernel)
    have hall := hfront.append ((reads_resource p).append hback)
    apply readsLine_of_reads
    rw [String.toList_append, String.toList_append, List.append_assoc]
    exact hall
  have hlines : List.Forall₂ ReadsLine
      ["  " ++ resource (promptKey p) ++ " a cache:CachedEntry ;",
        "    cache:originalPrompt ?prompt ;",
        "    cache:hasNLPResponse ?intent ;",
        "    cache:hasGraphQLQuery ?query ;",
        "    cache:createdAt ?createdAt .",
        "  OPTIONAL \x7b " ++ resource (promptKey p) ++ " cache:hasResult ?result \x7d"]
      (patternTokens (promptKey p)) :=
    .cons (readsLine_type p) (.cons (reads_fixed (by decide +kernel))
      (.cons (reads_fixed (by decide +kernel)) (.cons (reads_fixed (by decide +kernel))
        (.cons (reads_fixed (by decide +kernel)) (.cons hoptional .nil)))))
  have hlimit : Reads .between "\nLIMIT 1".toList [.word "LIMIT"] (.run .number ['1']) :=
    reads_fixed (by decide)
  have hall := reads_vocabularies.append (hselect.append
    ((reads_block (by simp) hlines).append hlimit))
  have hread : Reads .between (select (promptKey p)).toList (vocabularyTokens ++ selectTokens
      ++ [.mark '\x7b'] ++ (patternTokens (promptKey p)).flatten ++ [.mark '\x7d', .word "LIMIT"])
      (.run .number ['1']) := by
    unfold select
    simpa using hall
  have hend : (Place.run .number ['1']).finish = some [.number 1] := rfl
  rw [hread.tokens? hend]
  simp

theorem readQuery?_select (p : String) :
    readQuery? (select (promptKey p)) = some (recordQuery (promptKey p)) := by
  simp only [readQuery?, items?, tokens?_select]
  rfl

theorem readQuery?_count : readQuery? count = some totalQuery := by
  have hselect : Reads .between
      "SELECT (COUNT(?entry) AS ?total) WHERE \x7b ?entry a cache:CachedEntry \x7d".toList
      [.word "SELECT", .mark '(', .word "COUNT", .mark '(', .var "entry", .mark ')', .word "AS",
        .var "total", .mark ')', .word "WHERE", .mark '\x7b', .var "entry", .word "a",
        .name "cache" "CachedEntry", .mark '\x7d'] .between := reads_fixed (by decide +kernel)
  have hall := reads_vocabularies.append hselect
  rw [← String.toList_append] at hall
  have htokens : tokens? count = _ := hall.tokens? rfl
  simp only [readQuery?, items?, htokens]
  rfl

end Statement

end ConceptQuery.Cache
