import ConceptQuery.Turtle.Reader

/-!
# Statements are read as the grammar has them

The part of the grammar in which mapping documents are written: statements about named subjects,
with names and plain strings as objects. What is left out are blank nodes, collections, and literals
of other kinds.

* `Turtle.Denotes`, `Turtle.Verb`, `Turtle.Objects`, `Turtle.Properties`, `Turtle.Statements` — the
  grammar over tokens, with the triples that are stated;
* `readNode_of_denotes`, `readObjects_of_objects`, `readProperties_of_properties`,
  `readStatement_of_properties` — the readers, one after the other, whatever follows;
* `readStatements_of_statements` — all statements of a document;
* `readStatements_declaration` — the declaration of a prefix in front of them.
-/

namespace ConceptQuery.Turtle

open Rdf

/-! ### The grammar -/

/-- A token that is a node. -/
inductive Denotes (prefixes : Table String) : Token → Term → Prop where
  | name {scope root : String} (h : prefixes.get? scope = some root) (part : String) :
    Denotes prefixes (.name scope part) (.iri (root ++ part))
  | text (text : String) : Denotes prefixes (.string text .plain) (.plain text)

/-- A token that is a predicate. -/
inductive Verb (prefixes : Table String) : Token → Term → Prop where
  | type : Verb prefixes (.word "a") (rdfName "type")
  | name {scope root : String} (h : prefixes.get? scope = some root) (part : String) :
    Verb prefixes (.name scope part) (.iri (root ++ part))

/-- Objects with commas between them. -/
inductive Objects (prefixes : Table String) : List Token → List Term → Prop where
  | one {t : Token} {node : Term} (h : Denotes prefixes t node) : Objects prefixes [t] [node]
  | more {t : Token} {node : Term} {ts : List Token} {nodes : List Term}
      (h : Denotes prefixes t node) (hs : Objects prefixes ts nodes) :
    Objects prefixes (t :: .mark ',' :: ts) (node :: nodes)

/-- Predicates with their objects; semicolons stand between them. -/
inductive Properties (prefixes : Table String) : List Token → List (Term × Term) → Prop where
  | one {t : Token} {p : Term} {ts : List Token} {nodes : List Term} (hv : Verb prefixes t p)
      (ho : Objects prefixes ts nodes) : Properties prefixes (t :: ts) (nodes.map (p, ·))
  | more {t : Token} {p : Term} {ts ts' : List Token} {nodes : List Term}
      {pairs : List (Term × Term)} (hv : Verb prefixes t p) (ho : Objects prefixes ts nodes)
      (hs : Properties prefixes ts' pairs) :
    Properties prefixes (t :: (ts ++ .mark ';' :: ts')) (nodes.map (p, ·) ++ pairs)

/-- The triples about a subject. -/
def about (subject : Term) (pairs : List (Term × Term)) : List Triple :=
  pairs.map fun pair => ⟨subject, pair.1, pair.2⟩

/-- Statements about named subjects, and the triples that they state. -/
inductive Statements (prefixes : Table String) : List Token → List Triple → Prop where
  | nil : Statements prefixes [] []
  | cons {scope root : String} {ts ts' : List Token} {pairs : List (Term × Term)}
      {triples : List Triple} (h : prefixes.get? scope = some root) (part : String)
      (hp : Properties prefixes ts pairs) (hs : Statements prefixes ts' triples) :
    Statements prefixes (.name scope part :: (ts ++ .mark '.' :: ts'))
      (about (.iri (root ++ part)) pairs ++ triples)

variable {prefixes : Table String} {r : Reading} {t : Token} {ts : List Token} {node p : Term}
  {nodes : List Term} {pairs : List (Term × Term)} {triples : List Triple}

/-! ### Nodes and predicates -/

theorem Reading.state_state (r : Reading) (ts us : List Triple) :
    (r.state ts).state us = r.state (ts ++ us) := by
  unfold Reading.state Graph.addAll
  rw [List.foldl_append]

theorem resource?_name {scope root : String} (h : r.prefixes.get? scope = some root)
    (part : String) : r.resource? (.name scope part) = some (root ++ part) := by
  rw [Reading.resource?, h]
  rfl

theorem readNode_of_denotes (h : Denotes r.prefixes t node) (fuel : Nat) (rest : List Token) :
    readNode (fuel + 1) r (t :: rest) = some (node, r, rest) := by
  cases h with
  | @name scope root h part =>
    have hnone (c : Char) : afterMark? c (.name scope part :: rest) = none := rfl
    rw [readNode, hnone, hnone]
    · nofun
    · exact resource?_name h part
  | text text => rfl

theorem verb?_of_verb (h : Verb r.prefixes t p) : verb? r t = some p := by
  cases h with
  | type => rfl
  | name h part =>
    rw [verb?, if_neg nofun, resource?_name h]
    rfl

theorem takeVerb?_of_verb (h : Verb r.prefixes t p) (rest : List Token) :
    takeVerb? r (t :: rest) = some (p, rest) := by
  rw [takeVerb?, verb?_of_verb h]
  rfl

theorem Verb.skipSemicolons_eq (h : Verb prefixes t p) (rest : List Token) :
    skipSemicolons (t :: rest) = t :: rest := by
  cases h <;> rfl

theorem Properties.cons_verb (h : Properties prefixes ts pairs) :
    ∃ t p more, ts = t :: more ∧ Verb prefixes t p := by
  cases h with
  | one hv _ => exact ⟨_, _, _, rfl, hv⟩
  | more hv _ _ => exact ⟨_, _, _, rfl, hv⟩

/-! ### Lists of them

The recursion is on a bound that goes down with every reader that is called, and each of them takes
a token at least. -/

theorem readObjects_of_objects (h : Objects r.prefixes ts nodes) {fuel : Nat}
    (hfuel : ts.length < fuel) {rest : List Token} (hrest : afterMark? ',' rest = none) :
    readObjects fuel r (ts ++ rest) = some (nodes, r, rest) := by
  induction h generalizing fuel with
  | one h =>
    rw [List.length_singleton] at hfuel
    obtain ⟨fuel, rfl⟩ : ∃ n, fuel = n + 2 := ⟨fuel - 2, by omega⟩
    rw [readObjects, List.singleton_append, readNode_of_denotes h, Option.bind_eq_bind,
      Option.bind_some]
    dsimp only
    rw [hrest]
    rfl
  | @more t node ts nodes h _ ih =>
    rw [List.length_cons, List.length_cons] at hfuel
    obtain ⟨fuel, rfl⟩ : ∃ n, fuel = n + 2 := ⟨fuel - 2, by omega⟩
    have hcomma : afterMark? ',' (.mark ',' :: (ts ++ rest)) = some (ts ++ rest) := rfl
    rw [readObjects, List.cons_append, List.cons_append, readNode_of_denotes h, Option.bind_eq_bind,
      Option.bind_some]
    dsimp only
    rw [hcomma, Option.bind_eq_bind]
    dsimp only
    rw [ih (by omega)]
    rfl

/-- A list of properties is read up to a mark that goes on none of them. -/
theorem readProperties_of_properties (h : Properties r.prefixes ts pairs) (subject : Term)
    {fuel : Nat} (hfuel : ts.length < fuel) {rest : List Token}
    (hcomma : afterMark? ',' rest = none) (hsemicolon : afterMark? ';' rest = none) :
    readProperties fuel subject r (ts ++ rest) = some (r.state (about subject pairs), rest) := by
  generalize hprefixes : r.prefixes = prefixes at h
  induction h generalizing fuel r with
  | one hv ho =>
    subst hprefixes
    rw [List.length_cons] at hfuel
    obtain ⟨fuel, rfl⟩ : ∃ n, fuel = n + 1 := ⟨fuel - 1, by omega⟩
    rw [readProperties, List.cons_append, takeVerb?_of_verb hv, Option.bind_eq_bind,
      Option.bind_some]
    dsimp only
    rw [readObjects_of_objects ho (by omega) hcomma, Option.bind_eq_bind, Option.bind_some]
    dsimp only
    rw [hsemicolon, about, List.map_map]
    rfl
  | @more t p ts ts' nodes pairs hv ho hs ih =>
    subst hprefixes
    rw [List.length_cons, List.length_append, List.length_cons] at hfuel
    obtain ⟨fuel, rfl⟩ : ∃ n, fuel = n + 1 := ⟨fuel - 1, by omega⟩
    have hfuel' : ts.length < fuel ∧ ts'.length < fuel := by omega
    obtain ⟨t', p', more, rfl, hv'⟩ := hs.cons_verb
    have hopen : afterMark? ';' (.mark ';' :: (t' :: more ++ rest)) = some (t' :: more ++ rest) :=
      rfl
    have hnext (us : List Triple) : takeVerb? (r.state us) (t' :: more ++ rest)
        = some (p', more ++ rest) := takeVerb?_of_verb (r := r.state us) hv' _
    rw [readProperties, List.cons_append, takeVerb?_of_verb hv, Option.bind_eq_bind,
      Option.bind_some]
    dsimp only
    rw [List.append_assoc, List.cons_append, readObjects_of_objects ho hfuel'.1 rfl,
      Option.bind_eq_bind, Option.bind_some]
    dsimp only
    rw [hopen]
    dsimp only
    rw [List.cons_append, hv'.skipSemicolons_eq, ← List.cons_append, hnext]
    dsimp only
    rw [ih (r := r.state _) hfuel'.2 rfl, Reading.state_state, about, about, List.map_append,
      List.map_map]
    rfl

/-! ### Statements -/

/-- A statement about a named subject is read up to its point. -/
theorem readStatement_of_properties {scope root : String} (h : r.prefixes.get? scope = some root)
    (part : String) (hp : Properties r.prefixes ts pairs) {fuel : Nat} (hfuel : ts.length < fuel)
    (rest : List Token) : readStatement fuel r (.name scope part :: (ts ++ .mark '.' :: rest))
      = some (r.state (about (.iri (root ++ part)) pairs), rest) := by
  obtain ⟨fuel, rfl⟩ : ∃ n, fuel = n + 1 := ⟨fuel - 1, by omega⟩
  have hsubject : readSubject (fuel + 1) r (.name scope part :: (ts ++ .mark '.' :: rest))
      = some (.iri (root ++ part), false, r, ts ++ .mark '.' :: rest) := by
    rw [readSubject, readNode_of_denotes (.name h part)]
    rfl
  have hpoint : afterMark? '.' (.mark '.' :: rest) = some rest := rfl
  rw [readStatement, readTriples, hsubject, Option.bind_eq_bind, Option.bind_some]
  · dsimp only
    rw [readProperties_of_properties hp _ hfuel rfl rfl, Option.bind_eq_bind, Option.bind_some]
    dsimp only
    rw [hpoint]
    rfl
  · nofun
  · nofun

/-- **Statements are read**, each with the triples that it states. -/
theorem readStatements_of_statements (h : Statements r.prefixes ts triples) {fuel : Nat}
    (hfuel : ts.length ≤ fuel) : readStatements fuel r ts = some (r.state triples) := by
  generalize hprefixes : r.prefixes = prefixes at h
  induction h generalizing fuel r with
  | nil =>
    cases fuel <;> rfl
  | @cons scope root ts ts' pairs triples h part hp _ ih =>
    subst hprefixes
    simp only [List.length_cons, List.length_append] at hfuel
    obtain ⟨fuel, rfl⟩ : ∃ n, fuel = n + 1 := ⟨fuel - 1, by omega⟩
    have hfuel' : ts'.length ≤ fuel := by omega
    have hbound :
        ts.length < 2 * (Token.name scope part :: (ts ++ .mark '.' :: ts')).length + 2 := by
      simp only [List.length_cons, List.length_append]
      omega
    rw [readStatements, readStatement_of_properties h part hp hbound, Option.bind_eq_bind,
      Option.bind_some]
    · dsimp only
      rw [ih (r := r.state _) hfuel' rfl, Reading.state_state]
    · nofun

/-- The declaration of a prefix by an absolute reference. -/
theorem readStatements_declaration (r : Reading) (scope : String) {reference : String}
    (h : isAbsolute reference.toList = true) (fuel : Nat) (rest : List Token) :
    readStatements (fuel + 1) r
        (.directive "prefix" :: .name scope "" :: .iri reference :: .mark '.' :: rest)
      = readStatements fuel { r with prefixes := r.prefixes.insert scope reference } rest := by
  have hresolve : resolve r.base reference = reference := by
    rw [resolve, if_pos h]
  have hread : readStatement (2 * (rest.length + 4) + 2) r
      (.directive "prefix" :: .name scope "" :: .iri reference :: .mark '.' :: rest)
        = some ({ r with prefixes := r.prefixes.insert scope (resolve r.base reference) }, rest) :=
    rfl
  rw [hresolve] at hread
  rw [readStatements]
  · exact congrArg (· >>= fun read => readStatements fuel read.1 read.2) hread
  · nofun

end ConceptQuery.Turtle
