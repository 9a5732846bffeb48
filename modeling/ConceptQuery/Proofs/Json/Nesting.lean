import ConceptQuery.Proofs.Json.Grammar

/-!
# Nesting of values

The grammar bounds how deep arrays and objects are nested, and nothing else of a text depends on
this bound.

* `nesting`, `nestingAll`, `nestingMembers` — how deep arrays and objects are nested in a value;
* `ValueText.within` — what spells a value at one depth spells it at every depth that is enough;
* `MembersText.value` — the value of every member of an object is spelled by some text.
-/

namespace ConceptQuery.Json

variable {limits : Limits} {depth : Option Nat}

mutual

/-- How deep arrays and objects are nested in a value. -/
def nesting : Json → Nat
  | .array items => nestingAll items + 1
  | .object members => nestingMembers members + 1
  | _ => 0

/-- How deep they are nested in the items of an array. -/
def nestingAll : List Json → Nat
  | [] => 0
  | item :: rest => max item.nesting (nestingAll rest)

/-- How deep they are nested in the members of an object. -/
def nestingMembers : List (String × Json) → Nat
  | [] => 0
  | (_, value) :: rest => max value.nesting (nestingMembers rest)

end

theorem nestingAll_strings (texts : List String) : nestingAll (texts.map .string) = 0 := by
  induction texts with
  | nil => rfl
  | cons t texts ih =>
    rw [List.map_cons, nestingAll, ih]
    rfl

/-- A depth is enough for so much nesting. -/
def Enough (depth : Option Nat) (n : Nat) : Prop :=
  ∀ k, depth = some k → n ≤ k

theorem enough_some {k n : Nat} (h : n ≤ k) : Enough (some k) n :=
  fun _ hk => Option.some.inj hk ▸ h

theorem Enough.mono {n m : Nat} (h : Enough depth n) (hle : m ≤ n) : Enough depth m :=
  fun k hk => Nat.le_trans hle (h k hk)

/-- Inside of an array or object there is one level less, both of depth and of nesting. -/
theorem Enough.inside {n : Nat} (h : Enough depth (n + 1)) :
    depth ≠ some 0 ∧ Enough (depth.map (· - 1)) n := by
  refine ⟨fun hzero => absurd (h 0 hzero) (Nat.not_succ_le_zero n), fun k hk => ?_⟩
  obtain ⟨m, hm, rfl⟩ := Option.map_eq_some_iff.1 hk
  exact Nat.le_sub_one_of_lt (h m hm)

mutual

/-- **The depth bounds nothing but the nesting of a value.** The induction is on the grammar. -/
theorem ValueText.within {depth depth' : Option Nat} {t : List Char} {v : Json}
    (h : ValueText limits depth t v) (hn : Enough depth' v.nesting) :
    ValueText limits depth' t v := by
  cases h with
  | literal h => exact .literal h
  | number h => exact .number h
  | string h => exact .string h
  | emptyArray _ hb => exact .emptyArray hn.inside.1 hb
  | array _ h => exact .array hn.inside.1 (ElementsText.within h hn.inside.2)
  | emptyObject _ hb => exact .emptyObject hn.inside.1 hb
  | object _ h => exact .object hn.inside.1 (MembersText.within h hn.inside.2)

theorem ElementsText.within {depth depth' : Option Nat} {s : List Char} {vs : List Json}
    (h : ElementsText limits depth s vs) (hn : Enough depth' (nestingAll vs)) :
    ElementsText limits depth' s vs := by
  cases h with
  | last hb hv hb' =>
    exact .last hb (ValueText.within hv (hn.mono (Nat.le_max_left _ _))) hb'
  | more hb hv hb' hs =>
    exact .more hb (ValueText.within hv (hn.mono (Nat.le_max_left _ _))) hb'
      (ElementsText.within hs (hn.mono (Nat.le_max_right _ _)))

theorem MembersText.within {depth depth' : Option Nat} {s : List Char}
    {vs : List (String × Json)} (h : MembersText limits depth s vs)
    (hn : Enough depth' (nestingMembers vs)) : MembersText limits depth' s vs := by
  cases h with
  | last hb hname hb₁ hb₂ hv hb' =>
    have hv := ValueText.within hv (hn.mono (Nat.le_max_left _ _))
    exact .last hb hname hb₁ hb₂ hv hb'
  | more hb hname hb₁ hb₂ hv hb' hs =>
    have hv := ValueText.within hv (hn.mono (Nat.le_max_left _ _))
    have hs := MembersText.within hs (hn.mono (Nat.le_max_right _ _))
    exact .more hb hname hb₁ hb₂ hv hb' hs

end

/-- The value of every member is spelled by some text. -/
theorem MembersText.value {s : List Char} {vs : List (String × Json)}
    (h : MembersText limits depth s vs) {m : String × Json} (hm : m ∈ vs) :
    ∃ t, ValueText limits depth t m.2 := by
  induction vs generalizing s with
  | nil => cases hm
  | cons first rest ih =>
    cases h with
    | last _ _ _ _ hv =>
      obtain rfl := List.mem_singleton.1 hm
      exact ⟨_, hv⟩
    | more _ _ _ _ hv _ hs =>
      rcases List.mem_cons.1 hm with rfl | hm
      · exact ⟨_, hv⟩
      · exact ih hs hm

end ConceptQuery.Json
