import ConceptQuery.Proofs.Cache.Statement

/-!
# How keys spell their prompts

A key is a fixed beginning and the form encoding of its prompt.  The encoding has an alphabet of its
own, so a key is one reference wherever it is written; it can be decoded, so no two prompts share
one; and it is made character by character, so prompts that are put together have encodings that
are put together.

* `Cache.SpellsPrompt`, `promptKey_spells` — all of this for the key of any prompt.
-/

namespace ConceptQuery.Cache

open Text

/-! ### Keys -/

/-- A key spells a prompt: what it consists of, how it is read, and what it tells apart. -/
structure SpellsPrompt (prompt key : String) : Prop where
  /-- Behind the beginning, the spelling is that of encodings, without a colon, and is decoded to the
  prompt. -/
  encoded : ∃ rest, key = "urn:prompt:" ++ rest ∧ FormSpelled rest.toList ∧ ':' ∉ rest.toList
    ∧ formDecode? rest = some prompt
  /-- Between angle brackets it is one reference, whatever stands around it. -/
  reference : Sparql.Reads .between (Statement.resource key).toList [.iri key] .between
  /-- It is the key of no other prompt. -/
  own : ∀ other, promptKey other = key ↔ other = prompt
  /-- A prompt that goes on has a key that goes on, by the encoding of what was added. -/
  extended : ∀ more rest, promptKey more = "urn:prompt:" ++ rest →
    promptKey (prompt ++ more) = key ++ rest

/-- **The key of any prompt spells it.** -/
theorem promptKey_spells (prompt : String) : SpellsPrompt prompt (promptKey prompt) where
  encoded :=
    ⟨formEncode prompt, rfl, formSpelled_encode prompt, not_colon_of_encoded,
      formDecode?_encode prompt⟩
  reference := Statement.reads_resource prompt
  own := fun _ => promptKey_inj
  extended := by
    intro more rest hrest
    have hmore : formEncode more = rest := promptKey_eq_append_iff.1 hrest
    rw [promptKey, promptKey, formEncode_append, hmore, String.append_assoc]

end ConceptQuery.Cache
