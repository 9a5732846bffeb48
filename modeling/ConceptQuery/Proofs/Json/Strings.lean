import ConceptQuery.Proofs.Except
import ConceptQuery.Proofs.Json.Grammar
import Mathlib.Tactic.SplitIfs

/-!
# Strings are read as the grammar has them

* `stringBody_of_text` — the inside of a string is read whatever follows its closing quote;
* `text_of_stringBody` — what is read is the inside of a string.
-/

namespace ConceptQuery.Json

open Text

variable {s cs rest left : List Char} {c e : Char} {start : Nat}

theorem isHighSurrogate_iff {n : Nat} : isHighSurrogate n = true ↔ 0xD800 ≤ n ∧ n < 0xDC00 := by
  simp [isHighSurrogate]

theorem isLowSurrogate_iff {n : Nat} : isLowSurrogate n = true ↔ 0xDC00 ≤ n ∧ n < 0xE000 := by
  simp [isLowSurrogate]

theorem shortEscape?_eq_some : shortEscape? c = some e ↔ (c, e) ∈ shortEscapes := by
  constructor
  · intro h
    unfold shortEscape? at h
    split_ifs at h with hself hb hf hn hr ht
    all_goals obtain rfl := Option.some.inj h
    · simp only [Bool.or_eq_true, decide_eq_true_eq] at hself
      rcases hself with (rfl | rfl) | rfl <;> decide
    all_goals subst_vars; decide
  · intro h
    unfold shortEscapes at h
    simp only [List.mem_cons, Prod.mk.injEq, List.not_mem_nil, or_false] at h
    rcases h with ⟨rfl, rfl⟩ | ⟨rfl, rfl⟩ | ⟨rfl, rfl⟩ | ⟨rfl, rfl⟩ | ⟨rfl, rfl⟩ | ⟨rfl, rfl⟩
      | ⟨rfl, rfl⟩ | ⟨rfl, rfl⟩ <;> rfl

theorem ne_u_of_shortEscape (h : (c, e) ∈ shortEscapes) : c ≠ 'u' := by
  rintro rfl
  simp [shortEscapes] at h

/-! ### From the grammar to the reader -/

theorem takeUnit?_eq {a b c d : Char} {n : Nat} (h : hexNumber? [a, b, c, d] = some n) :
    takeUnit? (a :: b :: c :: d :: rest) = some (n, rest) := by
  rw [takeUnit?, h]
  rfl

/-- An escape is read, if a character follows it. -/
theorem readEscape_of_char {u : List Char} (start : Nat) (h : StringChar ('\\' :: u) c)
    (hrest : rest ≠ []) :
    readEscape start (u ++ rest) = .ok (c, rest) := by
  cases h with
  | plain _ hbackslash => exact absurd rfl hbackslash
  | short hshort =>
    rw [List.singleton_append, readEscape, if_neg (ne_u_of_shortEscape hshort),
      shortEscape?_eq_some.2 hshort]
  | @unicode a b d e n hn hchar =>
    have hhigh : ¬ isHighSurrogate n = true := by
      rw [isHighSurrogate_iff]
      omega
    have hlow : ¬ isLowSurrogate n = true := by
      rw [isLowSurrogate_iff]
      omega
    have hmore : ¬ ((a :: b :: d :: e :: rest).drop 4).isEmpty = true := by
      simpa using hrest
    simp only [List.cons_append, List.nil_append]
    rw [readEscape, if_pos rfl, readUnicodeEscape, if_neg hmore, takeUnit?_eq hn]
    dsimp only
    rw [if_neg hhigh, if_neg hlow]
  | pair hn hn' hhigh hlow =>
    simp only [List.cons_append, List.nil_append]
    rw [readEscape, if_pos rfl, readUnicodeEscape, if_neg (by simp), takeUnit?_eq hn]
    dsimp only
    rw [if_pos (isHighSurrogate_iff.2 hhigh)]
    simp only [readLowHalf, dropWord?, if_true, takeUnit?_eq hn',
      isLowSurrogate_iff.2 hlow]

/-- **The inside of a string is read**, whatever follows its closing quote. -/
theorem stringBody_of_text (h : StringText s cs) (start : Nat) (rest : List Char) :
    stringBody start (s ++ '"' :: rest) = .ok (cs, rest) := by
  induction h with
  | nil =>
    rw [List.nil_append, stringBody, if_pos rfl]
  | @cons u s cs c hu hs ih =>
    rw [List.append_assoc]
    have hmore : s ++ '"' :: rest ≠ [] := by simp
    cases u with
    | nil => cases hu
    | cons d u =>
      by_cases hd : d = '\\'
      · subst hd
        have hescape := readEscape_of_char start hu hmore
        rw [List.cons_append, stringBody, if_neg (by decide), if_pos rfl]
        split
        · next hread =>
          rw [hescape] at hread
          cases hread
        · next hread =>
          rw [hescape] at hread
          obtain ⟨rfl, rfl⟩ := Prod.mk.inj (Except.ok.inj hread)
          rw [ih]
          rfl
      · cases hu with
        | plain hquote _ hcontrol =>
          rw [List.cons_append, List.nil_append, stringBody, if_neg hquote, if_neg hd,
            if_neg (by omega), ih]
          rfl
        | short => exact absurd rfl hd
        | unicode => exact absurd rfl hd
        | pair => exact absurd rfl hd

/-! ### From the reader to the grammar -/

theorem dropWord?_eq_some {word : List Char} (h : dropWord? word s = some left) :
    s = word ++ left := by
  induction word generalizing s with
  | nil => exact Option.some.inj h
  | cons c word ih =>
    cases s with
    | nil => cases h
    | cons d s =>
      rw [dropWord?] at h
      split at h
      · next hcd => rw [ih h, hcd, List.cons_append]
      · cases h

theorem takeUnit?_eq_some {n : Nat} (h : takeUnit? s = some (n, left)) :
    ∃ a b c d, s = a :: b :: c :: d :: left ∧ hexNumber? [a, b, c, d] = some n := by
  unfold takeUnit? at h
  split at h
  · next a b c d rest =>
    obtain ⟨m, hm, hpair⟩ := Option.map_eq_some_iff.1 h
    obtain ⟨rfl, rfl⟩ := Prod.mk.inj hpair
    exact ⟨a, b, c, d, rfl, hm⟩
  · cases h

/-- What is read as an escape is one. -/
theorem char_of_readEscape (h : readEscape start s = .ok (c, left)) :
    ∃ u, s = u ++ left ∧ StringChar ('\\' :: u) c := by
  unfold readEscape at h
  split at h
  · cases h
  · next d rest =>
    split at h
    · next hu =>
      subst hu
      unfold readUnicodeEscape at h
      split at h
      · cases h
      · split at h
        · cases h
        · next n after hunit =>
          obtain ⟨a, b, e, f, rfl, hn⟩ := takeUnit?_eq_some hunit
          split at h
          · next hhigh =>
            unfold readLowHalf at h
            split at h
            · cases h
            · next after' hword =>
              obtain rfl := dropWord?_eq_some hword
              split at h
              · cases h
              · next low after'' hunit' =>
                obtain ⟨a', b', e', f', rfl, hlow⟩ := takeUnit?_eq_some hunit'
                split at h
                · next hislow =>
                  obtain ⟨rfl, rfl⟩ := Prod.mk.inj (Except.ok.inj h)
                  exact ⟨_, rfl, .pair hn hlow (isHighSurrogate_iff.1 hhigh)
                    (isLowSurrogate_iff.1 hislow)⟩
                · cases h
          · next hhigh =>
            split at h
            · cases h
            · next hlow =>
              obtain ⟨rfl, rfl⟩ := Prod.mk.inj (Except.ok.inj h)
              refine ⟨['u', a, b, e, f], rfl, .unicode hn ?_⟩
              rw [isHighSurrogate_iff] at hhigh
              rw [isLowSurrogate_iff] at hlow
              omega
    · split at h
      · next e hshort =>
        obtain ⟨rfl, rfl⟩ := Prod.mk.inj (Except.ok.inj h)
        exact ⟨[d], rfl, .short (shortEscape?_eq_some.1 hshort)⟩
      · cases h

/-- **What is read as a string** is the inside of one, up to its closing quote. -/
theorem text_of_stringBody (h : stringBody start s = .ok (cs, left)) :
    ∃ u, s = u ++ '"' :: left ∧ StringText u cs := by
  induction s using stringBody.induct start generalizing cs left with
  | case1 =>
    rw [stringBody] at h
    cases h
  | case2 rest =>
    rw [stringBody, if_pos rfl] at h
    obtain ⟨rfl, rfl⟩ := Prod.mk.inj (Except.ok.inj h)
    exact ⟨[], rfl, .nil⟩
  | case3 rest f hread =>
    rw [stringBody, if_neg (by decide), if_pos rfl] at h
    split at h
    · cases h
    · next hread' =>
      rw [hread] at hread'
      cases hread'
  | case4 rest e after hread _ ih =>
    rw [stringBody, if_neg (by decide), if_pos rfl] at h
    split at h
    · cases h
    · next hread' =>
      rw [hread] at hread'
      obtain ⟨rfl, rfl⟩ := Prod.mk.inj (Except.ok.inj hread')
      obtain ⟨⟨text, left'⟩, hbody, hpair⟩ := Except.map_eq_ok.1 h
      obtain ⟨rfl, rfl⟩ := Prod.mk.inj hpair
      obtain ⟨u, rfl, hu⟩ := ih hbody
      obtain ⟨w, rfl, hw⟩ := char_of_readEscape hread
      exact ⟨('\\' :: w) ++ u, by simp, .cons hw hu⟩
  | case5 d rest hquote hbackslash hcontrol =>
    rw [stringBody, if_neg hquote, if_neg hbackslash, if_pos hcontrol] at h
    cases h
  | case6 d rest hquote hbackslash hcontrol ih =>
    rw [stringBody, if_neg hquote, if_neg hbackslash, if_neg hcontrol] at h
    obtain ⟨⟨text, left'⟩, hbody, hpair⟩ := Except.map_eq_ok.1 h
    obtain ⟨rfl, rfl⟩ := Prod.mk.inj hpair
    obtain ⟨u, rfl, hu⟩ := ih hbody
    exact ⟨[d] ++ u, rfl, .cons (.plain hquote hbackslash (by omega)) hu⟩

end ConceptQuery.Json
