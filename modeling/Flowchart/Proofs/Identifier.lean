import Flowchart.Proofs.Characters
import Mathlib.Data.List.Basic

/-!
# Names

The identifiers that `Identifier.ofText` makes, and the texts that it leaves
alone, are the same ones: legal, not reserved, and without an underscore in
front. They are called names here.

That a name made by marking is not reserved rests on how the keywords begin. A
reserved text agrees with some keyword in letter case aside, so it begins as that
keyword does, and none of them begins with the mark. The names of blocks are
kept clear of the keywords in the same way.

## Main definitions

* `Identifier.IsId`: A legal identifier that can name a node.
* `Identifier.IsName`: Such an identifier without an underscore in front.

## Theorems

* `Identifier.not_isReserved_of_isPrefix`: A text that begins as no keyword does
  is not reserved.
* `Identifier.isName_of_isPrefix`: It is a name if it consists of characters of
  words and begins with a letter.
* `Identifier.isName_ofText`: Every text is made into a name.
* `Identifier.ofText_eq_self_iff`: The names are the texts left alone.
-/

namespace Flowchart

namespace Identifier

/-- A legal identifier that is no keyword. -/
structure IsId (t : Text) : Prop where
  legal : isLegal t = true
  free : isReserved t = false

/-- A legal identifier that is no keyword and has no underscore in front. -/
structure IsName (t : Text) : Prop where
  legal : isLegal t = true
  free : isReserved t = false
  front : t.head? ≠ some '_'

/-! ### Legal identifiers -/

/-- A legal identifier starts properly and goes on in characters of words. -/
theorem isLegal_iff {t : Text} :
    isLegal t = true ↔
      (∃ c, t.head? = some c ∧ isStart c = true) ∧ ∀ c ∈ t, isWordChar c = true := by
  rcases t with _ | ⟨c, r⟩
  · simp [isLegal]
  · rw [isLegal, Bool.and_eq_true, List.all_eq_true]
    constructor
    · rintro ⟨hc, hr⟩
      refine ⟨⟨c, rfl, hc⟩, fun d hd => ?_⟩
      rcases List.mem_cons.1 hd with rfl | hd
      · exact isWordChar_of_isStart hc
      · exact hr d hd
    · rintro ⟨⟨d, hd, hstart⟩, hword⟩
      rw [List.head?_cons, Option.some.injEq] at hd
      exact ⟨hd ▸ hstart, fun e he => hword e (List.mem_cons_of_mem c he)⟩

/-- The mark makes an identifier of whatever consists of characters of words. -/
theorem isLegal_mark_append {t : Text} (h : ∀ c ∈ t, isWordChar c = true) :
    isLegal (mark ++ t) = true := by
  refine isLegal_iff.2 ⟨⟨'n', rfl, by decide⟩, fun d hd => ?_⟩
  rcases List.mem_append.1 hd with hd | hd
  · exact List.all_eq_true.1 (by decide : mark.all isWordChar = true) d hd
  · exact h d hd

/-- The mark is no underscore. -/
theorem head?_mark_append (t : Text) : (mark ++ t).head? ≠ some '_' := by
  rw [List.head?_append_of_ne_nil mark (by decide)]
  decide

theorem IsId.isWordChar {t : Text} (h : IsId t) : ∀ c ∈ t, isWordChar c = true :=
  (isLegal_iff.1 h.legal).2

theorem IsId.ne_nil {t : Text} (h : IsId t) : t ≠ [] := by
  rintro rfl
  exact absurd h.legal (by decide)

theorem IsName.isId {t : Text} (h : IsName t) : IsId t := ⟨h.legal, h.free⟩

theorem IsName.isWordChar {t : Text} (h : IsName t) : ∀ c ∈ t, isWordChar c = true :=
  h.isId.isWordChar

theorem IsName.ne_nil {t : Text} (h : IsName t) : t ≠ [] := h.isId.ne_nil

/-! ### Reserved words -/

/-- A text is not reserved if it begins, letter case aside, as no keyword
    does. -/
theorem not_isReserved_of_isPrefix {p t : Text}
    (hk : ∀ k ∈ keywords, ¬ p <+: Text.lowerAscii k.toList) (hp : p <+: t.lowerAscii) :
    isReserved t = false := by
  rw [isReserved, List.any_eq_false]
  intro k hmem heq
  rw [decide_eq_true_eq] at heq
  exact hk k hmem (heq ▸ hp)

theorem not_isReserved_mark (t : Text) : isReserved (mark ++ t) = false := by
  refine not_isReserved_of_isPrefix (p := ['n']) (by decide) ⟨'_' :: Text.lowerAscii t, ?_⟩
  rfl

/-- Characters of words make a name if they begin with a letter and as no
    keyword does. -/
theorem isName_of_isPrefix {front t : Text} {c : Char} (hfront : front <+: t)
    (hhead : front.head? = some c) (hstart : isStart c = true) (hunderscore : c ≠ '_')
    (hkeywords : ∀ k ∈ keywords, ¬ front.lowerAscii <+: Text.lowerAscii k.toList)
    (hword : ∀ c ∈ t, isWordChar c = true) : IsName t := by
  rcases hfront with ⟨u, rfl⟩
  have hfirst : (front ++ u).head? = some c := by
    rw [List.head?_append, hhead]
    rfl
  refine ⟨isLegal_iff.2 ⟨⟨c, hfirst, hstart⟩, hword⟩, ?_, ?_⟩
  -- Letter case is lowered character by character, so a beginning stays one.
  · refine not_isReserved_of_isPrefix hkeywords ⟨Text.lowerAscii u, ?_⟩
    rw [Text.lowerAscii, Text.lowerAscii, Text.lowerAscii, List.map_append]
  · rw [hfirst]
    intro heq
    exact hunderscore (Option.some.inj heq)

/-! ### What is made of a text -/

theorem isWordChar_of_mem_letters {c d : Char} (h : d ∈ letters c) : isWordChar d = true := by
  unfold letters at h
  split at h
  · rw [List.mem_singleton.1 h]
    split
    · assumption
    · decide
  · split at h
    · rcases List.mem_map.1 h with ⟨f, -, rfl⟩
      split
      · rename_i hf
        rw [isWordChar, hf, Bool.true_or]
      · decide
    · rw [List.mem_singleton.1 h]
      decide

theorem isLegal_startProperly {t : Text} (h : ∀ c ∈ t, isWordChar c = true) :
    isLegal (startProperly t) = true := by
  unfold startProperly
  split
  · rename_i c r
    split
    · rename_i hc
      exact isLegal_iff.2 ⟨⟨c, rfl, hc⟩, h⟩
    · exact isLegal_mark_append h
  · decide

/-- Exchanging the underscores in front for the mark keeps the identifier
    legal. -/
theorem dropUnderscores_spec {t : Text} (h : isLegal t = true) :
    isLegal (dropUnderscores t) = true ∧ (dropUnderscores t).head? ≠ some '_' := by
  have hword := (isLegal_iff.1 h).2
  unfold dropUnderscores
  split
  · rename_i r
    have hrest : ∀ c ∈ ('_' :: r).dropWhile (· == '_'), isWordChar c = true := fun c hc =>
      hword c ((List.dropWhile_suffix _).mem hc)
    exact ⟨isLegal_mark_append hrest, head?_mark_append _⟩
  · rename_i hne
    refine ⟨h, fun hhead => ?_⟩
    rcases t with _ | ⟨c, r⟩
    · exact absurd hhead (by simp)
    · rw [List.head?_cons, Option.some.injEq] at hhead
      exact hne r (by rw [hhead])

/-- Every text is made into a name. -/
theorem isName_ofText (t : Text) : IsName (ofText t) := by
  have hletters : ∀ c ∈ t.flatMap letters, isWordChar c = true := by
    intro c hc
    rcases List.mem_flatMap.1 hc with ⟨d, -, hd⟩
    exact isWordChar_of_mem_letters hd
  rcases dropUnderscores_spec (isLegal_startProperly hletters) with ⟨hlegal, hfront⟩
  rw [ofText, avoidKeyword]
  -- A keyword is marked, and a marked text is none.
  split
  · have hword := (isLegal_iff.1 hlegal).2
    exact ⟨isLegal_mark_append hword, not_isReserved_mark _, head?_mark_append _⟩
  · rename_i hfree
    exact ⟨hlegal, by simpa using hfree, hfront⟩

/-! ### What is left alone -/

theorem letters_of_isWordChar {c : Char} (h : isWordChar c = true) : letters c = [c] := by
  rw [letters, if_pos (isAsciiChar_of_isWordChar h), if_pos h]

theorem flatMap_letters {t : Text} (h : ∀ c ∈ t, isWordChar c = true) : t.flatMap letters = t := by
  induction t with
  | nil => rfl
  | cons c r ih =>
    rw [List.flatMap_cons, letters_of_isWordChar (h c List.mem_cons_self), List.singleton_append,
      ih fun d hd => h d (List.mem_cons_of_mem c hd)]

/-- A name is its own identifier. -/
theorem ofText_of_isName {t : Text} (h : IsName t) : ofText t = t := by
  rcases (isLegal_iff.1 h.legal).1 with ⟨c, hc, hstart⟩
  rcases t with _ | ⟨d, r⟩
  · exact absurd hc (by simp)
  · rw [List.head?_cons, Option.some.injEq] at hc
    subst hc
    -- None of the three steps finds anything to do.
    have hstartProperly : startProperly (d :: r) = d :: r := by
      rw [startProperly, if_pos hstart]
    have hdrop : dropUnderscores (d :: r) = d :: r := by
      unfold dropUnderscores
      split
      · rename_i heq
        rw [List.cons.injEq] at heq
        exact absurd (by rw [heq.1]; rfl) h.front
      · rfl
    rw [ofText, flatMap_letters h.isWordChar, hstartProperly, hdrop, avoidKeyword, h.free,
      if_neg (by decide)]

/-- The names are exactly the texts that are left alone. -/
theorem ofText_eq_self_iff {t : Text} : ofText t = t ↔ IsName t :=
  ⟨fun h => h ▸ isName_ofText t, ofText_of_isName⟩

end Identifier

end Flowchart
