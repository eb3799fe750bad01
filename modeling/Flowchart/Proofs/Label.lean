import Flowchart.Proofs.Characters
import Flowchart.Proofs.Markup
import Flowchart.Proofs.Spacing

/-!
# Clean Labels

What a label is when it has been cleaned, and when cleaning it again does
nothing.

A cleaned label has only characters that its rules allow, single spaces between
its words and no more characters than it may have. Every step of the cleaning
leaves such a label alone but one. An entity may stand in it, brought together
by an angle bracket that was dropped, and the next cleaning takes that out. So
`clean_eq_self_iff` reads: cleaning a clean label again changes it exactly if
there is an entity in it.

That can happen once only. A clean label has no angle bracket left, and
cleaning a text without angle brackets leaves no entity.

## Main definitions

* `LabelRules.allows`: A character that the rules leave in a label.
* `Label.IsClean`: A label that follows its rules.

## Theorems

* `Label.isClean_clean`: Cleaning makes a label clean.
* `Label.clean_eq_self_iff`: What cleaning still changes in a clean label.
* `Label.not_hasEntity_clean`: Entities do not survive a second cleaning.
* `Label.mem_clean`: Cleaning a printable text brings in nothing but spaces.
-/

namespace Flowchart

/-- A character that the rules leave in a label. -/
def LabelRules.allows (r : LabelRules) (c : Char) : Bool :=
  isPrintable c && !(r.banMarkup && Markup.isAngle c) && !(r.banQuotes && Label.isQuote c)
    && !(r.banBrackets && Label.isBracket c)

namespace LabelRules

theorem allows_space (r : LabelRules) : r.allows ' ' = true := by
  simp only [allows, (by decide : isPrintable ' ' = true),
    (by decide : Markup.isAngle ' ' = false), (by decide : Label.isQuote ' ' = false),
    (by decide : Label.isBracket ' ' = false), Bool.and_false, Bool.not_false, Bool.and_self]

theorem isPrintable_of_allows {r : LabelRules} {c : Char} (h : r.allows c = true) :
    isPrintable c = true := by
  simp only [allows, Bool.and_eq_true] at h
  exact h.1.1.1

theorem not_isAngle_of_allows {r : LabelRules} (hr : r.banMarkup = true) {c : Char}
    (h : r.allows c = true) : Markup.isAngle c = false := by
  simp only [allows, hr, Bool.true_and, Bool.and_eq_true, Bool.not_eq_true'] at h
  exact h.1.1.2

theorem not_isQuote_of_allows {r : LabelRules} (hr : r.banQuotes = true) {c : Char}
    (h : r.allows c = true) : Label.isQuote c = false := by
  simp only [allows, hr, Bool.true_and, Bool.and_eq_true, Bool.not_eq_true'] at h
  exact h.1.2

theorem not_isBracket_of_allows {r : LabelRules} (hr : r.banBrackets = true) {c : Char}
    (h : r.allows c = true) : Label.isBracket c = false := by
  simp only [allows, hr, Bool.true_and, Bool.and_eq_true, Bool.not_eq_true'] at h
  exact h.2

end LabelRules

namespace Label

open Text Markup

/-! ### Banned characters -/

/-- A character that is allowed is not banned. -/
theorem unban_of_allows {r : LabelRules} {c : Char} (h : r.allows c = true) : unban r c = c := by
  simp only [LabelRules.allows, Bool.and_eq_true, Bool.not_eq_true'] at h
  rw [unban, h.1.2, h.2, Bool.or_self, if_neg (by decide)]

/-- A character is banned by becoming a space. -/
theorem unban_eq (r : LabelRules) (c : Char) : unban r c = ' ' ∨ unban r c = c := by
  unfold unban
  split
  · exact Or.inl rfl
  · exact Or.inr rfl

/-- What is left of a printable character that is no angle bracket is allowed. -/
theorem allows_unban {r : LabelRules} {c : Char} (hp : isPrintable c = true)
    (ha : r.banMarkup = true → isAngle c = false) : r.allows (unban r c) = true := by
  unfold unban
  split
  · exact r.allows_space
  · rename_i hban
    simp only [Bool.or_eq_true, not_or, Bool.not_eq_true] at hban
    rw [LabelRules.allows, hp, hban.1, hban.2]
    -- Angle brackets are banned only where markup is.
    rcases hm : r.banMarkup with _ | _
    · rfl
    · rw [ha hm]
      rfl

/-- A text that a step turns characters into spaces of had every entity
    before. -/
theorem hasEntity_of_map {f : Char → Char} (hf : ∀ c, f c = ' ' ∨ f c = c) {t : Text}
    (h : HasEntity (t.map f)) : HasEntity t := by
  rcases h with ⟨body, hbody, u, v, huv⟩
  rcases List.map_eq_append_iff.1 huv.symm with ⟨s, w, rfl, hs, rfl⟩
  rcases List.map_eq_append_iff.1 hs with ⟨x, y, rfl, rfl, hy⟩
  -- No character of an entity is a space, so none of these was changed.
  have hyfix : y.map f = y := by
    refine map_eq_self_iff.2 fun c hc => ?_
    rcases hf c with hsp | hid
    · have hmem : f c ∈ '&' :: body ++ [';'] := hy ▸ List.mem_map_of_mem hc
      rw [hsp] at hmem
      exact absurd (isEntityChar_of_mem hbody ' ' hmem) (by decide)
    · exact hid
  rw [hyfix] at hy
  exact ⟨body, hbody, x, w, by rw [hy]⟩

/-- Collapsing makes no entity, which has no space in it. -/
theorem hasEntity_of_collapse {t : Text} (h : HasEntity (collapse t)) : HasEntity t := by
  rcases h with ⟨body, hbody, hin⟩
  refine ⟨body, hbody, isInfix_of_collapse (fun hm => ?_) (List.cons_ne_nil _ _) hin⟩
  exact absurd (isEntityChar_of_mem hbody ' ' hm) (by decide)

/-! ### Scrubbing and cutting -/

/-- The folded text without its markup, if the rules ban it. -/
theorem scrub_eq (r : LabelRules) (t : Text) :
    scrub r t = collapse ((if r.banMarkup then strip t.fold else t.fold).map (unban r)) := rfl

theorem allows_of_mem_scrub {r : LabelRules} {t : Text} {c : Char} (h : c ∈ scrub r t) :
    r.allows c = true := by
  rw [scrub_eq] at h
  rcases mem_collapse h with rfl | h
  · exact r.allows_space
  · rcases List.mem_map.1 h with ⟨d, hd, rfl⟩
    rcases hm : r.banMarkup with _ | _
    · rw [hm, if_neg (by decide)] at hd
      exact allows_unban (isPrintable_of_mem_fold hd) (by rw [hm]; simp)
    · rw [hm, if_pos rfl] at hd
      -- What is left of markup is a space or was there before.
      rcases mem_strip hd with ⟨hangle, rfl | hd⟩
      · exact allows_unban (by decide) fun _ => hangle
      · exact allows_unban (isPrintable_of_mem_fold hd) fun _ => hangle

/-- Scrubbing a printable text brings in nothing but spaces. -/
theorem mem_scrub {r : LabelRules} {t : Text} (ht : ∀ c ∈ t, isPrintable c = true) {c : Char}
    (h : c ∈ scrub r t) : c = ' ' ∨ c ∈ t := by
  rw [scrub_eq, fold_of_isPrintable ht] at h
  rcases mem_collapse h with rfl | h
  · exact Or.inl rfl
  · rcases List.mem_map.1 h with ⟨d, hd, rfl⟩
    rcases unban_eq r d with hu | hu
    · exact Or.inl hu
    · rw [hu]
      by_cases hm : r.banMarkup = true
      · rw [if_pos hm] at hd
        exact (mem_strip hd).2
      · rw [if_neg hm] at hd
        exact Or.inr hd

theorem isSpaced_scrub (r : LabelRules) (t : Text) : IsSpaced (scrub r t) := isSpaced_collapse _

/-- Scrubbing a text without angle brackets leaves no entity. -/
theorem not_hasEntity_scrub {r : LabelRules} (hr : r.banMarkup = true) {t : Text}
    (ht : ∀ c ∈ t, isPrintable c = true) (hangle : ∀ c ∈ t, isAngle c = false) :
    ¬ HasEntity (scrub r t) := by
  intro h
  rw [scrub_eq, fold_of_isPrintable ht, if_pos hr] at h
  exact not_hasEntity_strip hangle (hasEntity_of_map (unban_eq r) (hasEntity_of_collapse h))

/-- A spaced text of allowed characters without entities is not scrubbed. -/
theorem scrub_eq_self {r : LabelRules} {t : Text} (hallowed : ∀ c ∈ t, r.allows c = true)
    (hspaced : IsSpaced t) (hentity : r.banMarkup = true → ¬ HasEntity t) : scrub r t = t := by
  have hprint : ∀ c ∈ t, isPrintable c = true := fun c hc =>
    LabelRules.isPrintable_of_allows (hallowed c hc)
  -- Folding, stripping, banning and collapsing each leave the text alone.
  have hplain : (if r.banMarkup then strip t else t) = t := by
    by_cases hm : r.banMarkup = true
    · rw [if_pos hm, strip_eq_self_iff fun c hc =>
        LabelRules.not_isAngle_of_allows hm (hallowed c hc)]
      exact hentity hm
    · rw [if_neg hm]
  have hmap : t.map (unban r) = t := map_eq_self_iff.2 fun c hc => unban_of_allows (hallowed c hc)
  rw [scrub_eq, fold_of_isPrintable hprint, hplain, hmap, collapse_of_isSpaced hspaced]

theorem cut_isPrefix (n : Nat) (t : Text) : cut n t <+: t :=
  (dropEndWhile_isPrefix isBlank (t.take n)).trans (List.take_prefix n t)

theorem length_cut_le (n : Nat) (t : Text) : (cut n t).length ≤ n :=
  (dropEndWhile_isPrefix isBlank (t.take n)).length_le.trans (List.length_take_le n t)

/-- A beginning of a spaced text is cut off in a way that keeps it spaced. -/
theorem isSpaced_cut {t : Text} (h : IsSpaced t) (n : Nat) : IsSpaced (cut n t) := by
  refine h.of_isInfix (cut_isPrefix n t).isInfix (fun c hc => h.head c ?_) fun c hc =>
    of_getLast?_dropEndWhile hc
  rcases cut_isPrefix n t with ⟨u, hu⟩
  rw [← hu]
  -- The cut is at the end, so the first character is the same if there is one.
  rcases hcut : cut n t with _ | ⟨d, s⟩
  · rw [hcut] at hc
    exact absurd hc (by simp only [List.head?_nil, reduceCtorEq, not_false_eq_true])
  · rw [hcut] at hc
    exact hc

theorem cut_eq_self {n : Nat} {t : Text} (hshort : t.length ≤ n) (h : IsSpaced t) :
    cut n t = t := by
  rw [cut, List.take_of_length_le hshort, trimEnd, dropEndWhile_eq_self h.last]

/-! ### Clean labels -/

/-- A label that follows its rules. -/
structure IsClean (r : LabelRules) (t : Text) : Prop where
  allowed : ∀ c ∈ t, r.allows c = true
  spaced : IsSpaced t
  short : t.length ≤ r.maxLength

/-- Cleaning makes a label clean. -/
theorem isClean_clean (r : LabelRules) (t : Text) : IsClean r (clean r t) where
  allowed _ hc := allows_of_mem_scrub ((cut_isPrefix _ _).mem hc)
  spaced := isSpaced_cut (isSpaced_scrub r t) _
  short := length_cut_le _ _

theorem IsClean.isPrintable {r : LabelRules} {t : Text} (h : IsClean r t) :
    ∀ c ∈ t, isPrintable c = true :=
  fun c hc => LabelRules.isPrintable_of_allows (h.allowed c hc)

theorem IsClean.not_isAngle {r : LabelRules} (hr : r.banMarkup = true) {t : Text}
    (h : IsClean r t) : ∀ c ∈ t, isAngle c = false :=
  fun c hc => LabelRules.not_isAngle_of_allows hr (h.allowed c hc)

/-- Cleaning a printable text brings in nothing but spaces. -/
theorem mem_clean {r : LabelRules} {t : Text} (ht : ∀ c ∈ t, isPrintable c = true) {c : Char}
    (h : c ∈ clean r t) : c = ' ' ∨ c ∈ t :=
  mem_scrub ht ((cut_isPrefix _ _).mem h)

/-- Cleaning a printable text without angle brackets leaves no entity. -/
theorem not_hasEntity_clean {r : LabelRules} (hr : r.banMarkup = true) {t : Text}
    (ht : ∀ c ∈ t, isPrintable c = true) (hangle : ∀ c ∈ t, isAngle c = false) :
    ¬ HasEntity (clean r t) :=
  fun h => not_hasEntity_scrub hr ht hangle (h.of_isInfix (cut_isPrefix _ _).isInfix)

/-- A clean label without entities is not changed by cleaning. -/
theorem clean_eq_self {r : LabelRules} {t : Text} (h : IsClean r t)
    (hentity : r.banMarkup = true → ¬ HasEntity t) : clean r t = t := by
  rw [clean, scrub_eq_self h.allowed h.spaced hentity, cut_eq_self h.short h.spaced]

/-- An entity is the one thing that cleaning still changes in a clean label. -/
theorem clean_eq_self_iff {r : LabelRules} {t : Text} (h : IsClean r t) :
    clean r t = t ↔ (r.banMarkup = true → ¬ HasEntity t) := by
  refine ⟨fun heq hr => ?_, clean_eq_self h⟩
  rw [← heq]
  exact not_hasEntity_clean hr h.isPrintable (h.not_isAngle hr)

theorem clean_strict_eq_self_iff {t : Text} (h : IsClean .strict t) :
    clean .strict t = t ↔ ¬ HasEntity t :=
  (clean_eq_self_iff h).trans ⟨fun hentity => hentity rfl, fun hentity _ => hentity⟩

end Label

end Flowchart
