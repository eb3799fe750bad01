import Flowchart.Label.Basic
import Flowchart.Proofs.Pieces

/-!
# Spacing

Labels are drawn with single spaces between their words. `collapse` makes them
so, and this is what it leaves: a text without a blank at either end, without
two blanks in a row, and without any blank but the space.

The predicate is stated on the characters and not as a join of words, since
that is how a reader of the label sees it and since it passes to any piece of
the text that does not start or end in a space. `collapse_eq_self_iff` says
that it is exactly the texts that `collapse` leaves alone.

## Main definitions

* `Text.IsSpaced`: Single spaces between words and no other blanks.

## Theorems

* `Text.IsSpaced.of_isInfix`: Spacing passes to a piece with proper ends.
* `Text.isSpaced_join`: Words joined by spaces are spaced.
* `Text.collapse_of_isSpaced`: A spaced text is not changed by collapsing.
* `Label.collapse_eq_self_iff`: Collapsing changes exactly the other texts.
* `Label.isInfix_of_collapse`: A word inside a collapsed text was there before.
-/

namespace Flowchart

namespace Text

/-- No blank at either end, no two together, and the space the only one. -/
structure IsSpaced (t : Text) : Prop where
  onlySpaces : ∀ c ∈ t, isBlank c = true → c = ' '
  head : ∀ c, t.head? = some c → isBlank c = false
  last : ∀ c, t.getLast? = some c → isBlank c = false
  single : ¬ [' ', ' '] <:+: t

theorem isSpaced_nil : IsSpaced [] where
  onlySpaces := by simp
  head := by simp
  last := by simp
  single := by simp

/-- A word is spaced, having no blank at all. -/
theorem IsWord.isSpaced {w : Text} (h : IsWord w) : IsSpaced w where
  onlySpaces c hc hb := by simp [h.2 c hc] at hb
  head c hc := h.2 c (List.mem_of_mem_head? hc)
  last c hc := h.2 c (List.mem_of_mem_getLast? hc)
  single hin := by simpa using h.2 ' ' (hin.mem List.mem_cons_self)

/-- Spacing passes to any piece that does not start or end in a blank. -/
theorem IsSpaced.of_isInfix {s t : Text} (h : IsSpaced t) (hin : s <:+: t)
    (hhead : ∀ c, s.head? = some c → isBlank c = false)
    (hlast : ∀ c, s.getLast? = some c → isBlank c = false) : IsSpaced s where
  onlySpaces c hc := h.onlySpaces c (hin.mem hc)
  head := hhead
  last := hlast
  single hs := h.single (hs.trans hin)

/-- A text that starts or ends in a character of its own leaves no room for two
    spaces across the seam of a single one. -/
theorem not_isInfix_seam {w t : Text} (hw : ' ' ∉ w) (ht : ¬ [' ', ' '] <:+: t)
    (hhead : t.head? ≠ some ' ') : ¬ [' ', ' '] <:+: w ++ ' ' :: t := by
  induction w with
  | nil =>
    rw [List.nil_append, List.infix_cons_iff]
    rintro (hp | hp)
    · rw [List.cons_prefix_cons] at hp
      -- Two spaces at the seam would make a space of the first character behind it.
      rcases t with _ | ⟨c, t⟩
      · simp at hp
      · simp only [List.cons_prefix_cons, true_and] at hp
        exact hhead (by rw [← hp.1]; rfl)
    · exact ht hp
  | cons c w ih =>
    rw [List.cons_append, List.infix_cons_iff]
    rintro (hp | hp)
    · rw [List.cons_prefix_cons] at hp
      exact hw (hp.1 ▸ List.mem_cons_self)
    · exact ih (fun hm => hw (List.mem_cons_of_mem c hm)) hp

/-- A word, a space and a spaced text that is not empty are spaced. -/
theorem IsWord.isSpaced_append {w t : Text} (hw : IsWord w) (ht : IsSpaced t) (hne : t ≠ []) :
    IsSpaced (w ++ ' ' :: t) where
  onlySpaces c hc hb := by
    rcases List.mem_append.1 hc with hc | hc
    · simp [hw.2 c hc] at hb
    · rcases List.mem_cons.1 hc with rfl | hc
      · rfl
      · exact ht.onlySpaces c hc hb
  head c hc := by
    rw [List.head?_append_of_ne_nil _ hw.1] at hc
    exact hw.2 c (List.mem_of_mem_head? hc)
  last c hc := by
    rw [List.getLast?_append_of_ne_nil _ (List.cons_ne_nil ' ' t), List.getLast?_cons_of_ne_nil hne]
      at hc
    exact ht.last c hc
  single := by
    have hspace : ' ' ∉ w := fun hm => by simpa using hw.2 ' ' hm
    refine not_isInfix_seam hspace ht.single fun hs => ?_
    simpa using ht.head ' ' hs

/-- Words joined by single spaces are spaced. -/
theorem isSpaced_join {ws : List Text} (h : ∀ w ∈ ws, IsWord w) : IsSpaced (join [' '] ws) := by
  induction ws with
  | nil => exact isSpaced_nil
  | cons w ws ih =>
    have hw := h w List.mem_cons_self
    rcases ws with _ | ⟨v, ws⟩
    · rw [join_singleton]
      exact hw.isSpaced
    · have hv : v ≠ [] := (h v (by simp)).1
      have hrest := ih fun u hu => h u (List.mem_cons_of_mem w hu)
      rw [join_cons_cons, List.append_assoc, List.singleton_append]
      refine hw.isSpaced_append hrest fun hnil => ?_
      -- The rest begins with a word, so it is not empty.
      rcases ws with _ | ⟨u, ws⟩
      · exact hv (by rwa [join_singleton] at hnil)
      · rw [join_cons_cons, List.append_assoc, List.append_eq_nil_iff] at hnil
        exact hv hnil.1

/-- A spaced text is its first word, or that word, a space and a spaced text. -/
theorem IsSpaced.eq_word_append {t : Text} (h : IsSpaced t) (hne : t ≠ []) :
    ∃ w, IsWord w ∧ (t = w ∨ ∃ r, t = w ++ ' ' :: r ∧ IsSpaced r ∧ r ≠ []) := by
  have hsplit : t.takeWhile (!isBlank ·) ++ t.dropWhile (!isBlank ·) = t :=
    List.takeWhile_append_dropWhile
  have hword : IsWord (t.takeWhile (!isBlank ·)) := by
    refine ⟨fun hnil => ?_, fun c hc => by simpa using List.mem_takeWhile_imp hc⟩
    rcases t with _ | ⟨c, t⟩
    · exact hne rfl
    · rw [List.takeWhile_cons_of_pos (by simp [h.head c rfl])] at hnil
      exact List.cons_ne_nil _ _ hnil
  refine ⟨_, hword, ?_⟩
  rcases hr : t.dropWhile (!isBlank ·) with _ | ⟨c, r⟩
  · left
    rw [hr, List.append_nil] at hsplit
    exact hsplit.symm
  · right
    rw [hr] at hsplit
    -- What stopped the first word is a blank, and the only blank is the space.
    have hblank : isBlank c = true := by
      have := of_head?_dropWhile (p := (!isBlank ·)) (t := t) (c := c) (by rw [hr]; rfl)
      simpa using this
    have hc : c = ' ' := h.onlySpaces c (hsplit ▸ by simp) hblank
    subst hc
    have hsuffix : ' ' :: r <:+: t := hsplit ▸ List.infix_append_of_infix_right
      (List.infix_refl _)
    have hrne : r ≠ [] := by
      rintro rfl
      have := h.last ' ' (by rw [← hsplit]; simp)
      simp at this
    refine ⟨r, hsplit.symm, h.of_isInfix ((List.suffix_cons ' ' r).isInfix.trans hsuffix) ?_ ?_,
      hrne⟩
    · intro d hd
      by_contra hb
      have hdb : isBlank d = true := by simpa using hb
      have hdr : d ∈ r := List.mem_of_mem_head? hd
      have hds := h.onlySpaces d (hsuffix.mem (List.mem_cons_of_mem ' ' hdr)) hdb
      subst hds
      -- Two spaces would stand together.
      rcases r with _ | ⟨e, r⟩
      · exact hrne rfl
      · simp only [List.head?_cons, Option.some.injEq] at hd
        subst hd
        exact h.single (List.IsInfix.trans ⟨[], r, rfl⟩ hsuffix)
    · intro d hd
      refine h.last d ?_
      rw [← hsplit, List.getLast?_append_of_ne_nil _ (List.cons_ne_nil ' ' r),
        List.getLast?_cons_of_ne_nil hrne]
      exact hd

end Text

namespace Label

open Text

/-- What collapsing leaves is spaced. -/
theorem isSpaced_collapse (t : Text) : IsSpaced (collapse t) :=
  isSpaced_join fun _ hw => isWord_of_mem_words hw

/-- A spaced text is not changed by collapsing. -/
theorem collapse_of_isSpaced {t : Text} (h : IsSpaced t) : collapse t = t := by
  induction hn : t.length using Nat.strong_induction_on generalizing t with
  | _ n ih =>
    by_cases hne : t = []
    · subst hne
      decide
    · rcases h.eq_word_append hne with ⟨w, hw, rfl | ⟨r, rfl, hr, hrne⟩⟩
      · rw [collapse, words_of_isWord hw, join_singleton]
      · -- The rest behind the first word is shorter, and spaced as well.
        have hlt : r.length < n := by
          rw [← hn, List.length_append, List.length_cons]
          omega
        have hrest : join [' '] (words r) = r := ih r.length hlt hr rfl
        rw [collapse, words_append_blank (by decide), words_of_isWord hw, List.singleton_append]
        rcases hws : words r with _ | ⟨v, ws⟩
        · rw [hws, join_nil] at hrest
          exact absurd hrest.symm hrne
        · rw [join_cons_cons, ← hws, hrest, List.append_assoc, List.singleton_append]

/-- Collapsing changes exactly the texts that are not spaced. -/
theorem collapse_eq_self_iff {t : Text} : collapse t = t ↔ IsSpaced t :=
  ⟨fun h => h ▸ isSpaced_collapse t, collapse_of_isSpaced⟩

/-- A character of a collapsed text is the space or one of the text. -/
theorem mem_collapse {t : Text} {c : Char} (h : c ∈ collapse t) : c = ' ' ∨ c ∈ t := by
  rcases mem_join h with h | ⟨w, hw, hc⟩
  · exact Or.inl (List.mem_singleton.1 h)
  · exact Or.inr ((isInfix_of_mem_words hw).mem hc)

/-- What stands in a collapsed text and has no space stood in the text. -/
theorem isInfix_of_collapse {x t : Text} (hx : ' ' ∉ x) (hne : x ≠ []) (h : x <:+: collapse t) :
    x <:+: t := by
  rcases isInfix_of_join hx hne h with ⟨w, hw, hin⟩
  exact hin.trans (isInfix_of_mem_words hw)

end Label

end Flowchart
