import Flowchart.Proofs.EdgeLabel

/-!
# Clean Labels in Characters

What cleaning promises, as a reader of the label can check it, and what becomes of a
label that is cleaned again.

`IsClean` and `IsEdgeClean` speak of the classes of characters that the passes work
with. Here the same is said with the characters themselves: which stand in a label,
which stand at its ends, which never stand side by side. In a printable text the space
is the only blank, so all that `IsSpaced` says of blanks comes down to the space.

Cleaning takes entities out first and drops stray angle brackets afterwards, and the
brackets may have kept the parts of an entity apart. So a clean label can hold an
entity, and then cleaning it again changes it. That is the only way: no bracket is
left for a tag, every other pass leaves a clean label alone, and after the second
cleaning there is nothing more to take out. An entity that is found in a clean label
can be traced to the text from which the passes had taken the markup, where it stood
with an angle bracket in it.

## Main definitions

* `Label.Follows`: The rules of labels, character by character.
* `Label.EdgeFollows`: The rules of edge labels.
* `Markup.HasTag`: A tag stands in a text.

## Theorems

* `Label.isClean_iff_follows`: Clean labels are those that follow the rules.
* `Label.isEdgeClean_iff_edgeFollows`: The same for edge labels.
* `Label.follows_clean`: Cleaning makes labels follow the rules.
* `Markup.exists_of_hasEntity_strip`: Where an entity that is left comes from.
* `Label.clean_clean_eq_iff`: What cleaning does to a clean label.
* `Label.clean_clean_ne`: A label that is changed by cleaning it again.
-/

namespace Flowchart

namespace Label

open Text Markup

/-! ### The rules in characters -/

/-- A label that follows its rules, as they are read off its characters. -/
structure Follows (r : LabelRules) (t : Text) : Prop where
  printable : ∀ c ∈ t, ' ' ≤ c ∧ c ≤ '~'
  short : t.length ≤ r.maxLength
  head : t.head? ≠ some ' '
  last : t.getLast? ≠ some ' '
  single : ¬ [' ', ' '] <:+: t
  quotes : r.banQuotes = true → ∀ c ∈ ['"', '\'', '\x60'], c ∉ t
  brackets : r.banBrackets = true → ∀ c ∈ "[]\x7b\x7d()<>".toList, c ∉ t
  angles : r.banMarkup = true → '<' ∉ t ∧ '>' ∉ t

/-- An edge label that follows the rules of edges. -/
structure EdgeFollows (t : Text) : Prop where
  strict : Follows { LabelRules.strict with maxLength := 30 } t
  noBar : '|' ∉ t
  noDashes : ¬ "--".toList <:+: t
  head : t.head? ≠ some '-'
  last : t.getLast? ≠ some '-'

theorem isPrintable_iff {c : Char} : isPrintable c = true ↔ ' ' ≤ c ∧ c ≤ '~' := by
  rw [isPrintable, Bool.and_eq_true, decide_eq_true_eq, decide_eq_true_eq]

theorem isQuote_iff {c : Char} : isQuote c = true ↔ c ∈ ['"', '\'', '\x60'] := by
  simp only [isQuote, Bool.or_eq_true, beq_iff_eq, List.mem_cons, List.not_mem_nil, or_false,
    or_assoc]

theorem isBracket_iff {c : Char} : isBracket c = true ↔ c ∈ "[]\x7b\x7d()<>".toList := by
  have hlist : "[]\x7b\x7d()<>".toList = ['[', ']', '\x7b', '\x7d', '(', ')', '<', '>'] := rfl
  simp only [hlist, isBracket, Bool.or_eq_true, beq_iff_eq, List.mem_cons, List.not_mem_nil,
    or_false, or_assoc]

theorem isAngle_iff {c : Char} : isAngle c = true ↔ c = '<' ∨ c = '>' := by
  rw [isAngle, Bool.or_eq_true, beq_iff_eq, beq_iff_eq]

/-- In a printable text the space is all that spacing is about. -/
theorem isSpaced_iff {t : Text} (ht : ∀ c ∈ t, isPrintable c = true) :
    IsSpaced t ↔ t.head? ≠ some ' ' ∧ t.getLast? ≠ some ' ' ∧ ¬ [' ', ' '] <:+: t := by
  -- The only printable blank is the space.
  have hblank : ∀ c ∈ t, isBlank c = true → c = ' ' := fun c hc => eq_space_of_isBlank (ht c hc)
  have hproper : ∀ c ∈ t, c ≠ ' ' → isBlank c = false := fun c hc hne =>
    Bool.eq_false_iff.2 fun hb => hne (hblank c hc hb)
  constructor
  · intro h
    refine ⟨fun hc => ?_, fun hc => ?_, h.single⟩
    · exact absurd (h.head ' ' hc) (by decide)
    · exact absurd (h.last ' ' hc) (by decide)
  · rintro ⟨hhead, hlast, hsingle⟩
    refine ⟨hblank, fun c hc => ?_, fun c hc => ?_, hsingle⟩
    · exact hproper c (List.mem_of_mem_head? hc) fun heq => hhead (heq ▸ hc)
    · exact hproper c (List.mem_of_mem_getLast? hc) fun heq => hlast (heq ▸ hc)

/-- A character is allowed if it is printable and in no class that is banned. -/
theorem allows_iff {r : LabelRules} {c : Char} :
    r.allows c = true ↔ isPrintable c = true ∧ (r.banMarkup = true → isAngle c = false) ∧
      (r.banQuotes = true → isQuote c = false) ∧ (r.banBrackets = true → isBracket c = false) := by
  simp only [LabelRules.allows, Bool.and_eq_true, Bool.not_eq_true', Bool.and_eq_false_imp,
    and_assoc]

/-- A label is clean exactly if its characters follow the rules. -/
theorem isClean_iff_follows {r : LabelRules} {t : Text} : IsClean r t ↔ Follows r t := by
  constructor
  · intro h
    rcases (isSpaced_iff h.isPrintable).1 h.spaced with ⟨hhead, hlast, hsingle⟩
    exact {
      printable := fun c hc => isPrintable_iff.1 (h.isPrintable c hc)
      short := h.short
      head := hhead
      last := hlast
      single := hsingle
      quotes := fun hr c hc hmem => by
        have hnot := LabelRules.not_isQuote_of_allows hr (h.allowed c hmem)
        exact Bool.eq_false_iff.1 hnot (isQuote_iff.2 hc)
      brackets := fun hr c hc hmem => by
        have hnot := LabelRules.not_isBracket_of_allows hr (h.allowed c hmem)
        exact Bool.eq_false_iff.1 hnot (isBracket_iff.2 hc)
      angles := fun hr =>
        ⟨fun hmem => absurd (h.not_isAngle hr '<' hmem) (by decide),
          fun hmem => absurd (h.not_isAngle hr '>' hmem) (by decide)⟩ }
  · intro h
    -- What is not banned by one of the rules is allowed, since it is printable.
    have hprint : ∀ c ∈ t, isPrintable c = true := fun c hc => isPrintable_iff.2 (h.printable c hc)
    refine ⟨fun c hc => allows_iff.2 ⟨hprint c hc, fun hr => ?_, fun hr => ?_, fun hr => ?_⟩,
      (isSpaced_iff hprint).2 ⟨h.head, h.last, h.single⟩, h.short⟩
    · refine Bool.eq_false_iff.2 fun hangle => ?_
      rcases isAngle_iff.1 hangle with rfl | rfl
      · exact (h.angles hr).1 hc
      · exact (h.angles hr).2 hc
    · exact Bool.eq_false_iff.2 fun hquote => h.quotes hr c (isQuote_iff.1 hquote) hc
    · exact Bool.eq_false_iff.2 fun hbracket => h.brackets hr c (isBracket_iff.1 hbracket) hc

theorem isEdgeMargin_iff {c : Char} : isEdgeMargin c = true ↔ c = '-' ∨ c = ' ' := by
  rw [isEdgeMargin, Bool.or_eq_true, beq_iff_eq, beq_iff_eq]

/-- An edge label is clean exactly if its characters follow the rules of edges. -/
theorem isEdgeClean_iff_edgeFollows {t : Text} : IsEdgeClean t ↔ EdgeFollows t := by
  constructor
  · intro h
    have hclean : IsClean { LabelRules.strict with maxLength := 30 } t :=
      ⟨h.allowed, h.spaced, h.short⟩
    exact ⟨isClean_iff_follows.1 hclean, h.noBar, h.singleDashes,
      fun hc => absurd (h.head '-' hc) (by decide), fun hc => absurd (h.last '-' hc) (by decide)⟩
  · intro h
    -- At either end neither a dash nor a blank may stand, and these make the margin.
    have hclean := isClean_iff_follows.2 h.strict
    refine ⟨hclean.allowed, h.noBar, hclean.spaced, h.noDashes, fun c hc => ?_, fun c hc => ?_,
      hclean.short⟩
    · refine Bool.eq_false_iff.2 fun hmargin => ?_
      rcases isEdgeMargin_iff.1 hmargin with rfl | rfl
      · exact h.head hc
      · exact h.strict.head hc
    · refine Bool.eq_false_iff.2 fun hmargin => ?_
      rcases isEdgeMargin_iff.1 hmargin with rfl | rfl
      · exact h.last hc
      · exact h.strict.last hc

/-- Whatever the text and the rules, what cleaning makes of it follows them, and a
    label that follows them and has no entity is left as it is. The same goes for edge
    labels. -/
theorem follows_clean :
    (∀ (r : LabelRules) (t : Text), Follows r (clean r t) ∧
      (Follows r t → (r.banMarkup = true → ¬ HasEntity t) → clean r t = t)) ∧
    ∀ t : Text, EdgeFollows (cleanEdge t) ∧
      (EdgeFollows t → ¬ HasEntity t → cleanEdge t = t) := by
  refine ⟨fun r t => ⟨?_, fun h hentity => ?_⟩, fun t => ⟨?_, fun h hentity => ?_⟩⟩
  · exact isClean_iff_follows.1 (isClean_clean r t)
  · exact clean_eq_self (isClean_iff_follows.2 h) hentity
  · exact isEdgeClean_iff_edgeFollows.1 (isEdgeClean_cleanEdge t)
  · exact cleanEdge_eq_self (isEdgeClean_iff_edgeFollows.2 h) hentity

end Label

namespace Markup

/-! ### What is left of markup -/

/-- A tag stands somewhere in the text: an angle bracket that opens and the next
    one, which closes it. -/
def HasTag (t : Text) : Prop :=
  ∃ body, (∀ c ∈ body, isAngle c = false) ∧ '<' :: body ++ ['>'] <:+: t

/-- What stands in a filtered text stood in the text with other characters in
    between. -/
theorem exists_of_isInfix_filter {p : Char → Bool} {x t : Text} (h : x <:+: t.filter p) :
    ∃ y, y <:+: t ∧ y.filter p = x := by
  rcases h with ⟨u, v, huv⟩
  rcases List.filter_eq_append_iff.1 huv.symm with ⟨s, back, rfl, hs, -⟩
  rcases List.filter_eq_append_iff.1 hs with ⟨front, y, rfl, -, hy⟩
  exact ⟨y, ⟨front, back, rfl⟩, hy⟩

/-- An entity that is left by stripping was brought together: when the passes were
    over it still had an angle bracket in it. -/
theorem exists_of_hasEntity_strip {t : Text} (h : HasEntity (strip t)) :
    ∃ piece, piece <:+: settle t ∧ (∃ c ∈ piece, isAngle c = true) ∧
      ∃ body, isEntityBody body = true ∧ piece.filter (!isAngle ·) = '&' :: body ++ [';'] := by
  rcases h with ⟨body, hbody, hin⟩
  rcases exists_of_isInfix_filter hin with ⟨piece, hpiece, hfilter⟩
  refine ⟨piece, hpiece, ?_, body, hbody, hfilter⟩
  by_contra hnone
  -- Without a bracket the passes would have found the entity.
  have hself : piece.filter (!isAngle ·) = piece := by
    refine List.filter_eq_self.2 fun c hc => ?_
    rw [Bool.not_eq_true', Bool.eq_false_iff]
    exact fun hangle => hnone ⟨c, hc, hangle⟩
  rw [hself] at hfilter
  exact not_hasEntity_of_pass (pass_settle t) ⟨body, hbody, hfilter ▸ hpiece⟩

end Markup

namespace Label

open Text Markup

/-! ### Cleaning again -/

/-- An entity in a clean label was there when the markup had been taken out. -/
theorem hasEntity_strip_of_clean {r : LabelRules} (hr : r.banMarkup = true) {t : Text}
    (h : HasEntity (clean r t)) : HasEntity (strip t.fold) := by
  have hscrub : HasEntity (scrub r t) := h.of_isInfix (cut_isPrefix _ _).isInfix
  rw [scrub_eq, if_pos hr] at hscrub
  exact hasEntity_of_map (unban_eq r) (hasEntity_of_collapse hscrub)

/-- A clean label has no angle bracket, and so no tag. -/
theorem not_hasTag_clean {r : LabelRules} (hr : r.banMarkup = true) (t : Text) :
    ¬ HasTag (clean r t) := by
  rintro ⟨body, -, hin⟩
  have hangle := (isClean_clean r t).not_isAngle hr '<' (hin.mem List.mem_cons_self)
  exact absurd hangle (by decide)

/-- A label that is cleaned again stays as it is exactly if no entity is left in it,
    and cleaned once more it stays as it is in any case. If markup is banned no tag is
    left, and an entity that is left had an angle bracket in it when the passes that
    take out markup were over. -/
theorem clean_clean_eq_iff (r : LabelRules) (t : Text) :
    (clean r (clean r t) = clean r t ↔ (r.banMarkup = true → ¬ HasEntity (clean r t))) ∧
    clean r (clean r (clean r t)) = clean r (clean r t) ∧
    (r.banMarkup = true → ¬ HasTag (clean r t)) ∧
    (r.banMarkup = true → HasEntity (clean r t) →
      ∃ piece, piece <:+: settle t.fold ∧ (∃ c ∈ piece, isAngle c = true) ∧
        ∃ body, isEntityBody body = true ∧ piece.filter (!isAngle ·) = '&' :: body ++ [';']) := by
  have hclean := isClean_clean r t
  refine ⟨clean_eq_self_iff hclean, ?_, fun hr => not_hasTag_clean hr t, fun hr hentity =>
    exists_of_hasEntity_strip (hasEntity_strip_of_clean hr hentity)⟩
  -- The second cleaning starts from a text without angle brackets.
  refine clean_eq_self (isClean_clean r _) fun hr => ?_
  exact not_hasEntity_clean hr hclean.isPrintable (hclean.not_isAngle hr)

/-- The entity that dropping an angle bracket brings together is taken out by the
    second cleaning. -/
theorem clean_clean_ne :
    clean .strict (clean .strict "&am<p;".toList) ≠ clean .strict "&am<p;".toList ∧
      HasEntity (clean .strict "&am<p;".toList) := by
  have honce : clean .strict "&am<p;".toList = "&amp;".toList := by decide +kernel
  have htwice : clean .strict "&amp;".toList = [] := by decide +kernel
  rw [honce, htwice]
  exact ⟨by decide, "amp".toList, by decide, List.infix_refl _⟩

end Label

end Flowchart
