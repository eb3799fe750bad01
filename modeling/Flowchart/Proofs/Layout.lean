import Flowchart.Proofs.Spacing
import Flowchart.Proofs.Wrap

/-!
# The Fewest Lines

Words are set on lines greedily, and no other way of setting them does with fewer
lines. So a text is cut short only if there is no room for it.

A way of setting words is a layout: the words divided among lines in their order,
where a line fits if it is within the width or has one word alone. Filling keeps to a
current line. As long as words fit there, nothing is decided. The word that does not
fit shows what any layout has to do with the words from there on: it cannot have that
word on its first line either, so it needs one line more than it needs for that word
and the words after it. That is `IsLayout.exists_shorter`, and it is all that the
induction along the words takes.

What has been said of words is then said of texts. The lines of a setting are read as
a layout of the words, and the lines that filling makes are read as a setting of the
text or, if words are left over, of a front of it with dots at the end.

The text is ASCII, because widths are counted in bytes.

## Main definitions

* `Wrap.IsLayout`: Words divided among lines.
* `Wrap.IsFilling`: Lines filled with the first of some words.
* `Text.IsSetting`: A text set on lines.
* `Text.IsCutShort`: A text set on lines that it has no room on.

## Theorems

* `Wrap.IsLayout.exists_shorter`: What a word that does not fit costs a layout.
* `Wrap.exists_fillFrom_eq`: Filling sets words on lines that they fit on.
* `Wrap.length_fillFrom_le`: No layout does with fewer lines.
* `Wrap.exists_fill_eq`: What filling makes of words.
* `Text.IsSetting.isLayout`: A setting of a text is a layout of its words.
* `Text.isSetting_or_isCutShort_wrap?`: What wrapping makes of a text.
-/

namespace Flowchart

namespace Text

/-! ### Sizes -/

/-- A piece of a text has no more bytes than the text. -/
theorem size_le_of_isInfix {s t : Text} (h : s <:+: t) : s.size ≤ t.size := by
  rcases h with ⟨u, v, rfl⟩
  rw [size_append, size_append]
  omega

/-- No character is without a byte. -/
theorem length_le_size (t : Text) : t.length ≤ t.size := by
  induction t with
  | nil => exact Nat.le_refl 0
  | cons c t ih =>
    have hpos : 0 < c.utf8Size := c.utf8Size_pos
    rw [List.length_cons, size_cons]
    omega

/-- In ASCII bytes are characters. -/
theorem size_of_isAscii {t : Text} (h : ∀ c ∈ t, isAsciiChar c = true) : t.size = t.length := by
  induction t with
  | nil => rfl
  | cons c t ih =>
    rw [size_cons, utf8Size_of_isAsciiChar (h c List.mem_cons_self),
      ih fun d hd => h d (List.mem_cons_of_mem c hd), List.length_cons, Nat.add_comm]

theorem size_join_append_le (s : Text) (ts us : List Text) :
    (join s (ts ++ us)).size ≤ (join s ts).size + s.size + (join s us).size := by
  by_cases ht : ts = []
  · rw [ht, List.nil_append]
    omega
  · by_cases hu : us = []
    · rw [hu, List.append_nil]
      omega
    · rw [join_append s ht hu, size_append, size_append]

/-- Collapsing makes no text longer. -/
theorem size_collapse_le (t : Text) : (Label.collapse t).size ≤ t.size := by
  -- On the length: a text with a blank falls apart into two shorter ones.
  induction hn : t.length using Nat.strong_induction_on generalizing t with
  | _ n ih =>
    by_cases hblank : ∃ c ∈ t, isBlank c = true
    · rcases hblank with ⟨c, hc, hblank⟩
      rcases List.append_of_mem hc with ⟨front, back, rfl⟩
      rw [List.length_append, List.length_cons] at hn
      have hfront := ih front.length (by omega) front rfl
      have hback := ih back.length (by omega) back rfl
      have hpos : 0 < c.utf8Size := c.utf8Size_pos
      have hjoin := size_join_append_le [' '] (words front) (words back)
      have hspace : size [' '] = 1 := rfl
      rw [Label.collapse] at hfront hback
      rw [Label.collapse, words_append_blank hblank, size_append, size_cons]
      omega
    · have hletters : ∀ c ∈ t, isBlank c = false := by simpa using hblank
      by_cases hne : t = []
      · rw [hne]
        decide
      · rw [Label.collapse, words_of_isWord ⟨hne, hletters⟩, join_singleton]

end Text

namespace Wrap

open Text

/-! ### Layouts -/

/-- Words on a line fit if the line does, or if there is but one of them. -/
def Fits (width : Nat) (l : List Text) : Prop := (join [' '] l).size ≤ width ∨ l.length ≤ 1

/-- Words divided among lines in their order, so that those of every line fit. -/
structure IsLayout (width : Nat) (words : List Text) (lines : List (List Text)) : Prop where
  flatten : lines.flatten = words
  fits : ∀ l ∈ lines, Fits width l

variable {width : Nat}

/-- Of words that fit any that stand together do. -/
theorem Fits.of_append {us ws : List Text} (h : Fits width (us ++ ws)) :
    Fits width us ∧ Fits width ws := by
  rcases h with h | h
  · exact ⟨Or.inl ((size_le_of_isInfix (join_isPrefix _ us ws).isInfix).trans h),
      Or.inl ((size_le_of_isInfix (join_isSuffix _ us ws).isInfix).trans h)⟩
  · rw [List.length_append] at h
    exact ⟨Or.inr (by omega), Or.inr (by omega)⟩

/-- Two words or more fit if there is room for the last of them. -/
theorem fits_concat {us : List Text} (hne : us ≠ []) {w : Text} :
    Fits width (us ++ [w]) ↔ (join [' '] us).size + 1 + w.size ≤ width := by
  have hpos := List.length_pos_iff.2 hne
  have hsize : (join [' '] (us ++ [w])).size = (join [' '] us).size + 1 + w.size := by
    rw [join_append _ hne (List.cons_ne_nil w []), join_singleton, size_append, size_append]
    rfl
  rw [Fits, hsize, List.length_append, List.length_singleton]
  omega

/-- Words need a line. -/
theorem IsLayout.length_pos {ws : List Text} {ls : List (List Text)} (h : IsLayout width ws ls)
    (hne : ws ≠ []) : 0 < ls.length := by
  rw [List.length_pos_iff]
  rintro rfl
  exact hne h.flatten.symm

/-- Words that are taken away at the front leave a layout of the others, on no
    more lines. -/
theorem IsLayout.of_append {us ws : List Text} {ls : List (List Text)}
    (h : IsLayout width (us ++ ws) ls) : ∃ ls', IsLayout width ws ls' ∧ ls'.length ≤ ls.length := by
  induction ls generalizing us with
  | nil =>
    have hnil := (List.append_eq_nil_iff.1 h.flatten.symm).2
    exact ⟨[], ⟨hnil.symm, fun l hl => absurd hl List.not_mem_nil⟩, Nat.le_refl 0⟩
  | cons l ls ih =>
    have hrest : ∀ m ∈ ls, Fits width m := fun m hm => h.fits m (List.mem_cons_of_mem l hm)
    have hflatten := h.flatten
    rw [List.flatten_cons] at hflatten
    rcases List.append_eq_append_iff.1 hflatten with ⟨vs, hus, hws⟩ | ⟨vs, hl, hws⟩
    · -- The first line is taken away as a whole.
      have hls : IsLayout width (vs ++ ws) ls := ⟨hws, hrest⟩
      rcases ih hls with ⟨ls', hls', hlength⟩
      exact ⟨ls', hls', hlength.trans (Nat.le_succ _)⟩
    · refine ⟨vs :: ls, ⟨hws.symm, fun m hm => ?_⟩, Nat.le_refl _⟩
      rcases List.mem_cons.1 hm with rfl | hm
      · exact (Fits.of_append (hl ▸ h.fits l List.mem_cons_self)).2
      · exact hrest m hm

/-- A word that does not fit on the first line starts a later one, so that the
    first line is spent on the words before it. -/
theorem IsLayout.exists_shorter {us ws : List Text} {w : Text} {ls : List (List Text)}
    (h : IsLayout width (us ++ w :: ws) ls) (hw : ¬ Fits width (us ++ [w])) :
    ∃ ls', IsLayout width (w :: ws) ls' ∧ ls'.length + 1 ≤ ls.length := by
  rcases ls with _ | ⟨l, ls⟩
  · exact absurd (List.append_eq_nil_iff.1 h.flatten.symm).2 (List.cons_ne_nil w ws)
  · have hrest : ∀ m ∈ ls, Fits width m := fun m hm => h.fits m (List.mem_cons_of_mem l hm)
    have hflatten := h.flatten
    rw [List.flatten_cons] at hflatten
    rcases List.append_eq_append_iff.1 hflatten with ⟨vs, -, hws⟩ | ⟨vs, hl, hws⟩
    · have hls : IsLayout width (vs ++ w :: ws) ls := ⟨hws, hrest⟩
      rcases hls.of_append with ⟨ls', hls', hlength⟩
      exact ⟨ls', hls', Nat.succ_le_succ hlength⟩
    · rcases vs with _ | ⟨v, vs⟩
      · -- The first line has exactly the words before.
        exact ⟨ls, ⟨hws.symm, hrest⟩, Nat.le_refl _⟩
      · -- The word would be on the first line, where it does not fit.
        rw [List.cons_append, List.cons.injEq] at hws
        have hline : Fits width (us ++ [w] ++ vs) := by
          rw [List.append_assoc, List.singleton_append, hws.1, ← hl]
          exact h.fits l List.mem_cons_self
        exact absurd hline.of_append.1 hw

/-! ### Filling -/

theorem fillFrom_nil (current : Text) (more : Nat) :
    fillFrom width current more [] = ([current], false) := by
  rw [fillFrom.eq_def]

/-- A word that fits goes on the current line. -/
theorem fillFrom_of_fits {us : List Text} (hne : us ≠ []) {w : Text}
    (hw : Fits width (us ++ [w])) (more : Nat) (ws : List Text) :
    fillFrom width (join [' '] us) more (w :: ws)
      = fillFrom width (join [' '] (us ++ [w])) more ws := by
  rw [fillFrom.eq_def]
  dsimp only
  rw [if_pos ((fits_concat hne).1 hw), join_append _ hne (List.cons_ne_nil w []),
    join_singleton, List.append_assoc, List.singleton_append]

/-- There is no line for a word that does not fit. -/
theorem fillFrom_zero {us : List Text} (hne : us ≠ []) {w : Text}
    (hw : ¬ Fits width (us ++ [w])) (ws : List Text) :
    fillFrom width (join [' '] us) 0 (w :: ws) = ([join [' '] us], true) := by
  rw [fillFrom.eq_def]
  dsimp only
  rw [if_neg (mt (fits_concat hne).2 hw)]

/-- A word that does not fit starts a line. -/
theorem fillFrom_succ {us : List Text} (hne : us ≠ []) {w : Text}
    (hw : ¬ Fits width (us ++ [w])) (more : Nat) (ws : List Text) :
    fillFrom width (join [' '] us) (more + 1) (w :: ws)
      = (join [' '] us :: (fillFrom width (join [' '] [w]) more ws).1,
          (fillFrom width (join [' '] [w]) more ws).2) := by
  rw [fillFrom, if_neg (mt (fits_concat hne).2 hw), join_singleton]

/-- Lines filled with the first of some words, at most so many lines. Words are
    left over only if all of the lines are used. -/
structure IsFilling (width maxLines : Nat) (words : List Text) (lines : List (List Text))
    (cut : Bool) : Prop where
  front : lines.flatten <+: words
  each : ∀ l ∈ lines, l ≠ [] ∧ Fits width l
  length_le : lines.length ≤ maxLines
  whole : cut = false → lines.flatten = words
  full : cut = true → lines.length = maxLines

/-- One line before the others. -/
theorem IsFilling.cons {maxLines : Nat} {us ws : List Text} {lines : List (List Text)} {cut : Bool}
    (h : IsFilling width maxLines ws lines cut) (hne : us ≠ []) (hfits : Fits width us) :
    IsFilling width (maxLines + 1) (us ++ ws) (us :: lines) cut where
  front := by
    rw [List.flatten_cons]
    exact (List.prefix_append_right_inj us).2 h.front
  each l hl := by
    rcases List.mem_cons.1 hl with rfl | hl
    · exact ⟨hne, hfits⟩
    · exact h.each l hl
  length_le := Nat.succ_le_succ h.length_le
  whole hcut := by rw [List.flatten_cons, h.whole hcut]
  full hcut := by rw [List.length_cons, h.full hcut]

/-- Read one after the other, the lines are the front of the words. -/
theorem IsFilling.join_isPrefix {maxLines : Nat} {words : List Text} {lines : List (List Text)}
    {cut : Bool} (h : IsFilling width maxLines words lines cut) :
    join [' '] (lines.map (join [' '])) <+: join [' '] words := by
  rcases h.front with ⟨left, rfl⟩
  rw [join_map_join _ fun l hl => (h.each l hl).1]
  exact Text.join_isPrefix _ _ _

/-- Filling sets the first of the words on lines. -/
theorem exists_fillFrom_eq {us : List Text} (hne : us ≠ []) (hfits : Fits width us) (more : Nat)
    (ws : List Text) :
    ∃ lines cut, fillFrom width (join [' '] us) more ws = (lines.map (join [' ']), cut) ∧
      IsFilling width (more + 1) (us ++ ws) lines cut := by
  induction ws generalizing us more with
  | nil =>
    refine ⟨[us], false, fillFrom_nil _ more, ?_,
      List.forall_mem_singleton.2 ⟨hne, hfits⟩, ?_, fun _ => ?_, fun h => ?_⟩
    · rw [List.flatten_singleton]
      exact List.prefix_append us []
    · exact Nat.succ_le_succ (Nat.zero_le more)
    · rw [List.flatten_singleton, List.append_nil]
    · exact absurd h (by decide)
  | cons w ws ih =>
    -- A word goes on the line while it fits. If it does not, it begins a new line,
    -- unless there is none left.
    by_cases hw : Fits width (us ++ [w])
    · have hconcat : us ++ [w] ≠ [] := List.append_ne_nil_of_right_ne_nil _ (List.cons_ne_nil _ _)
      rcases ih hconcat hw more with ⟨lines, cut, heq, hfilling⟩
      rw [List.append_assoc, List.singleton_append] at hfilling
      exact ⟨lines, cut, by rw [fillFrom_of_fits hne hw, heq], hfilling⟩
    · rcases more with _ | more
      · refine ⟨[us], true, fillFrom_zero hne hw ws, ?_,
          List.forall_mem_singleton.2 ⟨hne, hfits⟩, Nat.le_refl 1, fun h => ?_, fun _ => rfl⟩
        · rw [List.flatten_singleton]
          exact List.prefix_append us _
        · exact absurd h (by decide)
      · have hword : Fits width [w] := Or.inr (Nat.le_refl 1)
        rcases ih (List.cons_ne_nil w []) hword more with ⟨lines, cut, heq, hfilling⟩
        refine ⟨us :: lines, cut, ?_, hfilling.cons hne hfits⟩
        rw [fillFrom_succ hne hw, heq, List.map_cons]

/-- No layout does with fewer lines than filling, and if words are left over none
    does with as many: wherever a layout ends its first line, filling ends it there
    or later. -/
theorem length_fillFrom_le {us : List Text} (hne : us ≠ []) (more : Nat) {ws : List Text}
    {ls : List (List Text)} (h : IsLayout width (us ++ ws) ls) :
    (fillFrom width (join [' '] us) more ws).1.length ≤ ls.length ∧
      ((fillFrom width (join [' '] us) more ws).2 = true →
        (fillFrom width (join [' '] us) more ws).1.length < ls.length) := by
  induction ws generalizing us more ls with
  | nil =>
    rw [fillFrom_nil]
    refine ⟨h.length_pos (List.append_ne_nil_of_left_ne_nil hne []), fun hcut => ?_⟩
    exact absurd hcut Bool.false_ne_true
  | cons w ws ih =>
    by_cases hw : Fits width (us ++ [w])
    · -- Nothing is decided yet: the word joins those on the current line.
      rw [fillFrom_of_fits hne hw]
      refine ih (List.append_ne_nil_of_right_ne_nil _ (List.cons_ne_nil _ _)) more ?_
      rwa [List.append_assoc, List.singleton_append]
    · -- A line has been spent on the current words, by the layout too.
      rcases h.exists_shorter hw with ⟨rest, hrest, hlength⟩
      rcases more with _ | more
      · have hpos := hrest.length_pos (List.cons_ne_nil w ws)
        rw [fillFrom_zero hne hw, List.length_singleton]
        omega
      · rcases ih (List.cons_ne_nil w []) more hrest with ⟨hle, hlt⟩
        rw [fillFrom_succ hne hw, List.length_cons]
        exact ⟨by omega, fun hcut => (Nat.succ_lt_succ (hlt hcut)).trans_le hlength⟩

/-- Filling sets the first of some words on as few lines as there can be, and if
    words are left over there is no layout with so many. -/
theorem exists_fill_eq (width : Nat) {maxLines : Nat} (hpos : 0 < maxLines) (words : List Text) :
    ∃ lines cut, fill width maxLines words = (lines.map (join [' ']), cut) ∧
      IsFilling width maxLines words lines cut ∧
      ∀ ls, IsLayout width words ls →
        lines.length ≤ ls.length ∧ (cut = true → lines.length < ls.length) := by
  rcases words with _ | ⟨w, ws⟩
  · refine ⟨[], false, rfl, ⟨List.nil_prefix, ?_, Nat.zero_le _, fun _ => rfl, ?_⟩,
      fun ls _ => ⟨Nat.zero_le _, ?_⟩⟩
    · exact fun l hl => absurd hl List.not_mem_nil
    · exact fun h => absurd h Bool.false_ne_true
    · exact fun h => absurd h Bool.false_ne_true
  · have hline : fill width maxLines (w :: ws)
        = fillFrom width (join [' '] [w]) (maxLines - 1) ws := by
      rw [join_singleton]
      rfl
    have hlines : maxLines - 1 + 1 = maxLines := Nat.sub_add_cancel hpos
    have hne : [w] ≠ [] := List.cons_ne_nil w []
    have hword : Fits width [w] := Or.inr (Nat.le_refl 1)
    rcases exists_fillFrom_eq hne hword (maxLines - 1) ws with ⟨lines, cut, heq, hfilling⟩
    rw [hlines] at hfilling
    refine ⟨lines, cut, hline.trans heq, hfilling, fun ls hls => ?_⟩
    -- Filling a line as far as it goes never takes more lines than another layout.
    have hleast := length_fillFrom_le hne (maxLines - 1) hls
    rwa [heq, List.length_map] at hleast

/-! ### The last line -/

theorem changeLast?_concat (change : Text → Option Text) (lines : List Text) (l : Text) :
    changeLast? change (lines ++ [l]) = (change l).map fun l' => lines ++ [l'] := by
  induction lines with
  | nil => rfl
  | cons m lines ih =>
    rw [List.cons_append, changeLast?, ih, Option.map_map]
    · rfl
    · exact List.append_ne_nil_of_right_ne_nil lines (List.cons_ne_nil l [])

end Wrap

namespace Text

/-! ### Texts on lines -/

/-- A text set on lines: joined by spaces they are the text, and each of them is
    within the width or a single word. -/
structure IsSetting (width : Nat) (t : Text) (lines : List Text) : Prop where
  join_eq : join [' '] lines = t
  fits : ∀ l ∈ lines, l.length ≤ width ∨ IsWord l

/-- A text cut short: its front with dots at the end is set on lines. -/
structure IsCutShort (width : Nat) (t : Text) (lines : List Text) : Prop where
  front : ∃ front, front <+: t ∧ join [' '] lines = front ++ Wrap.dots
  fits : ∀ l ∈ lines.dropLast, l.length ≤ width ∨ IsWord l
  last : ∀ l, lines.getLast? = some l → l.length ≤ max width 3

section Setting

open Label Wrap

variable {t : Text} {width : Nat}

/-- What fits on a line is within the width or a single word. -/
theorem length_join_le_or_isWord {l : List Text} (hwords : ∀ w ∈ l, IsWord w) (hne : l ≠ [])
    (hfits : Fits width l) : (join [' '] l).length ≤ width ∨ IsWord (join [' '] l) := by
  rcases hfits with h | h
  · exact Or.inl ((length_le_size _).trans h)
  · rcases l with _ | ⟨w, _ | ⟨v, l⟩⟩
    · exact absurd rfl hne
    · rw [join_singleton]
      exact Or.inr (hwords w List.mem_cons_self)
    · rw [List.length_cons, List.length_cons] at h
      omega

/-- The lines that an ASCII text is set on are a layout of its words. -/
theorem IsSetting.isLayout (ht : ∀ c ∈ t, isAsciiChar c = true) {lines : List Text}
    (h : IsSetting width (collapse t) lines) : IsLayout width t.words (lines.map words) where
  flatten := by
    rw [← List.flatMap_def, ← words_join_eq_flatMap, h.join_eq, collapse,
      words_join fun w hw => isWord_of_mem_words hw]
  fits g hg := by
    rcases List.mem_map.1 hg with ⟨l, hl, rfl⟩
    rcases h.fits l hl with hwidth | hword
    · have hascii : ∀ c ∈ l, isAsciiChar c = true := by
        intro c hc
        have hmem : c ∈ collapse t := h.join_eq ▸ (isInfix_join_of_mem [' '] hl).mem hc
        rcases mem_collapse hmem with rfl | hmem
        · decide
        · exact ht c hmem
      -- The words of a line take no more room than the line.
      refine Or.inl ((size_collapse_le l).trans ?_)
      rwa [size_of_isAscii hascii]
    · rw [words_of_isWord hword]
      exact Or.inr (Nat.le_refl 1)

variable {maxLines : Nat} {groups : List (List Text)} {cut : Bool}

/-- The lines that are filled with words of a text are within the width or single
    words. -/
theorem length_le_or_isWord_of_isFilling (h : IsFilling width maxLines t.words groups cut)
    {g : List Text} (hg : g ∈ groups) :
    (join [' '] g).length ≤ width ∨ IsWord (join [' '] g) := by
  refine length_join_le_or_isWord (fun w hw => ?_) (h.each g hg).1 (h.each g hg).2
  exact isWord_of_mem_words (h.front.mem (List.mem_flatten_of_mem hg hw))

/-- The lines that are filled with words of an ASCII text are ASCII. -/
theorem isAscii_of_isFilling (ht : ∀ c ∈ t, isAsciiChar c = true)
    (h : IsFilling width maxLines t.words groups cut) {g : List Text} (hg : g ∈ groups) :
    ∀ c ∈ join [' '] g, isAsciiChar c = true := by
  intro c hc
  rcases mem_join hc with hc | ⟨w, hw, hc⟩
  · rw [List.mem_singleton.1 hc]
    decide
  · have hmem := h.front.mem (List.mem_flatten_of_mem hg hw)
    exact ht c ((isInfix_of_mem_words hmem).mem hc)

/-- Lines that had room for all the words are a setting. -/
theorem isSetting_of_isFilling (h : IsFilling width maxLines t.words groups cut)
    (hcut : cut = false) : IsSetting width (collapse t) (groups.map (join [' '])) where
  join_eq := by rw [join_map_join _ fun l hl => (h.each l hl).1, h.whole hcut, collapse]
  fits l hl := by
    rcases List.mem_map.1 hl with ⟨g, hg, rfl⟩
    exact length_le_or_isWord_of_isFilling h hg

/-- Lines that had no room for all the words are cut short at the end of the last
    one. -/
theorem isCutShort_of_isFilling (ht : ∀ c ∈ t, isAsciiChar c = true) (hpos : 0 < maxLines)
    (h : IsFilling width maxLines t.words groups cut) (hcut : cut = true) :
    ∃ lines, changeLast? (shorten? width) (groups.map (join [' '])) = some lines ∧
      lines.length = maxLines ∧ IsCutShort width (collapse t) lines := by
  rcases List.eq_nil_or_concat' groups with rfl | ⟨front, g, rfl⟩
  · exact absurd (h.full hcut) (Nat.ne_of_lt hpos)
  · have hmap : (front ++ [g]).map (join [' ']) = front.map (join [' ']) ++ [join [' '] g] := by
      rw [List.map_append, List.map_singleton]
    have hascii := isAscii_of_isFilling ht h (List.mem_append_right _ (List.mem_singleton_self g))
    rcases exists_shorten?_eq width hascii with ⟨kept, hshort, hkept, hlength⟩
    refine ⟨front.map (join [' ']) ++ [kept ++ dots], ?_, ?_,
      ⟨join [' '] (front.map (join [' ']) ++ [kept]), ?_, ?_⟩, fun l hl => ?_, fun l hl => ?_⟩
    · rw [hmap, changeLast?_concat, hshort, Option.map_some]
    · rw [← h.full hcut, List.length_append, List.length_append, List.length_map]
      rfl
    · -- What is kept of the last line begins it, so what is kept of all begins the text.
      have hfront := h.join_isPrefix
      rw [hmap] at hfront
      exact (join_concat_isPrefix _ _ hkept).trans hfront
    · exact join_concat_append _ _ _ _
    · rw [List.dropLast_concat] at hl
      rcases List.mem_map.1 hl with ⟨k, hk, rfl⟩
      exact length_le_or_isWord_of_isFilling h (List.mem_append_left _ hk)
    · rw [List.getLast?_concat, Option.some.injEq] at hl
      have hdots : dots.length = 3 := rfl
      rw [← hl, List.length_append, hdots]
      omega

/-- An ASCII text is set on lines, all of it if there is any way to set it on so
    many lines of the width, and cut short on the last of them if there is none. -/
theorem isSetting_or_isCutShort_wrap? (ht : ∀ c ∈ t, isAsciiChar c = true)
    (hwidth : 0 < width) (hpos : 0 < maxLines) :
    ∃ lines, t.wrap? width maxLines = some lines ∧ lines.length ≤ maxLines ∧
      (IsSetting width (collapse t) lines ∨
        lines.length = maxLines ∧ IsCutShort width (collapse t) lines ∧
          ∀ ls, IsSetting width (collapse t) ls → maxLines < ls.length) := by
  rcases exists_fill_eq width hpos t.words with ⟨groups, cut, hfill, hfilling, hleast⟩
  have hasked : ¬ (width = 0 || maxLines = 0) = true := by
    rw [Bool.or_eq_true, decide_eq_true_eq, decide_eq_true_eq]
    omega
  have hwrap : t.wrap? width maxLines = if (groups.map (join [' '])).isEmpty then some [[]]
      else if cut then changeLast? (shorten? width) (groups.map (join [' ']))
      else some (groups.map (join [' '])) := by
    rw [wrap?, if_neg hasked, hfill]
  rw [hwrap]
  by_cases hempty : (groups.map (join [' '])).isEmpty = true
  · -- Without words there is one line with nothing on it.
    rw [List.isEmpty_iff, List.map_eq_nil_iff] at hempty
    subst hempty
    have hcut : cut = false := by
      by_contra hcut
      exact absurd (hfilling.full (by simpa using hcut)) (Nat.ne_of_lt hpos)
    have hnone : collapse t = [] := by
      rw [collapse, ← hfilling.whole hcut]
      rfl
    refine ⟨[[]], rfl, hpos, Or.inl ⟨hnone.symm, ?_⟩⟩
    exact List.forall_mem_singleton.2 (Or.inl (Nat.zero_le width))
  · rw [if_neg hempty]
    rcases cut with _ | _
    · refine ⟨groups.map (join [' ']), rfl, ?_, Or.inl (isSetting_of_isFilling hfilling rfl)⟩
      rw [List.length_map]
      exact hfilling.length_le
    · -- A setting of the text on so few lines would be a layout of its words.
      rcases isCutShort_of_isFilling ht hpos hfilling rfl with ⟨lines, hlines, hlength, hshort⟩
      refine ⟨lines, hlines, hlength.le, Or.inr ⟨hlength, hshort, fun ls hls => ?_⟩⟩
      have hmore := (hleast _ (hls.isLayout ht)).2 rfl
      rwa [hfilling.full rfl, List.length_map] at hmore

/-- Three words that each fill a line have no room on two. -/
theorem isCutShort_wrap?_row :
    wrap? "aaaa bbbb cccc".toList 4 2 = some ["aaaa".toList, "b...".toList] ∧
      IsCutShort 4 (collapse "aaaa bbbb cccc".toList) ["aaaa".toList, "b...".toList] ∧
      ∀ ls, IsSetting 4 (collapse "aaaa bbbb cccc".toList) ls → 2 < ls.length := by
  have hascii : ∀ c ∈ "aaaa bbbb cccc".toList, isAsciiChar c = true :=
    List.all_eq_true.1 (by decide)
  have hwrap : wrap? "aaaa bbbb cccc".toList 4 2 = some ["aaaa".toList, "b...".toList] := by
    decide +kernel
  have hwidth : 0 < 4 := by decide
  have hpos : 0 < 2 := by decide
  rcases isSetting_or_isCutShort_wrap? hascii hwidth hpos with ⟨lines, hlines, -, hcase⟩
  rw [hwrap, Option.some.injEq] at hlines
  subst hlines
  rcases hcase with hset | ⟨-, hshort, hmore⟩
  · exact absurd hset.join_eq (by decide +kernel)
  · exact ⟨hwrap, hshort, hmore⟩

end Setting

end Text

end Flowchart
