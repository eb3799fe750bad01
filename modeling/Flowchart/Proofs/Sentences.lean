import Flowchart.Focus.Excerpt
import Flowchart.Proofs.Ending
import Mathlib.Data.List.Chain

/-!
# Sentences of a Text

How a text falls into sentences, and that there is only one way in which it does.

A text is cut at the ends of its lines and between a stop and a blank. The pieces are
trimmed, and those of which nothing is left are dropped. So what a sentence is depends on
pieces that nobody gets to see. It is described here without them: a text is made up of
sentences with blanks around them. A sentence does not begin or end with a blank, and it
is nowhere cut, neither by the end of a line nor after a stop.

That alone would be true of single words as well. What makes it a description is that there
has to be a seam between a sentence and the next one: the first ends in a stop and a blank
follows, or a line ends among the blanks between the two. With that, the sentences of a text
are the only ones it can be made up of.

That there are such sentences is seen from the end of the text, one character at a time.
A blank goes to the blanks in front. Anything else begins a sentence of its own if there is
a seam right behind it, and otherwise the sentence that follows begins earlier.

## Main definitions

* `Text.isSeam`: A text is cut between a sentence and what follows.
* `Text.IsSentence`: The form of a sentence.
* `Text.IsLaid`: A text is made up of other texts with blanks around them.
* `Text.IsSplit`: A text falls into sentences.

## Theorems

* `Text.sentences_append`: A sentence at the front is the first one.
* `Text.IsLaid.filter_eq`: What a text is made up of has all but its blanks.
* `Text.exists_isLaid`: Every text is made up of sentences.
* `Text.eq_sentences_iff`: They are its sentences.
-/

namespace Flowchart

theorem isBlank_of_isLineEnd {c : Char} (h : isLineEnd c = true) : isBlank c = true := by
  rw [isLineEnd, Bool.or_eq_true, beq_iff_eq, beq_iff_eq] at h
  rcases h with rfl | rfl <;> decide

theorem not_isBlank_of_isStop {c : Char} (h : isStop c = true) : isBlank c = false := by
  rw [isStop, Bool.or_eq_true, Bool.or_eq_true, beq_iff_eq, beq_iff_eq, beq_iff_eq] at h
  rcases h with (rfl | rfl) | rfl <;> decide

namespace Text

/-- The text is cut between a sentence and what follows: the sentence ends in a stop and a
    blank follows, or a line ends among the blanks that follow. -/
def isSeam (s rest : Text) : Bool :=
  (s.getLast?.any isStop && rest.startsBlank) || (rest.takeWhile isBlank).any isLineEnd

/-- The text runs on from one character to the next, unless a blank follows a stop. -/
def RunsOn (c d : Char) : Prop := ¬ (isStop c = true ∧ isBlank d = true)

/-- The text is a sentence: something without blanks at its ends, in which no line ends and
    no blank follows a stop. -/
structure IsSentence (s : Text) : Prop where
  nonempty : s ≠ []
  trimmed : s.trim = s
  unbroken : ∀ c ∈ s, isLineEnd c = false
  unstopped : s.IsChain RunsOn

/-- A text is made up of other texts, in their order and with nothing but blanks before,
    between and after them, and there is a seam between neighbours. -/
inductive IsLaid : Text → List Text → Prop where
  | nil {t : Text} (h : t.isBlankText = true) : IsLaid t []
  | cons {rest : Text} {ss : List Text} (gap s : Text) (hgap : gap.isBlankText = true)
      (hseam : ss ≠ [] → isSeam s rest = true) (h : IsLaid rest ss) :
      IsLaid (gap ++ s ++ rest) (s :: ss)

/-- A text falls into sentences: it is made up of them, and they have all of its characters
    that are no blanks. -/
structure IsSplit (t : Text) (ss : List Text) : Prop where
  isSentence : ∀ s ∈ ss, IsSentence s
  isLaid : IsLaid t ss
  filter_eq : ss.flatten.filter (!isBlank ·) = t.filter (!isBlank ·)

section Pieces

variable {s t p : Text} {ps : List Text}

/-! ### Pieces -/

theorem sentencePieces_ne_nil (t : Text) : sentencePieces t ≠ [] := by
  rcases t with _ | ⟨c, t⟩
  · exact List.cons_ne_nil _ _
  · rw [sentencePieces]
    split
    · exact List.cons_ne_nil _ _
    · split
      · exact List.cons_ne_nil _ _
      · split
        · exact List.cons_ne_nil _ _
        · exact List.cons_ne_nil _ _

/-- A character that is not cut off goes to the first piece. -/
theorem sentencePieces_cons {c : Char} (hline : isLineEnd c = false)
    (hstop : ¬ (isStop c && t.startsBlank) = true) :
    sentencePieces (c :: t) = (sentencePieces t).modifyHead (c :: ·) := by
  rw [sentencePieces, if_neg (by rw [hline]; decide), if_neg hstop]
  rcases hpieces : sentencePieces t with _ | ⟨piece, pieces⟩
  · exact absurd hpieces (sentencePieces_ne_nil t)
  · rfl

/-- Blanks are no stops, so they are cut off only where a line ends. -/
theorem sentencePieces_cons_of_isBlank {c : Char} (hc : isBlank c = true)
    (hline : ¬ isLineEnd c = true) :
    sentencePieces (c :: t) = (sentencePieces t).modifyHead (c :: ·) := by
  refine sentencePieces_cons (Bool.eq_false_iff.2 hline) fun hstop => ?_
  rw [Bool.and_eq_true] at hstop
  exact absurd hc (Bool.eq_false_iff.1 (not_isBlank_of_isStop hstop.1))

/-- A sentence at the front is a piece of its own, or goes to the first piece of what
    follows. -/
theorem sentencePieces_append (hs : IsSentence s) (rest : Text) :
    sentencePieces (s ++ rest) = if s.getLast?.any isStop && rest.startsBlank then
      s :: sentencePieces rest else (sentencePieces rest).modifyHead (s ++ ·) := by
  rcases hs with ⟨hne, -, hlines, hstops⟩
  -- The induction is on the sentence. A stop inside it has no blank behind, so the
  -- first piece runs on to its end.
  induction s with
  | nil => exact absurd rfl hne
  | cons c s ih =>
    have hc : isLineEnd c = false := hlines c List.mem_cons_self
    rcases s with _ | ⟨d, s⟩
    · rw [List.singleton_append, List.getLast?_singleton, Option.any_some]
      split
      · rename_i hstop
        rw [sentencePieces, if_neg (by rw [hc]; decide), if_pos hstop]
      · rename_i hstop
        exact sentencePieces_cons hc hstop
    · rw [List.isChain_cons_cons] at hstops
      have hrest := ih (List.cons_ne_nil d s) (fun e he => hlines e (List.mem_cons_of_mem c he))
        hstops.2
      have hstop : ¬ (isStop c && startsBlank (d :: s ++ rest)) = true := fun h =>
        hstops.1 (Bool.and_eq_true_iff.1 h)
      rw [List.cons_append, sentencePieces_cons hc hstop, hrest, List.getLast?_cons_cons]
      split
      · rfl
      · rw [List.modifyHead_modifyHead]
        rfl

/-- If only blanks come up to the end of a line or of the text, then they are the first
    piece. -/
theorem exists_blank_piece
    (h : t.isBlankText = true ∨ (t.takeWhile isBlank).any isLineEnd = true) :
    ∃ p ps, sentencePieces t = p :: ps ∧ p.isBlankText = true := by
  induction t with
  | nil => exact ⟨[], [], rfl, rfl⟩
  | cons c t ih =>
    by_cases hline : isLineEnd c = true
    · exact ⟨[], sentencePieces t, by rw [sentencePieces, if_pos hline], rfl⟩
    · have hc : isBlank c = true := by
        by_contra hc
        rw [isBlankText_cons_iff, List.takeWhile_cons_of_neg hc] at h
        exact h.elim (fun h => hc h.1) Bool.noConfusion
      -- The line goes on, and so do the blanks in it.
      have htail : isBlankText t = true ∨ (t.takeWhile isBlank).any isLineEnd = true := by
        rwa [isBlankText_cons_iff, and_iff_right hc, List.takeWhile_cons_of_pos hc, List.any_cons,
          Bool.or_eq_true, or_iff_right hline] at h
      rcases ih htail with ⟨p, ps, hpieces, hp⟩
      refine ⟨c :: p, ps, ?_, isBlankText_cons_iff.2 ⟨hc, hp⟩⟩
      rw [sentencePieces_cons_of_isBlank hc hline, hpieces]
      rfl

/-! ### The sentences of a text -/

/-- The first piece gives the first sentence, if anything is left of it. -/
theorem sentences_eq (h : sentencePieces t = p :: ps) :
    t.sentences = [p.trim].filter (· ≠ []) ++ (ps.map trim).filter (· ≠ []) := by
  rw [sentences, h, List.map_cons, ← List.singleton_append, List.filter_append]

theorem sentences_cons_of_isBlank {c : Char} (hc : isBlank c = true) (t : Text) :
    sentences (c :: t) = t.sentences := by
  by_cases hline : isLineEnd c = true
  · have hpieces : sentencePieces (c :: t) = [] :: sentencePieces t := by
      rw [sentencePieces, if_pos hline]
    exact sentences_eq hpieces
  · -- The blank becomes part of the first piece, where it is trimmed away.
    rcases hpieces : sentencePieces t with _ | ⟨p, ps⟩
    · exact absurd hpieces (sentencePieces_ne_nil t)
    · have hmore : sentencePieces (c :: t) = (c :: p) :: ps := by
        rw [sentencePieces_cons_of_isBlank hc hline, hpieces]
        rfl
      rw [sentences_eq hmore, sentences_eq hpieces, trim_cons hc]

/-- Blanks in front of a text have no part in its sentences. -/
theorem sentences_append_of_isBlankText {gap : Text} (h : gap.isBlankText = true) (t : Text) :
    sentences (gap ++ t) = t.sentences := by
  induction gap with
  | nil => rfl
  | cons c gap ih =>
    rw [isBlankText_cons_iff] at h
    rw [List.cons_append, sentences_cons_of_isBlank h.1, ih h.2]

theorem sentences_of_isBlankText (h : t.isBlankText = true) : t.sentences = [] := by
  have hnone := sentences_append_of_isBlankText h []
  rw [List.append_nil] at hnone
  rw [hnone]
  rfl

/-- A sentence at the front is the first one, if nothing follows or there is a seam. -/
theorem sentences_append (hs : IsSentence s) {rest : Text}
    (h : rest.isBlankText = true ∨ isSeam s rest = true) :
    sentences (s ++ rest) = s :: rest.sentences := by
  have hpieces := sentencePieces_append hs rest
  have hkept : [s].filter (· ≠ []) = [s] :=
    List.filter_cons_of_pos (decide_eq_true hs.nonempty)
  by_cases hstop : (s.getLast?.any isStop && rest.startsBlank) = true
  · rw [if_pos hstop] at hpieces
    rw [sentences_eq hpieces, hs.trimmed, hkept]
    rfl
  · -- What goes to the sentence are blanks, which are trimmed.
    rw [isSeam, Bool.or_eq_true, or_iff_right hstop] at h
    rcases exists_blank_piece h with ⟨p, ps, hrest, hp⟩
    rw [if_neg hstop, hrest, List.modifyHead_cons] at hpieces
    rw [sentences_eq hpieces, sentences_eq hrest, trim_append_of_isBlankText hp, hs.trimmed,
      hkept, trim_eq_nil_iff.2 hp]
    rfl

end Pieces

/-! ### What a text is made up of -/

section Laid

variable {t : Text} {ss : List Text}

theorem IsLaid.cons_of_isBlank {c : Char} (hc : isBlank c = true) (h : IsLaid t ss) :
    IsLaid (c :: t) ss := by
  cases h with
  | nil h => exact .nil (isBlankText_cons_iff.2 ⟨hc, h⟩)
  | cons gap s hgap hseam h =>
    exact .cons (c :: gap) s (isBlankText_cons_iff.2 ⟨hc, hgap⟩) hseam h

/-- What a text is made up of has all of its characters that are no blanks, in their
    order. -/
theorem IsLaid.filter_eq (h : IsLaid t ss) :
    ss.flatten.filter (!isBlank ·) = t.filter (!isBlank ·) := by
  have hblank : ∀ {gap : Text}, gap.isBlankText = true → gap.filter (!isBlank ·) = [] := by
    intro gap hgap
    rw [List.filter_eq_nil_iff]
    intro c hc
    rw [List.all_eq_true.1 hgap c hc]
    decide
  -- What stands between sentences is blank, and blanks are left out.
  induction h with
  | nil h => exact (hblank h).symm
  | cons gap s hgap _ _ ih =>
    rw [List.flatten_cons, List.filter_append, ih, List.filter_append, List.filter_append,
      hblank hgap, List.nil_append]

/-- If a text is made up of sentences, they are its sentences. -/
theorem IsLaid.sentences_eq (h : IsLaid t ss) (hss : ∀ s ∈ ss, IsSentence s) :
    t.sentences = ss := by
  induction h with
  | nil h => exact sentences_of_isBlankText h
  | @cons rest ss gap s hgap hseam h ih =>
    -- Behind the last sentence there need not be a seam, since only blanks follow.
    have hs : rest.isBlankText = true ∨ isSeam s rest = true := by
      by_cases hlast : ss = []
      · rw [hlast] at h
        cases h with
        | nil h => exact Or.inl h
      · exact Or.inr (hseam hlast)
    rw [List.append_assoc, sentences_append_of_isBlankText hgap,
      sentences_append (hss s List.mem_cons_self) hs,
      ih fun s' hs' => hss s' (List.mem_cons_of_mem s hs')]

end Laid

/-! ### Sentences that begin earlier -/

/-- Blanks are no stops, so the text runs on after them. -/
theorem isChain_append_of_isBlankText {gap s : Text} (hgap : gap.isBlankText = true)
    (hs : s.IsChain RunsOn) : (gap ++ s).IsChain RunsOn := by
  induction gap with
  | nil => exact hs
  | cons c gap ih =>
    rw [isBlankText_cons_iff] at hgap
    refine List.isChain_cons.2 ⟨fun d _ hstop => ?_, ih hgap.2⟩
    rw [not_isBlank_of_isStop hstop.1] at hgap
    exact Bool.noConfusion hgap.1

namespace IsSentence

variable {s : Text}

theorem not_isBlank_head (h : IsSentence s) {c : Char} (hc : s.head? = some c) :
    isBlank c = false := by
  rw [← h.trimmed, ← trimStart_trim] at hc
  exact of_head?_dropWhile hc

theorem not_isBlank_last (h : IsSentence s) {c : Char} (hc : s.getLast? = some c) :
    isBlank c = false := by
  rw [← h.trimmed] at hc
  exact of_getLast?_dropEndWhile hc

theorem singleton {c : Char} (hc : isBlank c = false) : IsSentence [c] := by
  have hend : ∀ d, some c = some d → isBlank d = false := fun d hd => Option.some.inj hd ▸ hc
  refine ⟨List.cons_ne_nil _ _, trim_eq_self hend hend, fun d hd => ?_, List.isChain_singleton _⟩
  rw [List.mem_singleton.1 hd, ← Bool.not_eq_true]
  intro hline
  rw [isBlank_of_isLineEnd hline] at hc
  exact Bool.noConfusion hc

/-- A sentence may begin earlier if there is no seam. -/
theorem cons_append {c : Char} {gap rest : Text} (h : IsSentence s) (hc : isBlank c = false)
    (hgap : gap.isBlankText = true) (hseam : isSeam [c] (gap ++ s ++ rest) = false) :
    IsSentence (c :: (gap ++ s)) := by
  rw [isSeam, Bool.or_eq_false_iff, List.append_assoc] at hseam
  rcases hseam with ⟨hstop, hline⟩
  have hhead : ∀ d, (s ++ rest).head? = some d → isBlank d = false := fun d hd =>
    h.not_isBlank_head (by rwa [List.head?_append_of_ne_nil _ h.nonempty] at hd)
  rw [(takeWhile_append_of_ends (List.all_eq_true.1 hgap) hhead).1] at hline
  refine ⟨List.cons_ne_nil _ _, trim_eq_self (fun d hd => Option.some.inj hd ▸ hc) fun d hd => ?_,
    fun d hd => ?_, List.isChain_cons.2 ⟨fun d hd hcut => ?_, ?_⟩⟩
  · rw [← List.cons_append, List.getLast?_append_of_ne_nil _ h.nonempty] at hd
    exact h.not_isBlank_last hd
  · rcases List.mem_cons.1 hd with rfl | hd
    · exact (singleton hc).unbroken d (List.mem_singleton_self d)
    · rcases List.mem_append.1 hd with hd | hd
      · exact Bool.eq_false_iff.2 (List.any_eq_false.1 hline d hd)
      · exact h.unbroken d hd
  · -- What comes right behind begins the rest of the text.
    rcases List.head?_eq_some_iff.1 hd with ⟨more, hmore⟩
    rw [← List.append_assoc, hmore, List.cons_append, List.getLast?_singleton, Option.any_some,
      startsBlank, hcut.1, hcut.2] at hstop
    exact Bool.noConfusion hstop
  · exact isChain_append_of_isBlankText hgap h.unstopped

end IsSentence

/-- Every text is made up of sentences. -/
theorem exists_isLaid (t : Text) : ∃ ss, IsLaid t ss ∧ ∀ s ∈ ss, IsSentence s := by
  induction t with
  | nil => exact ⟨[], .nil rfl, nofun⟩
  | cons c t ih =>
    rcases ih with ⟨ss, hlaid, hss⟩
    by_cases hc : isBlank c = true
    · exact ⟨ss, hlaid.cons_of_isBlank hc, hss⟩
    · rw [Bool.not_eq_true] at hc
      have hsingle := IsSentence.singleton hc
      cases hlaid with
      | nil h => exact ⟨[[c]], .cons [] [c] rfl (fun hne => absurd rfl hne) (.nil h),
          List.forall_mem_singleton.2 hsingle⟩
      | @cons rest ss gap s hgap hseam h =>
        rw [List.forall_mem_cons] at hss
        by_cases hcut : isSeam [c] (gap ++ s ++ rest) = true
        · exact ⟨[c] :: s :: ss, .cons [] [c] rfl (fun _ => hcut) (.cons gap s hgap hseam h),
            List.forall_mem_cons.2 ⟨hsingle, List.forall_mem_cons.2 hss⟩⟩
        · -- The end of the sentence stays what it was, and so does the seam behind it.
          have hlonger := hss.1.cons_append hc hgap (Bool.eq_false_iff.2 hcut)
          refine ⟨(c :: (gap ++ s)) :: ss, .cons [] (c :: (gap ++ s)) rfl (fun hne => ?_) h,
            List.forall_mem_cons.2 ⟨hlonger, hss.2⟩⟩
          rw [isSeam, ← List.cons_append, List.getLast?_append_of_ne_nil _ hss.1.nonempty]
          exact hseam hne

/-- The sentences of a text are what it falls into, and it falls into nothing else. They
    have the form of sentences and stand in the text one after the other, with nothing but
    blanks and a seam between them. -/
theorem eq_sentences_iff {t : Text} {ss : List Text} : ss = t.sentences ↔ IsSplit t ss := by
  constructor
  · rintro rfl
    rcases exists_isLaid t with ⟨ss, hlaid, hss⟩
    rw [hlaid.sentences_eq hss]
    exact ⟨hss, hlaid, hlaid.filter_eq⟩
  · rintro ⟨hss, hlaid, -⟩
    exact (hlaid.sentences_eq hss).symm

/-- A number is no place to cut, and neither is there a sentence between two line ends. -/
example : sentences "One. Two? Three!\n\nFour 3.5 five\r\nsix.".toList
    = ["One.".toList, "Two?".toList, "Three!".toList, "Four 3.5 five".toList, "six.".toList] := by
  decide

end Text

end Flowchart
