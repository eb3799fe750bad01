import Flowchart.Focus.Excerpt
import Flowchart.Proofs.Layout
import Flowchart.Proofs.Ranking

/-!
# Excerpts and Their Size

What the excerpt of a text consists of, and when it stays within the size that was asked
for.

Sentences that score are put in order, those that score most first and those that score the
same as they stand in the text, and are taken from the front for as long as the whole fits.
The order is a sort of pairs that is cut off at the first sentence without a score. It is
described here by what it is for: it has the sentences that score and no others, none stands
before one that scores more, and none of the same score have changed places. That leaves one
order only, and its first sentence is the first of the best ones in the text.

The size is checked when a sentence is added. If not even the first one fits, nothing has
been added, and that looks the same as if no sentence had scored. In both cases the sentences
at the beginning of the text stand in, and nobody checks their size. So a text of any length
may come out where a short one was asked for, and whether it does is decided by the size of
the best sentence and by that of the beginning.

## Main definitions

* `Focus.IsRanking`: The sentences that score, best first.
* `Focus.IsBest`: The first of the sentences that score most.
* `Excerpt.opening`: The sentences at the beginning of a text.
* `Excerpt.IsExcerpt`: What an excerpt may be.

## Theorems

* `Excerpt.isRanking_scoring`: The sentences that score are put in order.
* `Focus.IsRanking.head?_eq_some_iff`: The best one is the first.
* `Excerpt.exists_gather_eq`: As many are taken as fit.
* `Excerpt.isExcerpt_select`: What an excerpt is, and when it is short enough.
-/

namespace Flowchart

/-- If whatever stands behind a good item is good only where the item is, the good ones are
    at the front. -/
theorem takeWhile_eq_filter {α : Type} {p : α → Bool} {l : List α}
    (h : l.Pairwise fun a b => p b = true → p a = true) : l.takeWhile p = l.filter p := by
  induction l with
  | nil => rfl
  | cons a l ih =>
    rw [List.pairwise_cons] at h
    by_cases ha : p a = true
    · rw [List.takeWhile_cons_of_pos ha, List.filter_cons_of_pos ha, ih h.2]
    · rw [List.takeWhile_cons_of_neg ha, List.filter_cons_of_neg ha]
      exact (List.filter_eq_nil_iff.2 fun b hb hp => ha (h.1 b hb hp)).symm

namespace Focus

variable {f : Focus} {ss ranked : List Text}

/-- The sentences that score, those that score most first, and those that score the same as
    they stand in the text. -/
structure IsRanking (f : Focus) (ss ranked : List Text) : Prop where
  perm : ranked.Perm (ss.filter (1 ≤ f.score ·))
  sorted : ranked.Pairwise fun s s' => f.score s' ≤ f.score s
  stable : ∀ n, ranked.filter (f.score · = n) = (ss.filter (1 ≤ f.score ·)).filter (f.score · = n)

/-- The first of the sentences that score most, if they score at all. -/
structure IsBest (f : Focus) (ss : List Text) (s : Text) : Prop where
  scores : 1 ≤ f.score s
  most : ∀ s' ∈ ss, f.score s' ≤ f.score s
  first : ss.find? (f.score · = f.score s) = some s

theorem IsBest.mem {s : Text} (h : f.IsBest ss s) : s ∈ ss := List.mem_of_find?_eq_some h.first

/-- There is no more than one best sentence. -/
theorem IsBest.eq {s s' : Text} (h : f.IsBest ss s) (h' : f.IsBest ss s') : s = s' := by
  have hscore : f.score s = f.score s' := Int.le_antisymm (h'.most s h.mem) (h.most s' h'.mem)
  have hfirst := h.first
  rw [hscore, h'.first] at hfirst
  exact (Option.some.inj hfirst).symm

theorem IsRanking.mem_iff (h : f.IsRanking ss ranked) {s : Text} :
    s ∈ ranked ↔ s ∈ ss ∧ 1 ≤ f.score s := by
  rw [h.perm.mem_iff, List.mem_filter, decide_eq_true_eq]

/-- What stands first in the order is a best sentence. -/
theorem IsRanking.isBest {s : Text} {more : List Text} (h : f.IsRanking ss (s :: more)) :
    f.IsBest ss s := by
  rcases h.mem_iff.1 List.mem_cons_self with ⟨-, hscores⟩
  refine ⟨hscores, fun s' hs' => ?_, ?_⟩
  · by_cases hscores' : 1 ≤ f.score s'
    · rcases List.mem_cons.1 (h.mem_iff.2 ⟨hs', hscores'⟩) with rfl | hmore
      · exact Int.le_refl _
      · exact (List.pairwise_cons.1 h.sorted).1 s' hmore
    · omega
  · -- Among the sentences of this score it has stayed the first.
    have htie := h.stable (f.score s)
    have hall : (ss.filter (1 ≤ f.score ·)).filter (f.score · = f.score s)
        = ss.filter (f.score · = f.score s) := by
      rw [List.filter_filter]
      refine List.filter_congr fun s' _ => ?_
      by_cases heq : f.score s' = f.score s
      · simp only [heq, hscores, decide_true, Bool.and_self]
      · simp only [heq, decide_false, Bool.false_and]
    rw [hall] at htie
    rw [← List.head?_filter, ← htie, List.head?_filter]
    exact List.find?_cons_of_pos (decide_eq_true rfl)

/-- The order begins with the best sentence, if there is one. -/
theorem IsRanking.head?_eq_some_iff (h : f.IsRanking ss ranked) {s : Text} :
    ranked.head? = some s ↔ f.IsBest ss s := by
  constructor
  · intro hhead
    rcases List.head?_eq_some_iff.1 hhead with ⟨more, rfl⟩
    exact h.isBest
  · intro hbest
    rcases ranked with _ | ⟨s', more⟩
    · exact absurd (h.mem_iff.2 ⟨hbest.mem, hbest.scores⟩) List.not_mem_nil
    · rw [hbest.eq h.isBest, List.head?_cons]

end Focus

namespace Excerpt

open Text

/-! ### The order of sentences -/

/-- The sentences that score come out in order. -/
theorem isRanking_scoring (f : Focus) (ss : List Text) : f.IsRanking ss (scoring f ss) := by
  have htrans : ∀ a b c : Text, decide (f.score b ≤ f.score a) = true →
      decide (f.score c ≤ f.score b) = true → decide (f.score c ≤ f.score a) = true := by
    intro a b c hab hbc
    rw [decide_eq_true_eq] at hab hbc ⊢
    exact Int.le_trans hbc hab
  have htotal : ∀ a b : Text,
      (decide (f.score b ≤ f.score a) || decide (f.score a ≤ f.score b)) = true := by
    intro a b
    rw [Bool.or_eq_true, decide_eq_true_eq, decide_eq_true_eq]
    exact Int.le_total _ _
  have hsorted := List.pairwise_mergeSort htrans htotal ss
  -- Sorting pairs by their scores is sorting the sentences, and cutting off is filtering.
  have hpairs : (ss.map fun s => (f.score s, s)).mergeSort (fun a b => b.1 ≤ a.1)
      = (ss.mergeSort fun s s' => f.score s' ≤ f.score s).map fun s => (f.score s, s) :=
    (List.map_mergeSort (f := fun s => (f.score s, s)) fun _ _ _ _ => rfl).symm
  have heq : scoring f ss
      = (ss.mergeSort fun s s' => f.score s' ≤ f.score s).filter (1 ≤ f.score ·) := by
    rw [scoring, hpairs, List.takeWhile_map, List.map_map]
    refine (List.map_id _).trans (takeWhile_eq_filter (hsorted.imp fun {s s'} hle hscores => ?_))
    rw [Function.comp_apply, decide_eq_true_eq] at hscores ⊢
    exact Int.le_trans hscores (of_decide_eq_true hle)
  rw [heq]
  refine ⟨(List.mergeSort_perm _ _).filter _, ?_, fun n => ?_⟩
  · exact (hsorted.imp fun hle => of_decide_eq_true hle).filter _
  · rw [List.filter_comm, filter_mergeSort_of_tie htrans htotal, List.filter_comm]
    intro a b ha hb
    rw [decide_eq_true_eq] at ha hb ⊢
    exact Int.le_of_eq (hb.trans ha.symm)

/-! ### Taking sentences -/

/-- A join of sentences is empty if there are none. -/
theorem join_eq_nil_iff {ts : List Text} (h : ∀ s ∈ ts, s ≠ []) :
    join ['\n'] ts = [] ↔ ts = [] := by
  constructor
  · intro hnil
    rcases ts with _ | ⟨s, ts⟩
    · rfl
    · have hin := isInfix_join_of_mem ['\n'] (List.mem_cons_self (a := s) (l := ts))
      rw [hnil, List.infix_nil] at hin
      exact absurd hin (h s List.mem_cons_self)
  · rintro rfl
    rfl

/-- A sentence is put behind those that have been taken. -/
theorem ite_isEmpty_join {taken : List Text} (h : ∀ s ∈ taken, s ≠ []) (s : Text) :
    (if (join ['\n'] taken).isEmpty then s else join ['\n'] taken ++ '\n' :: s)
      = join ['\n'] (taken ++ [s]) := by
  by_cases hnone : taken = []
  · rw [hnone, List.nil_append, join_singleton]
    rfl
  · have hnonempty : (join ['\n'] taken).isEmpty = false :=
      List.isEmpty_eq_false_iff.2 fun hnil => hnone ((join_eq_nil_iff h).1 hnil)
    rw [hnonempty, if_neg Bool.false_ne_true, join_append _ hnone (List.cons_ne_nil _ _),
      join_singleton, List.append_assoc]
    rfl

/-- As many sentences are taken as fit behind those that have been taken already: the next
    one would be too much. -/
theorem exists_gather_eq {size : Nat} (taken ls : List Text) (hne : ∀ s ∈ taken ++ ls, s ≠ [])
    (hfits : (join ['\n'] taken).size ≤ size) :
    ∃ more left, ls = more ++ left ∧
      gather size (join ['\n'] taken) ls = join ['\n'] (taken ++ more) ∧
      (join ['\n'] (taken ++ more)).size ≤ size ∧
      ∀ s ∈ left.head?, size < (join ['\n'] (taken ++ more ++ [s])).size := by
  induction ls generalizing taken with
  | nil =>
    refine ⟨[], [], rfl, ?_, ?_, nofun⟩
    · rw [List.append_nil]
      rfl
    · rwa [List.append_nil]
  | cons s ls ih =>
    have htaken : ∀ s' ∈ taken, s' ≠ [] := fun s' hs' => hne s' (List.mem_append_left _ hs')
    rw [gather, ite_isEmpty_join htaken]
    -- If the next sentence is too much, nothing after it is looked at.
    by_cases hfull : size < (join ['\n'] (taken ++ [s])).size
    · rw [if_pos hfull]
      refine ⟨[], s :: ls, rfl, by rw [List.append_nil], by rwa [List.append_nil], ?_⟩
      intro s' hs'
      rw [List.head?_cons, Option.mem_some_iff] at hs'
      rwa [List.append_nil, ← hs']
    · rw [if_neg hfull]
      rw [List.append_cons] at hne
      rcases ih (taken ++ [s]) hne (Nat.le_of_not_lt hfull) with ⟨more, left, rfl, heq, hle, hnext⟩
      rw [List.append_assoc, List.singleton_append] at heq hle hnext
      exact ⟨s :: more, left, rfl, heq, hle, hnext⟩

/-! ### Excerpts -/

/-- The sentences at the beginning of a text. -/
def opening (t : Text) : Text := join ['\n'] (t.sentences.take fallbackSentences)

/-- An excerpt is the beginning of the text if no sentence scores or the best one does not
    fit. Otherwise it has the sentences that score, best first, and as many as fit. -/
inductive IsExcerpt (t : Text) (f : Focus) (size : Nat) : Text → Prop where
  | opening (h : (∀ s ∈ t.sentences, f.score s < 1) ∨
      ∃ s, f.IsBest t.sentences s ∧ size < s.size) : IsExcerpt t f size (opening t)
  | best {taken left : List Text} (hranking : f.IsRanking t.sentences (taken ++ left))
      (hne : taken ≠ []) (hfits : (join ['\n'] taken).size ≤ size)
      (hfull : ∀ s ∈ left.head?, size < (join ['\n'] (taken ++ [s])).size) :
      IsExcerpt t f size (join ['\n'] taken)

/-- What an excerpt is. It is no longer than it should be if the best sentence fits, or else
    the beginning of the text happens to. -/
theorem isExcerpt_select (t : Text) (f : Focus) (size : Nat) :
    IsExcerpt t f size (select t f size).text ∧
      ((select t f size).text.size ≤ size ↔
        (∃ s, f.IsBest t.sentences s ∧ s.size ≤ size) ∨ (opening t).size ≤ size) := by
  have hranking := isRanking_scoring f t.sentences
  have hsentences : ∀ s ∈ scoring f t.sentences, s ≠ [] := fun s hs =>
    of_decide_eq_true (List.mem_filter.1 (hranking.mem_iff.1 hs).1).2
  rcases exists_gather_eq [] (scoring f t.sentences) hsentences (Nat.zero_le size) with
    ⟨taken, left, heq, hgather, hfits, hfull⟩
  rw [List.nil_append] at hgather hfits hfull
  rw [heq] at hranking hsentences
  have hselect : (select t f size).text
      = if (join ['\n'] taken).isEmpty then opening t else join ['\n'] taken := by
    rw [← hgather]
    rfl
  have htaken : (join ['\n'] taken).isEmpty = true ↔ taken = [] := by
    rw [List.isEmpty_iff]
    exact join_eq_nil_iff fun s hs => hsentences s (List.mem_append_left _ hs)
  rw [hselect]
  by_cases hnone : taken = []
  · -- Nothing was taken, so there was nothing to take or it did not fit.
    rw [if_pos (htaken.2 hnone)]
    rw [hnone, List.nil_append] at hranking
    rw [hnone] at hfull
    have hlong : ∀ s, f.IsBest t.sentences s → size < s.size := fun s hs => by
      have hnext := hfull s (hranking.head?_eq_some_iff.2 hs)
      rwa [List.nil_append, join_singleton] at hnext
    constructor
    · refine .opening ?_
      rcases left with _ | ⟨s, left⟩
      · refine Or.inl fun s hs => ?_
        by_contra hscores
        exact absurd (hranking.mem_iff.2 ⟨hs, Int.not_lt.1 hscores⟩) List.not_mem_nil
      · exact Or.inr ⟨s, hranking.isBest, hlong s hranking.isBest⟩
    · refine (or_iff_right ?_).symm
      rintro ⟨s, hs, hshort⟩
      exact absurd (hlong s hs) (Nat.not_lt.2 hshort)
  · rw [if_neg (mt htaken.1 hnone)]
    refine ⟨.best hranking hnone hfits hfull, iff_of_true hfits (Or.inl ?_)⟩
    rcases taken with _ | ⟨s, taken⟩
    · exact absurd rfl hnone
    · have hin := isInfix_join_of_mem ['\n'] (List.mem_cons_self (a := s) (l := taken))
      exact ⟨s, hranking.isBest, (size_le_of_isInfix hin).trans hfits⟩

/-- A sentence that scores and does not fit, and a text that is longer than it should be. -/
theorem lt_size_select :
    5 < (select "alpha one.".toList { topic := "alpha".toList } 5).text.size ∧
      (select "alpha one.".toList { topic := "alpha".toList } 5).text
        = opening "alpha one.".toList ∧
      1 ≤ Focus.score { topic := "alpha".toList } "alpha one.".toList := by
  decide +kernel

end Excerpt

end Flowchart
