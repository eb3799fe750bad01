import Flowchart.Text.Blank
import Flowchart.Text.Lines
import Mathlib.Data.List.DropRight

/-!
# Pieces of Texts

How a text falls apart and how it comes together again.

`splitWhere` cuts a text at the characters of a class, and joining the pieces
with one such character undoes the cut, provided that no other character of the
class occurs. In the other direction a join is cut back into the parts it was
made of, provided that no part holds a separator. Lines and words are both
instances: a printed text is read back line by line, and a text of words set
apart by single blanks is read back word by word.

Trimming takes something off an end. What is left is a piece of the text, and
it is the whole text if there was nothing to take off.

## Main definitions

* `Text.IsWord`: A text that is one word.

## Theorems

* `Text.splitWhere_eq_splitOnP`: Cutting is the splitting of the library.
* `Text.join_append`: Two joins are set apart by one more separator.
* `Text.join_map_join`: Parts that are joined in groups are joined.
* `Text.splitWhere_join`: A join is cut back into its parts.
* `Text.exists_of_append_eq_front`, `Text.exists_of_append_eq_end`: What is taken
  off an end does not reach over a separator that it is without.
* `Text.isInfix_of_join`: A text without separators stands in one part.
* `Text.segments_join`, `Text.lines_join`: Printed lines are read back.
* `Text.words_append_blank`: Words do not reach over a blank.
* `Text.words_join_eq_flatMap`: The words of a join are those of its parts.
* `Text.words_join`: Words set apart by blanks are read back.
* `Text.isInfix_of_mem_words`: A word of a text stands in the text.
* `Text.isPrefix_dropEndWhile`: What dropping from the end does not reach.
* `Text.takeWhile_append_of_ends`: A run is taken up to where it ends.
-/

namespace Flowchart

/-- A list is left as it is exactly if each of its items is. -/
theorem map_eq_self_iff {α : Type} {f : α → α} {l : List α} : l.map f = l ↔ ∀ a ∈ l, f a = a := by
  have hid : l.map (fun a => a) = l := List.map_id' l
  conv_lhs => rhs; rw [← hid]
  exact List.map_inj_left

namespace Text

/-! ### Cutting and joining -/

/-- Cutting at a class of characters is what the library calls splitting. -/
theorem splitWhere_eq_splitOnP (p : Char → Bool) (t : Text) :
    splitWhere p t = List.splitOnP p t := by
  induction t with
  | nil => rw [splitWhere, List.splitOnP_nil]
  | cons c t ih =>
    rw [splitWhere, List.splitOnP_cons_eq_if_modifyHead, ih]
    by_cases hc : p c = true
    · rw [if_pos hc, if_pos hc]
    · rw [if_neg hc, if_neg hc]
      -- There is always a first piece for the character to join.
      rcases hs : List.splitOnP p t with _ | ⟨piece, pieces⟩
      · exact absurd hs (List.splitOnP_ne_nil p t)
      · rfl

theorem splitWhere_ne_nil (p : Char → Bool) (t : Text) : splitWhere p t ≠ [] := by
  rw [splitWhere_eq_splitOnP]
  exact List.splitOnP_ne_nil p t

theorem splitWhere_append_cons {p : Char → Bool} {c : Char} (hc : p c = true) (s t : Text) :
    splitWhere p (s ++ c :: t) = splitWhere p s ++ splitWhere p t := by
  rw [splitWhere_eq_splitOnP, splitWhere_eq_splitOnP, splitWhere_eq_splitOnP]
  exact List.splitOnP_append_cons s t hc

/-- A text without separators is its own only piece. -/
theorem splitWhere_of_forall {p : Char → Bool} {t : Text} (h : ∀ c ∈ t, p c = false) :
    splitWhere p t = [t] := by
  rw [splitWhere_eq_splitOnP]
  exact List.splitOnP_eq_singleton h

@[simp] theorem join_nil (s : Text) : join s [] = [] := rfl

@[simp] theorem join_singleton (s t : Text) : join s [t] = t := by
  rw [join, List.intercalate_singleton]

theorem join_cons_cons (s t u : Text) (ts : List Text) :
    join s (t :: u :: ts) = t ++ s ++ join s (u :: ts) := by
  rw [join, List.intercalate_cons_cons, List.append_assoc, List.append_assoc]
  rfl

/-- Two joins are set apart by one more separator. -/
theorem join_append (s : Text) {ts us : List Text} (ht : ts ≠ []) (hu : us ≠ []) :
    join s (ts ++ us) = join s ts ++ s ++ join s us := by
  induction ts with
  | nil => exact absurd rfl ht
  | cons t ts ih =>
    -- A separator stands between two parts only, so both sides have to be taken apart
    -- until their ends show.
    rcases us with _ | ⟨u, us⟩
    · exact absurd rfl hu
    · rcases ts with _ | ⟨v, ts⟩
      · rw [List.singleton_append, join_cons_cons, join_singleton]
      · have hrest := ih (List.cons_ne_nil v ts)
        rw [List.cons_append] at hrest
        rw [List.cons_append, List.cons_append, join_cons_cons, hrest, join_cons_cons]
        simp only [List.append_assoc]

/-- What comes first in a join begins it. -/
theorem join_isPrefix (s : Text) (ts us : List Text) : join s ts <+: join s (ts ++ us) := by
  by_cases ht : ts = []
  · rw [ht]
    exact List.nil_prefix
  · by_cases hu : us = []
    · have hsame : join s ts = join s (ts ++ us) := by rw [hu, List.append_nil]
      exact hsame ▸ List.prefix_rfl
    · rw [join_append s ht hu, List.append_assoc]
      exact List.prefix_append _ _

/-- What comes last in a join ends it. -/
theorem join_isSuffix (s : Text) (ts us : List Text) : join s us <:+ join s (ts ++ us) := by
  by_cases ht : ts = []
  · have hsame : join s us = join s (ts ++ us) := by rw [ht, List.nil_append]
    exact hsame ▸ List.suffix_rfl
  · by_cases hu : us = []
    · rw [hu]
      exact List.nil_suffix
    · rw [join_append s ht hu]
      exact List.suffix_append _ _

/-- Parts that are joined in groups are joined. -/
theorem join_map_join (s : Text) {groups : List (List Text)} (h : ∀ g ∈ groups, g ≠ []) :
    join s (groups.map (join s)) = join s groups.flatten := by
  induction groups with
  | nil => rfl
  | cons g groups ih =>
    have hg := h g List.mem_cons_self
    rcases groups with _ | ⟨k, groups⟩
    · rw [List.map_singleton, join_singleton, List.flatten_singleton]
    · have hrest := ih fun m hm => h m (List.mem_cons_of_mem g hm)
      -- The other groups have a part, so there is something to set the first apart from.
      have hk : (k :: groups).flatten ≠ [] := fun hnil =>
        h k (List.mem_cons_of_mem g List.mem_cons_self)
          (List.flatten_eq_nil_iff.1 hnil k List.mem_cons_self)
      rw [List.flatten_cons, join_append s hg hk, ← hrest, List.map_cons, List.map_cons,
        join_cons_cons]

/-- What follows the last part of a join follows the join. -/
theorem join_concat_append (s : Text) (ts : List Text) (t u : Text) :
    join s (ts ++ [t ++ u]) = join s (ts ++ [t]) ++ u := by
  by_cases hts : ts = []
  · rw [hts, List.nil_append, List.nil_append, join_singleton, join_singleton]
  · rw [join_append s hts (List.cons_ne_nil _ []), join_append s hts (List.cons_ne_nil _ []),
      join_singleton, join_singleton, List.append_assoc _ t u]

/-- With more of its last part a join goes on. -/
theorem join_concat_isPrefix (s : Text) (ts : List Text) {t u : Text} (h : t <+: u) :
    join s (ts ++ [t]) <+: join s (ts ++ [u]) := by
  rcases h with ⟨v, rfl⟩
  rw [join_concat_append]
  exact List.prefix_append _ _

/-- A character of a join is one of the separator or one of some part. -/
theorem mem_join {s : Text} {parts : List Text} {c : Char} (h : c ∈ join s parts) :
    c ∈ s ∨ ∃ t ∈ parts, c ∈ t := by
  induction parts with
  | nil => exact absurd h (List.not_mem_nil)
  | cons t parts ih =>
    rcases parts with _ | ⟨u, parts⟩
    · rw [join_singleton] at h
      exact Or.inr ⟨t, List.mem_singleton_self t, h⟩
    · rw [join_cons_cons, List.append_assoc, List.mem_append, List.mem_append] at h
      rcases h with h | h | h
      · exact Or.inr ⟨t, List.mem_cons_self, h⟩
      · exact Or.inl h
      · rcases ih h with h | ⟨v, hv, hc⟩
        · exact Or.inl h
        · exact Or.inr ⟨v, List.mem_cons_of_mem t hv, hc⟩

/-- A join is cut back into the parts it was made of, if no part holds a
    separator. -/
theorem splitWhere_join {p : Char → Bool} {s : Char} (hs : p s = true) {parts : List Text}
    (hne : parts ≠ []) (h : ∀ t ∈ parts, ∀ c ∈ t, p c = false) :
    splitWhere p (join [s] parts) = parts := by
  induction parts with
  | nil => exact absurd rfl hne
  | cons t parts ih =>
    have ht : splitWhere p t = [t] := splitWhere_of_forall (h t List.mem_cons_self)
    rcases parts with _ | ⟨u, parts⟩
    · rw [join_singleton, ht]
    · -- The first part runs up to the separator, and the rest is a join again.
      have hrest := ih (List.cons_ne_nil u parts) fun v hv => h v (List.mem_cons_of_mem t hv)
      rw [join_cons_cons, List.append_assoc, List.singleton_append, splitWhere_append_cons hs, ht,
        hrest, List.singleton_append]

/-- A piece of a text stands in the text and holds no separator. -/
theorem of_mem_splitWhere {p : Char → Bool} {t piece : Text} (h : piece ∈ splitWhere p t) :
    piece <:+: t ∧ ∀ c ∈ piece, p c = false := by
  suffices hsplit : ∀ (t : Text),
      (∀ q ∈ (splitWhere p t).head?, q <+: t ∧ ∀ c ∈ q, p c = false) ∧
        ∀ q ∈ splitWhere p t, q <:+: t ∧ ∀ c ∈ q, p c = false from (hsplit t).2 piece h
  -- Only the first piece can still grow at its front, so it has to be a beginning.
  intro t
  induction t with
  | nil => simp [splitWhere]
  | cons d t ih =>
    rw [splitWhere]
    by_cases hd : p d = true
    · rw [if_pos hd]
      refine ⟨by simp, fun q hq => ?_⟩
      rcases List.mem_cons.1 hq with rfl | hq
      · exact ⟨List.nil_infix, by simp⟩
      · exact ⟨List.infix_cons (ih.2 q hq).1, (ih.2 q hq).2⟩
    · rw [if_neg hd]
      rcases hs : splitWhere p t with _ | ⟨first, pieces⟩
      · exact absurd hs (splitWhere_ne_nil p t)
      · rw [hs] at ih
        have hfirst := ih.1 first (by simp)
        have hgrown : (d :: first) <+: d :: t ∧ ∀ c ∈ d :: first, p c = false := by
          refine ⟨List.cons_prefix_cons.2 ⟨rfl, hfirst.1⟩, fun c hc => ?_⟩
          rcases List.mem_cons.1 hc with rfl | hc
          · simpa using hd
          · exact hfirst.2 c hc
        refine ⟨by simpa using hgrown, fun q hq => ?_⟩
        rcases List.mem_cons.1 hq with rfl | hq
        · exact ⟨hgrown.1.isInfix, hgrown.2⟩
        · have := ih.2 q (List.mem_cons_of_mem first hq)
          exact ⟨List.infix_cons this.1, this.2⟩

/-! ### What stands inside a join -/

theorem isPrefix_of_append_cons {x t u : Text} {s : Char} (hx : s ∉ x) (h : x <+: t ++ s :: u) :
    x <+: t := by
  induction t generalizing x with
  | nil =>
    rcases x with _ | ⟨c, x⟩
    · exact List.nil_prefix
    · -- Past the end of the text comes the separator.
      rw [List.nil_append, List.cons_prefix_cons] at h
      exact absurd (h.1 ▸ List.mem_cons_self) hx
  | cons d t ih =>
    rcases x with _ | ⟨c, x⟩
    · exact List.nil_prefix
    · rw [List.cons_append, List.cons_prefix_cons] at h
      exact List.cons_prefix_cons.2 ⟨h.1, ih (fun hm => hx (List.mem_cons_of_mem c hm)) h.2⟩

/-- What is taken off the front and is without the separator stands before it. -/
theorem exists_of_append_eq_front {taken kept t u : Text} {s : Char}
    (h : t ++ s :: u = taken ++ kept) (hs : s ∉ taken) :
    ∃ t', t = taken ++ t' ∧ kept = t' ++ s :: u := by
  rcases isPrefix_of_append_cons hs ⟨kept, h.symm⟩ with ⟨t', rfl⟩
  rw [List.append_assoc] at h
  exact ⟨t', rfl, (List.append_cancel_left h).symm⟩

/-- What is taken off the end and is without the separator stands after it. -/
theorem exists_of_append_eq_end {kept taken t u : Text} {s : Char}
    (h : t ++ s :: u = kept ++ taken) (hs : s ∉ taken) :
    ∃ u', kept = t ++ s :: u' ∧ u = u' ++ taken := by
  rcases List.append_eq_append_iff.1 h with ⟨run, hkept, hrun⟩ | ⟨run, -, rfl⟩
  · rcases run with _ | ⟨c, run⟩
    · rw [List.nil_append] at hrun
      exact absurd (hrun ▸ List.mem_cons_self) hs
    · cases hrun
      exact ⟨run, hkept, rfl⟩
  · exact absurd (List.mem_append_right run List.mem_cons_self) hs

/-- A text without the separator stands on one side of it. -/
theorem isInfix_of_append_cons {x t u : Text} {s : Char} (hx : s ∉ x) (h : x <:+: t ++ s :: u) :
    x <:+: t ∨ x <:+: u := by
  induction t with
  | nil =>
    rcases List.infix_cons_iff.1 h with hp | hi
    · exact Or.inl (isPrefix_of_append_cons (t := []) hx hp).isInfix
    · exact Or.inr hi
  | cons d t ih =>
    -- It begins right here, and then it ends before the separator, or further on.
    rcases List.infix_cons_iff.1 h with hp | hi
    · exact Or.inl (isPrefix_of_append_cons (t := d :: t) hx hp).isInfix
    · rcases ih hi with hi | hi
      · exact Or.inl (List.infix_cons hi)
      · exact Or.inr hi

/-- A text without the separator that stands in a join stands in one of the
    parts. -/
theorem isInfix_of_join {x : Text} {s : Char} {parts : List Text} (hx : s ∉ x) (hne : x ≠ [])
    (h : x <:+: join [s] parts) : ∃ t ∈ parts, x <:+: t := by
  induction parts with
  | nil => exact absurd (List.infix_nil.1 h) hne
  | cons t parts ih =>
    rcases parts with _ | ⟨u, parts⟩
    · rw [join_singleton] at h
      exact ⟨t, List.mem_cons_self, h⟩
    · rw [join_cons_cons, List.append_assoc, List.singleton_append] at h
      rcases isInfix_of_append_cons hx h with h | h
      · exact ⟨t, List.mem_cons_self, h⟩
      · rcases ih h with ⟨v, hv, hin⟩
        exact ⟨v, List.mem_cons_of_mem t hv, hin⟩

/-- Every part of a join stands in it. -/
theorem isInfix_join_of_mem (s : Text) {t : Text} {ts : List Text} (h : t ∈ ts) :
    t <:+: join s ts := by
  rcases List.append_of_mem h with ⟨us, vs, rfl⟩
  have hfront : t <+: join s (t :: vs) := by
    have hprefix := join_isPrefix s [t] vs
    rwa [join_singleton] at hprefix
  exact hfront.isInfix.trans (join_isSuffix s us (t :: vs)).isInfix

/-! ### Lines -/

/-- Lines that are joined are cut back, if none holds a line feed. -/
theorem segments_join {ls : List Text} (h : ∀ l ∈ ls, '\n' ∉ l) (hne : ls ≠ []) :
    segments (join ['\n'] ls) = ls := by
  refine splitWhere_join (by decide) hne fun l hl c hc => ?_
  by_contra hn
  simp only [beq_iff_eq, Bool.not_eq_false] at hn
  exact h l hl (hn ▸ hc)

/-- Lines that are printed are read back, if moreover the last one is not
    empty. -/
theorem lines_join {ls : List Text} (h : ∀ l ∈ ls, '\n' ∉ l) (hlast : ls.getLast? ≠ some [])
    (hne : ls ≠ []) : lines (join ['\n'] ls) = ls := by
  rw [lines, segments_join h hne, if_neg hlast]

/-! ### Words -/

@[simp] theorem isBlank_space : isBlank ' ' = true := by decide

/-- The text is one word: it is not empty and holds no blank. -/
def IsWord (w : Text) : Prop := w ≠ [] ∧ ∀ c ∈ w, isBlank c = false

theorem isWord_of_mem_words {t w : Text} (h : w ∈ words t) : IsWord w := by
  rw [words, List.mem_filter] at h
  exact ⟨by simpa using h.2, (of_mem_splitWhere h.1).2⟩

/-- A word of a text stands in the text. -/
theorem isInfix_of_mem_words {t w : Text} (h : w ∈ words t) : w <:+: t := by
  rw [words, List.mem_filter] at h
  exact (of_mem_splitWhere h.1).1

@[simp] theorem words_nil : words [] = [] := by decide

/-- Words do not reach over a blank. -/
theorem words_append_blank {c : Char} (hc : isBlank c = true) (s t : Text) :
    words (s ++ c :: t) = words s ++ words t := by
  rw [words, splitWhere_append_cons hc, List.filter_append]
  rfl

theorem words_of_isWord {w : Text} (h : IsWord w) : words w = [w] := by
  -- The only piece is the word itself, and it is not empty.
  rw [words, splitWhere_of_forall h.2, List.filter_singleton]
  simp [h.1]

/-- The words of a join are those of its parts. -/
theorem words_join_eq_flatMap (ts : List Text) : words (join [' '] ts) = ts.flatMap words := by
  induction ts with
  | nil => exact words_nil
  | cons t ts ih =>
    rcases ts with _ | ⟨u, ts⟩
    · rw [join_singleton, List.flatMap_singleton]
    · rw [join_cons_cons, List.append_assoc, List.singleton_append, words_append_blank (by decide),
        ih]
      rfl

/-- Words set apart by single blanks are read back. -/
theorem words_join {ws : List Text} (h : ∀ w ∈ ws, IsWord w) : words (join [' '] ws) = ws :=
  calc words (join [' '] ws) = ws.flatMap words := words_join_eq_flatMap ws
    _ = ws.flatMap fun w => [w] := List.flatMap_congr fun w hw => words_of_isWord (h w hw)
    _ = ws := List.flatMap_singleton' ws

/-! ### Trimming -/

theorem dropSuffix?_eq_some_iff {ending t rest : Text} :
    dropSuffix? ending t = some rest ↔ t = rest ++ ending := by
  rw [dropSuffix?, Option.map_eq_some_iff]
  constructor
  · rintro ⟨u, hu, rfl⟩
    rw [dropPrefix?_eq_some_iff, List.reverse_eq_iff, List.reverse_append,
      List.reverse_reverse] at hu
    exact hu
  · rintro rfl
    refine ⟨rest.reverse, ?_, List.reverse_reverse rest⟩
    rw [dropPrefix?_eq_some_iff, List.reverse_append]

/-- A text that does not end in a character has none to drop. -/
theorem dropSuffix?_eq_none {c : Char} {t : Text} (h : t.getLast? ≠ some c) :
    dropSuffix? [c] t = none := by
  by_contra hsome
  rcases Option.ne_none_iff_exists'.1 hsome with ⟨u, hu⟩
  rw [dropSuffix?_eq_some_iff.1 hu, List.getLast?_concat] at h
  exact h rfl

/-- Dropping from the end is what the library calls dropping from the right. -/
theorem dropEndWhile_eq_rdropWhile (p : Char → Bool) (t : Text) :
    dropEndWhile p t = t.rdropWhile p := rfl

theorem dropEndWhile_isPrefix (p : Char → Bool) (t : Text) : dropEndWhile p t <+: t :=
  List.rdropWhile_prefix p t

/-- A beginning that does not end in the class is not reached by dropping from
    the end. -/
theorem isPrefix_dropEndWhile {p : Char → Bool} {u t : Text} (h : u <+: t)
    (hlast : ∀ c, u.getLast? = some c → p c = false) : u <+: dropEndWhile p t := by
  rcases h with ⟨v, rfl⟩
  rcases u.eq_nil_or_concat with rfl | ⟨u, c, rfl⟩
  · exact List.nil_prefix
  · have hc : p c = false := hlast c (by rw [List.concat_eq_append, List.getLast?_concat])
    have hstop : ¬ p c = true := by rw [hc]; decide
    rw [dropEndWhile, List.concat_eq_append, List.reverse_append, List.reverse_append,
      List.reverse_singleton, List.singleton_append, List.dropWhile_append]
    -- The end is dropped at most up to the last character of the beginning.
    split
    · have hkept : ((c :: u.reverse).dropWhile p).reverse = u ++ [c] := by
        rw [List.dropWhile_cons_of_neg hstop, List.reverse_cons, List.reverse_reverse]
      exact hkept.symm ▸ List.prefix_rfl
    · rw [List.reverse_append, List.reverse_cons, List.reverse_reverse]
      exact List.prefix_append _ _

/-- What is left does not end in a character of the class. -/
theorem of_getLast?_dropEndWhile {p : Char → Bool} {t : Text} {c : Char}
    (h : (dropEndWhile p t).getLast? = some c) : p c = false := by
  rw [dropEndWhile, List.getLast?_reverse] at h
  have hnot := List.head?_dropWhile_not p t.reverse
  rw [h] at hnot
  simpa using hnot

/-- Nothing is dropped from a text that does not end in the class. -/
theorem dropEndWhile_eq_self {p : Char → Bool} {t : Text}
    (h : ∀ c, t.getLast? = some c → p c = false) : dropEndWhile p t = t := by
  rw [dropEndWhile_eq_rdropWhile, List.rdropWhile_eq_self_iff]
  intro hne
  have := h (t.getLast hne) (List.getLast?_eq_some_getLast hne)
  simp [this]

/-- Nothing is dropped from a text that does not start in the class. -/
theorem dropWhile_eq_self {p : Char → Bool} {t : Text}
    (h : ∀ c, t.head? = some c → p c = false) : t.dropWhile p = t := by
  rcases t with _ | ⟨c, t⟩
  · rfl
  · exact List.dropWhile_cons_of_neg (by simp [h c rfl])

/-- A run of a class of characters is taken up to where it ends. -/
theorem takeWhile_append_of_ends {p : Char → Bool} {run rest : Text} (hrun : ∀ c ∈ run, p c = true)
    (hrest : ∀ c, rest.head? = some c → p c = false) :
    (run ++ rest).takeWhile p = run ∧ (run ++ rest).dropWhile p = rest := by
  have htake : rest.takeWhile p = [] := by
    rcases rest with _ | ⟨c, rest⟩
    · rfl
    · rw [List.takeWhile_cons_of_neg (by rw [hrest c rfl]; decide)]
  rw [List.takeWhile_append_of_pos hrun, htake, List.append_nil, List.dropWhile_append_of_pos hrun,
    dropWhile_eq_self hrest]
  exact ⟨rfl, rfl⟩

/-- What is left does not start with a character of the class. -/
theorem of_head?_dropWhile {p : Char → Bool} {t : Text} {c : Char}
    (h : (t.dropWhile p).head? = some c) : p c = false := by
  have hnot := List.head?_dropWhile_not p t
  rw [h] at hnot
  simpa using hnot

end Text

end Flowchart
