import Flowchart.Proofs.Acceptance
import Flowchart.Proofs.Survey

/-!
# How Lines End

A line may end in blanks, in semicolons, or in both. The grammar takes the outer
blanks off, then one semicolon, then the blanks before it. The linter takes off
the blanks at the end, then all semicolons, and then the blanks at the front.

Dropping from the front and dropping from the end can be done in either order,
so what the linter reads is the trimmed line without its closing semicolons. That
is what the grammar reads, with the blanks before the semicolon back in place,
unless there are several semicolons. The grammar then reads all of them but one.

The two also cut a text into lines differently. The linter has a piece for what
follows the last line feed, and takes a carriage return off every piece. Neither
shows in what it sees.

## Main definitions

* `Lint.statementSights`: What a statement shows.

## Theorems

* `Text.dropWhile_dropEndWhile`: Both ends of a text can be dropped in either
  order.
* `Lint.statementText_eq_append`: What the linter reads of a line, and what the
  grammar reads.
* `Grammar.isIdle_body_iff`: The lines that say nothing to either of them.
* `Lint.sights_eq`: The sights of a line are those of what the linter reads.
* `Lint.sights_withoutReturn`: A closing carriage return shows nothing.
-/

namespace Flowchart

namespace Text

/-! ### Both ends -/

theorem dropEndWhile_concat (p : Char → Bool) (t : Text) (c : Char) :
    dropEndWhile p (t ++ [c]) = if p c then dropEndWhile p t else t ++ [c] :=
  List.rdropWhile_concat p t c

theorem dropEndWhile_eq_nil_iff {p : Char → Bool} {t : Text} :
    dropEndWhile p t = [] ↔ ∀ c ∈ t, p c = true := List.rdropWhile_eq_nil_iff

/-- What is dropped from the end belongs to the class. -/
theorem exists_dropEndWhile_append (p : Char → Bool) (t : Text) :
    ∃ gap, (∀ c ∈ gap, p c = true) ∧ t = dropEndWhile p t ++ gap :=
  ⟨t.rtakeWhile p, fun _ hc => List.mem_rtakeWhile_imp hc,
    List.rdropWhile_append_rtakeWhile.symm⟩

/-- A text keeps its first character until all of it is dropped from the end. -/
theorem dropEndWhile_cons (p : Char → Bool) (c : Char) (t : Text) :
    dropEndWhile p (c :: t)
      = if dropEndWhile p t = [] ∧ p c = true then [] else c :: dropEndWhile p t := by
  have hsplit : dropEndWhile p (c :: t)
      = (if (t.reverse.dropWhile p).isEmpty then [c].dropWhile p
        else t.reverse.dropWhile p ++ [c]).reverse := by
    rw [dropEndWhile, List.reverse_cons, List.dropWhile_append]
  have hnil : dropEndWhile p t = [] ↔ (t.reverse.dropWhile p).isEmpty = true := by
    rw [dropEndWhile, List.reverse_eq_nil_iff, List.isEmpty_iff]
  -- The first character is at the end once all the others are dropped.
  by_cases hempty : dropEndWhile p t = []
  · rw [hsplit, if_pos (hnil.1 hempty)]
    by_cases hc : p c = true
    · rw [if_pos ⟨hempty, hc⟩, List.dropWhile_cons_of_pos hc]
      rfl
    · rw [if_neg fun h => hc h.2, List.dropWhile_cons_of_neg hc, hempty]
      rfl
  · rw [hsplit, if_neg fun h => hempty (hnil.2 h), if_neg fun h => hempty h.1, List.reverse_append]
    rfl

/-- Both ends of a text can be dropped in either order. -/
theorem dropWhile_dropEndWhile (p q : Char → Bool) (t : Text) :
    (dropEndWhile q t).dropWhile p = dropEndWhile q (t.dropWhile p) := by
  induction t with
  | nil => rfl
  | cons c t ih =>
    -- The induction is on the text. A character that is dropped from the front is also
    -- the last to go from the end.
    by_cases hc : p c = true
    · rw [List.dropWhile_cons_of_pos hc, ← ih, dropEndWhile_cons]
      split
      · rename_i hall
        rw [hall.1]
      · rw [List.dropWhile_cons_of_pos hc]
    · rw [List.dropWhile_cons_of_neg hc, dropEndWhile_cons]
      split
      · rfl
      · rw [List.dropWhile_cons_of_neg hc]

theorem trim_eq_trimStart_trimEnd (t : Text) : t.trim = t.trimEnd.trimStart :=
  (dropWhile_dropEndWhile isBlank isBlank t).symm

/-- A trimmed text ends in no blank. -/
theorem trimEnd_trim (t : Text) : Text.trimEnd t.trim = t.trim :=
  dropEndWhile_eq_self fun _ hc => of_getLast?_dropEndWhile hc

/-- A trimmed text starts with no blank. -/
theorem trimStart_trim (t : Text) : Text.trimStart t.trim = t.trim := by
  rw [trim_eq_trimStart_trimEnd]
  exact dropWhile_eq_self fun _ hc => of_head?_dropWhile hc

theorem isBlankText_cons_iff {c : Char} {t : Text} :
    isBlankText (c :: t) = true ↔ isBlank c = true ∧ t.isBlankText = true := by
  rw [isBlankText, List.all_cons, Bool.and_eq_true]
  rfl

/-- One more blank at the end is trimmed as well. -/
theorem trim_concat {c : Char} (hc : isBlank c = true) (t : Text) : trim (t ++ [c]) = t.trim := by
  have hend : trimEnd (t ++ [c]) = t.trimEnd := by
    rw [trimEnd, dropEndWhile_concat, if_pos hc]
    rfl
  rw [trim_eq_trimStart_trimEnd, hend, ← trim_eq_trimStart_trimEnd]

/-- So are any number of them. -/
theorem trim_append_of_isBlankText {gap : Text} (h : gap.isBlankText = true) (t : Text) :
    trim (t ++ gap) = t.trim := by
  induction gap generalizing t with
  | nil => rw [List.append_nil]
  | cons c gap ih =>
    rw [isBlankText_cons_iff] at h
    rw [List.append_cons, ih h.2, trim_concat h.1]

/-- One more blank at the beginning is trimmed as well. -/
theorem trim_cons {c : Char} (hc : isBlank c = true) (t : Text) : trim (c :: t) = t.trim := by
  rw [trim, trimStart, List.dropWhile_cons_of_pos hc]
  rfl

/-- Nothing is left of blanks when they are trimmed, and of no other text. -/
theorem trim_eq_nil_iff {t : Text} : t.trim = [] ↔ t.isBlankText = true := by
  rw [trim, trimEnd, dropEndWhile_eq_nil_iff, isBlankText, List.all_eq_true]
  refine ⟨fun h c hc => ?_, fun h c hc => h c ((List.dropWhile_suffix _).mem hc)⟩
  have hsplit : t.takeWhile isBlank ++ t.trimStart = t := List.takeWhile_append_dropWhile
  rw [← hsplit, List.mem_append] at hc
  exact hc.elim List.mem_takeWhile_imp (h c)

/-- A text without blanks at its ends is left as it is. -/
theorem trim_eq_self {t : Text} (hhead : ∀ c, t.head? = some c → isBlank c = false)
    (hlast : ∀ c, t.getLast? = some c → isBlank c = false) : t.trim = t := by
  rw [trim, trimStart, dropWhile_eq_self hhead, trimEnd, dropEndWhile_eq_self hlast]

/-- The pieces of a text are its lines, and after a line feed at the end an empty
    one. -/
theorem segments_eq_lines (t : Text) : t.segments = t.lines ∨ t.segments = t.lines ++ [[]] := by
  unfold lines
  dsimp only
  split
  · rename_i hlast
    exact Or.inr (List.dropLast_append_getLast? [] hlast).symm
  · exact Or.inl rfl

end Text

/-! ### What is read of a line -/

namespace Lint

/-- The linter reads a trimmed line without its closing semicolons. -/
theorem statementText_eq (raw : Text) :
    statementText raw = Text.dropEndWhile (· == ';') raw.trim := by
  rw [Text.trim_eq_trimStart_trimEnd]
  exact Text.dropWhile_dropEndWhile isBlank (· == ';') raw.trimEnd

/-- Several semicolons end a line. -/
def HasSemicolons (raw : Text) : Prop := [';', ';'] <:+ raw.trim

instance (raw : Text) : Decidable (HasSemicolons raw) :=
  inferInstanceAs (Decidable ([';', ';'] <:+ raw.trim))

/-- Unless there are several semicolons, the linter reads what the grammar reads
    with the blanks before the semicolon. -/
theorem statementText_eq_append {raw : Text} (h : ¬ HasSemicolons raw) :
    ∃ gap, (∀ c ∈ gap, isBlank c = true) ∧ statementText raw = Grammar.body raw ++ gap := by
  rw [statementText_eq, Grammar.body]
  rcases hsuffix : Text.dropSuffix? [';'] raw.trim with _ | front
  · -- Without a semicolon nothing is dropped by either of them.
    refine ⟨[], List.forall_mem_nil _, ?_⟩
    rw [Option.getD_none, Text.trimEnd_trim, List.append_nil]
    refine Text.dropEndWhile_eq_self fun c hc => ?_
    rw [beq_eq_false_iff_ne]
    rintro rfl
    rcases List.getLast?_eq_some_iff.1 hc with ⟨front, hfront⟩
    rw [Text.dropSuffix?_eq_some_iff.2 hfront] at hsuffix
    exact absurd hsuffix (by simp only [reduceCtorEq, not_false_eq_true])
  · rw [Text.dropSuffix?_eq_some_iff] at hsuffix
    have hlast : ∀ c, front.getLast? = some c → (c == ';') = false := by
      intro c hc
      rw [beq_eq_false_iff_ne]
      rintro rfl
      rcases List.getLast?_eq_some_iff.1 hc with ⟨more, hmore⟩
      exact h ⟨more, by rw [hsuffix, hmore, List.append_assoc]; rfl⟩
    rw [hsuffix, Option.getD_some, Text.dropEndWhile_concat, if_pos (by decide),
      Text.dropEndWhile_eq_self hlast]
    exact Text.exists_dropEndWhile_append isBlank front

/-- With several semicolons, the grammar reads all of them but one. -/
theorem body_of_hasSemicolons {raw : Text} (h : HasSemicolons raw) :
    (Grammar.body raw).getLast? = some ';' ∧ statementText raw <+: Grammar.body raw := by
  rcases h with ⟨front, hfront⟩
  have hsplit : raw.trim = (front ++ [';']) ++ [';'] := by rw [← hfront, List.append_assoc]; rfl
  have hbody : Grammar.body raw = front ++ [';'] := by
    rw [Grammar.body, hsplit, Text.dropSuffix?_eq_some_iff.2 rfl, Option.getD_some, Text.trimEnd,
      Text.dropEndWhile_concat, if_neg (by decide)]
  rw [statementText_eq, hbody, hsplit, List.getLast?_concat, Text.dropEndWhile_concat,
    if_pos (by decide)]
  exact ⟨rfl, Text.dropEndWhile_isPrefix _ _⟩

end Lint

namespace Grammar

/-- What the grammar reads is the beginning of a trimmed line. -/
theorem body_isPrefix (raw : Text) : body raw <+: raw.trim := by
  rw [body]
  rcases hsuffix : Text.dropSuffix? [';'] raw.trim with _ | front
  · exact Text.dropEndWhile_isPrefix _ _
  · rw [Text.dropSuffix?_eq_some_iff.1 hsuffix]
    exact (Text.dropEndWhile_isPrefix _ _).trans (List.prefix_append _ _)

/-- A line says nothing to the grammar if it says nothing to the linter, or if it
    is a semicolon. -/
theorem isIdle_body_iff (raw : Text) :
    isIdle (body raw) = true ↔ isIdle raw.trim = true ∨ raw.trim = [';'] := by
  have hidle : ∀ t : Text, isIdle t = true ↔ t = [] ∨ "%%".toList <+: t := by
    intro t
    rw [isIdle, Bool.or_eq_true, List.isEmpty_iff, List.isPrefixOf_iff_prefix]
  have hbody : body raw = Text.trimEnd ((Text.dropSuffix? [';'] raw.trim).getD raw.trim) := rfl
  rw [hidle, hidle]
  constructor
  · rintro (hnil | hcomment)
    · -- Nothing is left, so there were at most a semicolon and blanks before it.
      rcases hsuffix : Text.dropSuffix? [';'] raw.trim with _ | front
      · rw [hbody, hsuffix, Option.getD_none, Text.trimEnd_trim] at hnil
        exact Or.inl (Or.inl hnil)
      · rw [hbody, hsuffix, Option.getD_some] at hnil
        rw [Text.dropSuffix?_eq_some_iff] at hsuffix
        have hblank : ∀ c ∈ front, isBlank c = true := Text.dropEndWhile_eq_nil_iff.1 hnil
        have hstart := Text.trimStart_trim raw
        rw [hsuffix, Text.trimStart, List.dropWhile_append_of_pos hblank] at hstart
        exact Or.inr (hsuffix.trans hstart.symm)
    · exact Or.inl (Or.inr (hcomment.trans (body_isPrefix raw)))
  · rintro ((hnil | hcomment) | hsemicolon)
    · rw [hbody, hnil]
      exact Or.inl rfl
    · refine Or.inr ?_
      have hlast : ∀ c, "%%".toList.getLast? = some c → isBlank c = false ∧ c ≠ ';' := by
        rintro c ⟨⟩
        decide
      rw [hbody]
      refine Text.isPrefix_dropEndWhile ?_ fun c hc => (hlast c hc).1
      rcases hsuffix : Text.dropSuffix? [';'] raw.trim with _ | front
      · exact hcomment
      · rw [Text.dropSuffix?_eq_some_iff] at hsuffix
        rw [Option.getD_some]
        rcases List.prefix_concat_iff.1 (hsuffix ▸ hcomment) with heq | hbegins
        · -- The semicolon that is taken off is none of the characters of `%%`.
          have hpercent := hlast ';' (by rw [heq, List.getLast?_concat])
          exact absurd rfl hpercent.2
        · exact hbegins
    · rw [hbody, hsemicolon]
      exact Or.inl rfl

end Grammar

/-! ### What a line shows -/

namespace Lint

/-- What a statement shows. -/
def statementSights (t : Text) : List Sight := (statementAt ⟨0, t⟩).map Mark.sight

/-- A line that says something shows what the linter reads of it, and its first
    typographic character. -/
theorem sights_eq (raw : Text) :
    sights raw = if Grammar.isIdle raw.trim then []
      else Survey.headerSights raw ++ statementSights (statementText raw) := by
  rw [sights, lineMarks]
  split
  · rfl
  · rcases exists_statement_eq 0 raw with ⟨c, hc, hstatement⟩
    rw [hstatement, List.map_append, ← Option.toList_map, sight_typographicMark?]
    exact congrArg _ (statementAt_congr hc)

theorem sights_of_isIdle {raw : Text} (h : Grammar.isIdle raw.trim = true) : sights raw = [] := by
  rw [sights_eq, if_pos h]

/-- A closing carriage return makes no difference to what the linter reads, and is
    no typographic character. -/
theorem withoutReturn_spec (raw : Text) :
    (Survey.withoutReturn raw).trim = raw.trim ∧
      Survey.headerSights (Survey.withoutReturn raw) = Survey.headerSights raw := by
  rw [Survey.withoutReturn]
  rcases hsuffix : Text.dropSuffix? ['\r'] raw with _ | front
  · exact ⟨rfl, rfl⟩
  · rw [Text.dropSuffix?_eq_some_iff] at hsuffix
    -- A carriage return is a blank, so trimming drops it in any case.
    rw [Option.getD_some, hsuffix, Text.trim_concat (by decide), Survey.headerSights,
      Survey.headerSights, List.find?_append]
    refine ⟨rfl, ?_⟩
    have hreturn : ['\r'].find? isTypographic = none := by decide +kernel
    rw [hreturn, Option.or_none]

theorem statementText_congr {raw other : Text} (h : raw.trim = other.trim) :
    statementText raw = statementText other := by
  rw [statementText_eq, statementText_eq, h]

/-- A closing carriage return shows nothing. -/
theorem sights_withoutReturn (raw : Text) : sights (Survey.withoutReturn raw) = sights raw := by
  rcases withoutReturn_spec raw with ⟨htrim, hheader⟩
  rw [sights_eq, sights_eq, htrim, hheader, statementText_congr htrim]

end Lint

end Flowchart
