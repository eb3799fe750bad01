import Flowchart.Grammar.Check
import Flowchart.Proofs.Statement

/-!
# Accepted Texts

From lines to texts. A section is a list of lines that can be read wherever the
header has been read and that leaves as many blocks open as there were before,
whatever that number is. Sections can be put one after another, and between the
line that opens a block and the one that closes it, so a text is accepted if it
is a header followed by a section.

The number of open blocks is left free on purpose. That is what lets a section
stand inside a block.

A line is read without its outer blanks and without one closing semicolon. A
firm line has neither, apart from an indentation, so it is read as it stands.

## Main definitions

* `Grammar.IsFirm`: A line that is read as it stands.
* `Grammar.IsSection`: Lines that can be read anywhere after the header.

## Theorems

* `Grammar.body_indented`: A firm line is read as it stands.
* `Grammar.isSection_line`, `Grammar.isSection_indented`,
  `Grammar.isSection_comment`: Sections of one line.
* `Grammar.IsSection.append`, `Grammar.isSection_flatten`,
  `Grammar.IsSection.block`: Sections made of sections.
* `Grammar.check_join`: A header and a section are accepted.
-/

namespace Flowchart

namespace Grammar

open Identifier

/-- A printable line that starts with a character of a word and ends in neither
    a blank nor a semicolon. -/
structure IsFirm (l : Text) : Prop where
  head : ∃ c, l.head? = some c ∧ isWordChar c = true
  last : ∀ c, l.getLast? = some c → isBlank c = false ∧ c ≠ ';'
  printable : ∀ c ∈ l, isPrintable c = true

/-- Lines that can be read anywhere after the header, and that leave as many
    blocks open as they find. -/
structure IsSection (ls : List Text) : Prop where
  printable : ∀ l ∈ ls, l ≠ [] ∧ ∀ c ∈ l, isPrintable c = true
  balanced : ∀ q : Progress, q.headerSeen = true →
    ls.foldlM Progress.line q = .ok { q with lines := q.lines + ls.length }

/-! ### Firm lines -/

theorem IsFirm.ne_nil {l : Text} (h : IsFirm l) : l ≠ [] := by
  rintro rfl
  rcases h.head with ⟨c, hc, -⟩
  exact absurd hc (by simp only [List.head?_nil, reduceCtorEq, not_false_eq_true])

/-- A line is firm if its beginning and its end are. -/
theorem isFirm_append {front back : Text} (hfront : ∃ c, front.head? = some c ∧ isWordChar c = true)
    (hne : back ≠ []) (hback : ∀ c, back.getLast? = some c → isBlank c = false ∧ c ≠ ';')
    (hprint : ∀ c ∈ front ++ back, isPrintable c = true) : IsFirm (front ++ back) where
  head := by
    rcases hfront with ⟨c, hc, hword⟩
    exact ⟨c, by rw [List.head?_append, hc]; rfl, hword⟩
  last c hc := by
    rw [List.getLast?_append_of_ne_nil _ hne] at hc
    exact hback c hc
  printable := hprint

/-- The beginning and the end of a name are those of a firm line. -/
theorem isFirm_name {id : Text} (h : IsName id) : IsFirm id where
  head := by
    rcases (isLegal_iff.1 h.legal).1 with ⟨c, hc, hstart⟩
    exact ⟨c, hc, isWordChar_of_isStart hstart⟩
  last c hc := by
    have hword : isWordChar c = true := h.isWordChar c (List.mem_of_mem_getLast? hc)
    refine ⟨not_isBlank_of_isWordChar hword, ?_⟩
    rintro rfl
    exact absurd hword (by decide)
  printable c hc := isPrintable_of_isWordChar (h.isWordChar c hc)

/-- A firm line has no blanks at its ends but its indentation. -/
theorem trimStart_indented {indent l : Text} (hindent : ∀ c ∈ indent, isBlank c = true)
    (h : IsFirm l) : Text.trimStart (indent ++ l) = l := by
  rcases h.head with ⟨c, hc, hword⟩
  rw [Text.trimStart, List.dropWhile_append_of_pos hindent, Text.dropWhile_eq_self]
  intro d hd
  rw [hc, Option.some.injEq] at hd
  exact hd ▸ not_isBlank_of_isWordChar hword

theorem trimEnd_indented (indent : Text) {l : Text} (h : IsFirm l) :
    Text.trimEnd (indent ++ l) = indent ++ l := by
  refine Text.dropEndWhile_eq_self fun c hc => ?_
  rw [List.getLast?_append_of_ne_nil _ h.ne_nil] at hc
  exact (h.last c hc).1

theorem trim_indented {indent l : Text} (hindent : ∀ c ∈ indent, isBlank c = true)
    (h : IsFirm l) : Text.trim (indent ++ l) = l := by
  rw [Text.trim, trimStart_indented hindent h]
  exact trimEnd_indented [] h

/-- A firm line is read as it stands, without its indentation. -/
theorem body_indented {indent l : Text} (hindent : ∀ c ∈ indent, isBlank c = true)
    (h : IsFirm l) : body (indent ++ l) = l := by
  have hend : Text.trimEnd l = l := trimEnd_indented [] h
  have hsemicolon : Text.dropSuffix? [';'] l = none :=
    Text.dropSuffix?_eq_none fun hlast => (h.last ';' hlast).2 rfl
  rw [body, trim_indented hindent h, hsemicolon, Option.getD_none, hend]

/-- A line that begins with a character of a word says something. -/
theorem not_isIdle_of_head {l : Text} {c : Char} (hc : l.head? = some c)
    (hword : isWordChar c = true) : isIdle l = false := by
  rcases List.head?_eq_some_iff.1 hc with ⟨more, rfl⟩
  have hpercent : ('%' == c) = false := by
    rw [beq_eq_false_iff_ne]
    rintro rfl
    exact absurd hword (by decide)
  have hcomment : "%%".toList.isPrefixOf (c :: more) = false := by
    have hcons : "%%".toList.isPrefixOf (c :: more) = ('%' == c && ['%'].isPrefixOf more) := rfl
    rw [hcons, hpercent, Bool.false_and]
  rw [isIdle, hcomment]
  rfl

theorem not_isIdle_of_isFirm {l : Text} (h : IsFirm l) : isIdle l = false := by
  rcases h.head with ⟨c, hc, hword⟩
  exact not_isIdle_of_head hc hword

/-! ### One line -/

/-- After the header, a line in ASCII that says something is read as a statement. -/
theorem read_statement {raw : Text} (hbusy : isIdle (body raw) = false)
    (hascii : ∀ c ∈ body raw, isAsciiChar c = true) {q : Progress} (hq : q.headerSeen = true) :
    q.read raw = (statement (body raw) >>= fun e => e.apply q.depth).map
      fun depth => { q with depth } := by
  have hplain : (body raw).find? (!isAsciiChar ·) = none := by
    rw [List.find?_eq_none]
    intro c hc hforeign
    rw [hascii c hc] at hforeign
    exact absurd hforeign (by decide)
  simp only [Progress.read, hbusy, hq, hplain, Bool.not_true, Bool.false_eq_true, if_false]
  cases statement (body raw) with
  | error cause => rfl
  | ok e => cases hdepth : e.apply q.depth <;> simp only [bind, Except.bind, hdepth] <;> rfl

/-- A firm line does what its statement does. -/
theorem line_firm {indent l : Text} (hindent : ∀ c ∈ indent, isBlank c = true) (h : IsFirm l)
    {e : Effect} (hstatement : statement l = .ok e) {q : Progress} (hq : q.headerSeen = true)
    {depth : Nat} (hdepth : e.apply q.depth = .ok depth) :
    q.line (indent ++ l) = .ok { q with depth, lines := q.lines + 1 } := by
  have hbody := body_indented hindent h
  have hbusy : isIdle (body (indent ++ l)) = false := by rw [hbody, not_isIdle_of_isFirm h]
  have hascii : ∀ c ∈ body (indent ++ l), isAsciiChar c = true := by
    rw [hbody]
    exact fun c hc => isAsciiChar_of_isPrintable (h.printable c hc)
  have hread : q.read (indent ++ l) = .ok { q with depth } := by
    rw [read_statement hbusy hascii hq, hbody, hstatement]
    simp only [bind, Except.bind, hdepth]
    rfl
  unfold Progress.line
  rw [hread]

/-- A line that says nothing is only counted. -/
theorem line_idle {raw : Text} (h : isIdle (body raw) = true) (q : Progress) :
    q.line raw = .ok { q with lines := q.lines + 1 } := by
  have hread : q.read raw = .ok q := by
    unfold Progress.read
    simp only [h, if_true]
  unfold Progress.line
  rw [hread]

theorem isSection_of_line {raw : Text} (hne : raw ≠ [])
    (hprint : ∀ c ∈ raw, isPrintable c = true)
    (h : ∀ q : Progress, q.headerSeen = true → q.line raw = .ok { q with lines := q.lines + 1 }) :
    IsSection [raw] where
  printable l hl := by
    rw [List.mem_singleton.1 hl]
    exact ⟨hne, hprint⟩
  balanced q hq := by
    rw [List.foldlM_cons, h q hq]
    rfl

/-- An indented statement that opens and closes nothing is a section. -/
theorem isSection_indented (indent : Text) {l : Text} (hindent : ∀ c ∈ indent, c = ' ')
    (h : IsFirm l) (hstatement : statement l = .ok .none) : IsSection [indent ++ l] := by
  have hblank : ∀ c ∈ indent, isBlank c = true := fun c hc => hindent c hc ▸ Text.isBlank_space
  refine isSection_of_line (fun hnil => h.ne_nil (List.append_eq_nil_iff.1 hnil).2)
    (fun c hc => ?_) fun q hq => line_firm hblank h hstatement hq rfl
  rcases List.mem_append.1 hc with hc | hc
  · rw [hindent c hc]
    decide
  · exact h.printable c hc

/-- A statement that opens and closes nothing is a section. -/
theorem isSection_line {l : Text} (h : IsFirm l) (hstatement : statement l = .ok .none) :
    IsSection [l] :=
  isSection_indented [] (fun _ hc => absurd hc List.not_mem_nil) h hstatement

/-- A comment stays one when its end is trimmed, if there is something on it. -/
theorem isSection_comment {l rest : Text} (hl : l = "%% ".toList ++ rest)
    (hhead : ∃ c, rest.head? = some c ∧ isWordChar c = true)
    (hprint : ∀ c ∈ l, isPrintable c = true) : IsSection [l] := by
  rcases hhead with ⟨c, hc, hword⟩
  have hfront : ∀ d, ("%% ".toList ++ [c]).getLast? = some d → isBlank d = false ∧ d ≠ ';' := by
    intro d hd
    rw [List.getLast?_concat, Option.some.injEq] at hd
    rw [← hd]
    refine ⟨not_isBlank_of_isWordChar hword, ?_⟩
    rintro rfl
    exact absurd hword (by decide)
  have hbegin : "%% ".toList ++ [c] <+: l := by
    rcases rest with _ | ⟨d, rest⟩
    · exact absurd hc (by simp only [List.head?_nil, reduceCtorEq, not_false_eq_true])
    · rw [List.head?_cons, Option.some.injEq] at hc
      exact ⟨rest, by rw [hl, hc, List.append_assoc, List.singleton_append]⟩
  -- None of the steps that shorten the line reaches its first word.
  have htrim : "%% ".toList ++ [c] <+: Text.trim l := by
    have hstart : Text.trimStart l = l := by rw [hl]; rfl
    rw [Text.trim, hstart]
    exact Text.isPrefix_dropEndWhile hbegin fun d hd => (hfront d hd).1
  have hbody : "%% ".toList ++ [c] <+: body l := by
    refine Text.isPrefix_dropEndWhile ?_ fun d hd => (hfront d hd).1
    rcases hdrop : Text.dropSuffix? [';'] l.trim with _ | u
    · exact htrim
    · rw [Text.dropSuffix?_eq_some_iff.1 hdrop] at htrim
      rw [Option.getD_some]
      rcases List.prefix_concat_iff.1 htrim with heq | hprefix
      · have hlast := hfront ';' (by rw [heq, List.getLast?_concat])
        exact absurd rfl hlast.2
      · exact hprefix
  have hidle : isIdle (body l) = true := by
    have hpercent : "%%".toList <+: body l := List.IsPrefix.trans ⟨[' ', c], rfl⟩ hbody
    rw [isIdle, List.isPrefixOf_iff_prefix.2 hpercent, Bool.or_true]
  exact isSection_of_line (by rw [hl]; exact List.cons_ne_nil _ _) hprint
    fun q _ => line_idle hidle q

/-! ### Several lines -/

theorem isSection_nil : IsSection [] where
  printable _ hl := absurd hl List.not_mem_nil
  balanced _ _ := rfl

/-- One section after another. -/
theorem IsSection.append {ls ms : List Text} (hl : IsSection ls) (hm : IsSection ms) :
    IsSection (ls ++ ms) where
  printable l h := (List.mem_append.1 h).elim (hl.printable l) (hm.printable l)
  balanced q hq := by
    have hfirst := hl.balanced q hq
    have hsecond := hm.balanced { q with lines := q.lines + ls.length } hq
    rw [List.foldlM_append, hfirst]
    simp only [bind, Except.bind, hsecond, List.length_append, Nat.add_assoc]

/-- Many sections one after another. -/
theorem isSection_flatten {lss : List (List Text)} (h : ∀ ls ∈ lss, IsSection ls) :
    IsSection lss.flatten := by
  induction lss with
  | nil => exact isSection_nil
  | cons ls lss ih =>
    rw [List.flatten_cons]
    exact (h ls List.mem_cons_self).append (ih fun ms hms => h ms (List.mem_cons_of_mem ls hms))

theorem isFirm_end : IsFirm "end".toList where
  head := ⟨'e', rfl, by decide⟩
  last c hc := by
    have hd : c = 'd' := (Option.some.inj hc).symm
    rw [hd]
    decide
  printable := List.all_eq_true.1 (by decide)

/-- A section between the line that opens a block and the one that closes it. -/
theorem IsSection.block {opening : Text} {ls : List Text} (hopening : IsFirm opening)
    (hstatement : statement opening = .ok .opens) (h : IsSection ls) :
    IsSection (opening :: ls ++ ["end".toList]) where
  printable l hl := by
    rw [List.cons_append, List.mem_cons, List.mem_append, List.mem_singleton] at hl
    rcases hl with rfl | hl | rfl
    · exact ⟨hopening.ne_nil, hopening.printable⟩
    · exact h.printable l hl
    · exact ⟨isFirm_end.ne_nil, isFirm_end.printable⟩
  balanced q hq := by
    have hnone : ∀ c ∈ ([] : Text), isBlank c = true := fun c hc => absurd hc List.not_mem_nil
    have hopen : q.line opening = .ok { q with depth := q.depth + 1, lines := q.lines + 1 } :=
      line_firm hnone hopening hstatement hq rfl
    have hinner := h.balanced { q with depth := q.depth + 1, lines := q.lines + 1 } hq
    -- The block that was opened is the one that is closed.
    have hclose : Progress.line
        { q with depth := q.depth + 1, lines := q.lines + 1 + ls.length } "end".toList
        = .ok { q with lines := q.lines + 1 + ls.length + 1 } := by
      have hcloses : Effect.closes.apply (q.depth + 1) = .ok q.depth := rfl
      exact line_firm (q := { q with depth := q.depth + 1, lines := q.lines + 1 + ls.length })
        hnone isFirm_end rfl hq hcloses
    have hlength : q.lines + (opening :: ls ++ ["end".toList]).length
        = q.lines + 1 + ls.length + 1 := by
      rw [List.length_append, List.length_cons, List.length_singleton]
      omega
    rw [List.cons_append, List.foldlM_cons, hopen]
    simp only [bind, Except.bind]
    rw [List.foldlM_append, hinner]
    simp only [bind, Except.bind, List.foldlM_cons, List.foldlM_nil, hclose]
    rw [← List.cons_append, hlength]
    rfl

/-! ### Texts -/

theorem isPrintable_header (direction : Direction) :
    ∀ c ∈ "flowchart ".toList ++ direction.keyword.toList, isPrintable c = true := by
  refine List.all_eq_true.1 ?_
  cases direction <;> decide

/-- The line that opens a diagram is read as a header. -/
theorem line_header (direction : Direction) :
    Progress.line {} ("flowchart ".toList ++ direction.keyword.toList)
      = .ok { headerSeen := true, lines := 1 } := by
  cases direction <;> decide +kernel

/-- A header and a section are accepted. -/
theorem check_join (direction : Direction) {ls : List Text} (h : IsSection ls) :
    check (Text.join ['\n'] (("flowchart ".toList ++ direction.keyword.toList) :: ls))
      = .ok () := by
  have hlines : Text.lines
      (Text.join ['\n'] (("flowchart ".toList ++ direction.keyword.toList) :: ls))
      = ("flowchart ".toList ++ direction.keyword.toList) :: ls := by
    -- Printable lines hold no line feed, and none of them is empty.
    refine Text.lines_join (fun l hl hfeed => ?_) (fun hlast => ?_) (List.cons_ne_nil _ _)
    · have hprint : ∀ c ∈ l, isPrintable c = true := by
        rcases List.mem_cons.1 hl with rfl | hl
        · exact isPrintable_header direction
        · exact (h.printable l hl).2
      exact absurd (hprint '\n' hfeed) (by decide)
    · rcases List.mem_cons.1 (List.mem_of_getLast? hlast) with hnil | hmem
      · exact absurd hnil.symm (List.cons_ne_nil _ _)
      · exact (h.printable [] hmem).1 rfl
  -- No block was open before the section, so none is in the end.
  have hread := h.balanced { headerSeen := true, lines := 1 } rfl
  rw [check, hlines, List.foldlM_cons, line_header]
  simp only [bind, Except.bind, hread]
  rfl

end Grammar

end Flowchart
