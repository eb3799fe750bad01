import Flowchart.Proofs.FalseAlarm
import Flowchart.Proofs.Node
import Mathlib.Data.List.TFAE
import Mathlib.Tactic.TFAE

/-!
# Closing Delimiters

A label that holds the closing delimiter of its shape is the one hazard of the format
that quotes do not help against. Three parts of the program look out for it, and each
in its own way. The grammar ends a label at the first closing delimiter and then asks
whether what it has taken is a label. The linter ends it at the first quote with the
delimiter behind, and then looks into what stands between. The choice of a shape does
not read a line at all, and looks for the character.

They cannot be compared step by step, so each is compared with the fourth and simplest
account, that the character is not there. For the grammar this needs that a body cut
off before its closing quote is never a label, neither a quoted one nor a bare one.

The line stands under a header, and what a report says of the header must not be taken
for a remark on the label. A header that the grammar reads and the linter does not is
one of three, so these are gone through.

## Main definitions

* `Lint.declarationLine`: The line that declares a node with a label in quotes.
* `Lint.collective`: The codes of findings that no single line is at fault for.
* `Lint.Faults`: Some sight is a fault of a code.

## Theorems

* `Grammar.check_eq_ok_iff_of_lines`: One statement under a header.
* `Grammar.statement_declarationLine_iff`: What the grammar makes of the line.
* `Lint.exists_code_iff`: Where a finding of a code comes from.
* `Lint.sights_declarationLine`: What the linter sees of the line.
* `Lint.tfae_notMem_closer`: All four accounts agree.
-/

namespace Flowchart

namespace Lint

open Identifier

/-- The line that declares a node with a label in quotes. -/
def declarationLine (id : Text) (shape : Shape) (label : Text) : Text :=
  id ++ shape.opener :: '"' :: (label ++ ['"', shape.closer])

section DeclarationLine

variable {id : Text} (shape : Shape) (label : Text)

theorem getLast?_declarationLine (id : Text) :
    (declarationLine id shape label).getLast? = some shape.closer := by
  have hsplit : declarationLine id shape label
      = (id ++ shape.opener :: '"' :: (label ++ ['"'])) ++ [shape.closer] := by
    simp only [declarationLine, List.append_assoc, List.cons_append, List.nil_append]
  rw [hsplit, List.getLast?_concat]

theorem head?_declarationLine (h : IsId id) :
    ∃ c, (declarationLine id shape label).head? = some c ∧ isWordChar c = true := by
  rcases hid : id with _ | ⟨c, id'⟩
  · exact absurd hid h.ne_nil
  · exact ⟨c, rfl, h.isWordChar c (hid ▸ List.mem_cons_self)⟩

theorem not_isIdle_declarationLine (h : IsId id) :
    Grammar.isIdle (declarationLine id shape label) = false := by
  rcases head?_declarationLine shape label h with ⟨c, hc, hword⟩
  exact Grammar.not_isIdle_of_head hc hword

/-- There is nothing around the line to be left out. -/
theorem trim_declarationLine (h : IsId id) :
    Text.trim (declarationLine id shape label) = declarationLine id shape label := by
  have hcloser : isBlank shape.closer = false := by cases shape <;> decide
  refine Text.trim_eq_self (fun c hc => ?_) fun c hc => ?_
  · rcases head?_declarationLine shape label h with ⟨d, hd, hword⟩
    rw [hd, Option.some.injEq] at hc
    exact hc ▸ not_isBlank_of_isWordChar hword
  · rw [getLast?_declarationLine, Option.some.injEq] at hc
    exact hc ▸ hcloser

/-- The grammar reads all of the line. -/
theorem body_declarationLine (h : IsId id) :
    Grammar.body (declarationLine id shape label) = declarationLine id shape label := by
  have htrim := trim_declarationLine shape label h
  have hsuffix : Text.dropSuffix? [';'] (declarationLine id shape label) = none := by
    refine Text.dropSuffix?_eq_none ?_
    rw [getLast?_declarationLine]
    cases shape <;> decide
  rw [Grammar.body, htrim, hsuffix, Option.getD_none, ← htrim, Text.trimEnd_trim]

theorem isAsciiChar_declarationLine (h : IsId id) {label : Text}
    (hascii : ∀ c ∈ label, isAsciiChar c = true) :
    ∀ c ∈ declarationLine id shape label, isAsciiChar c = true := by
  have hdelimiters : isAsciiChar shape.opener = true ∧ isAsciiChar shape.closer = true := by
    cases shape <;> decide
  intro c hc
  simp only [declarationLine, List.mem_append, List.mem_cons, List.not_mem_nil, or_false] at hc
  rcases hc with hc | rfl | rfl | hc | rfl | rfl
  · exact isAsciiChar_of_isWordChar (h.isWordChar c hc)
  · exact hdelimiters.1
  · decide
  · exact hascii c hc
  · decide
  · exact hdelimiters.2

end DeclarationLine

end Lint

namespace Grammar

open Identifier Lint

/-! ### The grammar -/

/-- A header says something. -/
theorem not_isIdle_of_header {line : Text} (h : header line = .ok ()) : isIdle line = false := by
  rcases exists_word_append line with ⟨more, hline, -⟩
  rcases word_of_header h with hword | hword
  · rw [hline, hword]
    exact not_isIdle_of_head (c := 'f') rfl (by decide)
  · rw [hline, hword]
    exact not_isIdle_of_head (c := 'g') rfl (by decide)

theorem opens_of_header {t h : Text} {after : List Text} (hlines : t.lines = h :: after)
    (hheader : header (body h) = .ok ()) : Opens t h [] after ∧ h.trim ≠ [';'] := by
  have hbusy := not_isIdle_of_header hheader
  rw [Bool.eq_false_iff, Ne, isIdle_body_iff, not_or] at hbusy
  exact ⟨⟨hlines, List.forall_mem_nil _, Bool.eq_false_iff.2 hbusy.1⟩, hbusy.2⟩

/-- A header with one line under it is accepted if the line is a statement that leaves
    the blocks alone. -/
theorem check_eq_ok_iff_of_lines {t h line : Text} (hlines : t.lines = [h, line])
    (hheader : header (body h) = .ok ()) (hbody : isIdle (body line) = false)
    (hascii : ∀ c ∈ body line, isAsciiChar c = true) :
    check t = .ok () ↔ statement (body line) = .ok .none := by
  rcases opens_of_header hlines hheader with ⟨hopens, hne⟩
  have hread := read_statement (q := { headerSeen := true, lines := 1 }) hbody hascii rfl
  rw [check_eq_of_opens hopens hne, hheader]
  dsimp only
  rw [List.length_nil, Nat.zero_add, List.foldlM_cons, Progress.line, hread]
  -- A block that is opened stays open, and there is none to be closed.
  cases statement (body line) with
  | error cause => exact iff_of_false (fun h => by cases h) (fun h => by cases h)
  | ok e =>
    cases e with
    | none => exact iff_of_true rfl rfl
    | opens => exact iff_of_false (fun h => by cases h) (fun h => by cases h)
    | closes => exact iff_of_false (fun h => by cases h) (fun h => by cases h)

/-- A line that begins with an id is read as a chain of nodes. -/
theorem statement_eq_ok_iff_of_isId {id rest : Text} (h : IsId id) (hrest : Ends rest) :
    statement (id ++ rest) = .ok .none ↔
      ∃ closed after, nodeRef (id ++ rest) = .ok (closed, after) ∧ IsChain after := by
  constructor
  · intro hstatement
    rcases statement_eq_ok hstatement with ⟨-, hnone⟩ | ⟨-, hnone⟩ | ⟨k, hk, hword, -⟩ |
      ⟨closed, after, hnode, hchain, -⟩
    · cases hnone
    · cases hnone
    · have hkeyword := isReserved_of_mem_statementWords (List.mem_cons_of_mem _ hk)
      exact absurd hword (word_ne_of_isReserved h hrest hkeyword.1 hkeyword.2)
    · exact ⟨closed, after, hnode, hchain⟩
  · rintro ⟨closed, after, hnode, hchain⟩
    exact statement_node h hrest hnode (chain_eq_ok_iff.2 hchain)

/-- A label in quotes is read to its end just if it does not hold its closing
    delimiter. -/
theorem label_quoted_iff (shape : Shape) {inner : Text} (hquote : '"' ∉ inner) (rest : Text) :
    (∃ after, label shape ('"' :: inner ++ '"' :: shape.closer :: rest) = .ok after) ↔
      shape.closer ∉ inner := by
  refine ⟨?_, fun hcloser => ⟨rest, label_quoted shape hquote hcloser rest⟩⟩
  rintro ⟨after, hlabel⟩
  rcases label_eq_ok_iff.1 hlabel with ⟨body, hbody, hcloser, hlabel⟩
  rcases isLabel_iff.1 hlabel with ⟨inner', rfl, hquote'⟩ | hbare
  · -- What stands in the quotes is the same, however the text is taken apart.
    have hinner : inner = inner' := by
      have hread := labelInside?_quoted shape hquote rest
      rw [hbody, List.append_assoc, List.singleton_append,
        labelInside?_quoted shape hquote' after, Option.some.injEq, Prod.mk.injEq,
        Prod.mk.injEq] at hread
      exact hread.2.1.symm
    rw [hinner]
    exact fun hmem => hcloser (List.mem_append_left _ (List.mem_cons_of_mem _ hmem))
  · -- A body without quotes would have to stand before the opening one.
    rcases body with _ | ⟨c, body⟩
    · exact absurd (List.cons.inj hbody).1 (by cases shape <;> decide)
    · exact absurd (List.cons.inj hbody).1.symm (hbare c List.mem_cons_self).1

/-- The grammar reads the line just if the label does not hold the closing
    delimiter. -/
theorem statement_declarationLine_iff {id s : Text} {shape : Shape} (hid : IsId id)
    (hquote : '"' ∉ s) :
    statement (declarationLine id shape s) = .ok .none ↔ shape.closer ∉ s := by
  have hnode : nodeRef (declarationLine id shape s)
      = (label shape ('"' :: s ++ '"' :: shape.closer :: [])).map
        fun after => (some shape, after) := nodeRef_opener hid shape _
  rw [← label_quoted_iff shape hquote []]
  -- The name is read in any case, so all depends on the label.
  refine (statement_eq_ok_iff_of_isId hid (ends_opener shape _)).trans ⟨?_, ?_⟩
  · rintro ⟨closed, after, hread, -⟩
    rw [← declarationLine, hnode] at hread
    cases hlabel : label shape ('"' :: s ++ '"' :: shape.closer :: []) with
    | error cause =>
      rw [hlabel] at hread
      cases hread
    | ok after => exact ⟨after, rfl⟩
  · intro hlabel
    have hcloser := (label_quoted_iff shape hquote []).1 hlabel
    rw [label_quoted shape hquote hcloser] at hnode
    exact ⟨some shape, [], hnode, .done rfl⟩

end Grammar

namespace Lint

open Identifier Grammar

/-! ### The linter -/

/-- The codes of findings that no single line is at fault for. -/
def collective : List IssueCode :=
  [.duplicateNodeId, .unmatchedEnd, .unclosedSubgraph, .undeclaredNode, .fanOutExceeded]

/-- Some sight is a fault of a code. -/
def Faults (code : IssueCode) (ss : List Sight) : Prop := ∃ f, Sight.fault f ∈ ss ∧ f.code = code

theorem faults_append {code : IssueCode} {ss ss' : List Sight} :
    Faults code (ss ++ ss') ↔ Faults code ss ∨ Faults code ss' := by
  simp only [Faults, List.mem_append, or_and_right, exists_or]

/-- A finding of any other code is a fault of some line. -/
theorem exists_code_iff_faults {code : IssueCode} (hcode : code ∉ collective) (ss : List Sight) :
    (∃ f ∈ findings ss, f.code = code) ↔ Faults code ss := by
  have hother : ∀ f : Finding, f.code ∈ collective → f.code ≠ code := fun f hf heq =>
    hcode (heq ▸ hf)
  refine exists_congr fun f => and_congr_left fun hf => ?_
  rw [← mem_filterMap_fault?_iff]
  unfold findings earlyFindings
  simp only [List.mem_append, List.mem_map, List.mem_replicate]
  refine ⟨?_, fun h => Or.inl (Or.inl (Or.inl (Or.inl (Or.inl h))))⟩
  -- The findings that are no faults of a line have codes of their own.
  rintro (((((h | ⟨id, -, rfl⟩) | ⟨-, rfl⟩) | ⟨-, rfl⟩) | ⟨id, -, rfl⟩) | ⟨id, -, rfl⟩)
  · exact h
  · exact absurd hf (hother _ (by decide : IssueCode.duplicateNodeId ∈ collective))
  · exact absurd hf (hother _ (by decide : IssueCode.unmatchedEnd ∈ collective))
  · exact absurd hf (hother _ (by decide : IssueCode.unclosedSubgraph ∈ collective))
  · exact absurd hf (hother _ (by decide : IssueCode.undeclaredNode ∈ collective))
  · exact absurd hf (hother _ (by decide : IssueCode.fanOutExceeded ∈ collective))

/-- A finding of any other code is reported just if some line shows it. -/
theorem exists_code_iff {t h : Text} {before after : List Text} (hopens : Opens t h before after)
    {code : IssueCode} (hcode : code ∉ collective) :
    (∃ i ∈ (lint t).issues, i.code = code) ↔
      Faults code (openingSights h ++ after.flatMap sights) :=
  (exists_code_iff_findings hopens (· = code)).trans (exists_code_iff_faults hcode _)

theorem not_faults_headerSights {code : IssueCode} (hcode : code ≠ .unicodePunct) (raw : Text) :
    ¬ Faults code (Survey.headerSights raw) := by
  rintro ⟨f, hf, heq⟩
  rcases exists_of_mem_headerSights hf with ⟨c, hc⟩
  rw [Sight.fault.inj hc] at heq
  exact hcode heq.symm

/-- No label is found fault with on a line that the grammar reads as a header. -/
theorem not_faults_openingSights {h : Text} (hheader : header (body h) = .ok ()) :
    ¬ Faults .closerInLabel (openingSights h) := by
  have hcode : IssueCode.closerInLabel ≠ .unicodePunct := by decide
  rw [openingSights, faults_append, or_iff_right (not_faults_headerSights hcode h)]
  by_cases hseen : Survey.IsHeader h
  · rw [if_pos hseen]
    rintro ⟨f, hf, -⟩
    exact absurd hf List.not_mem_nil
  · -- The linter reads the keyword with its semicolon as a statement.
    have hglued := (isHeader_or_glued hheader).resolve_left hseen
    have hfaults : ∀ trim ∈ gluedHeaders,
        ∀ s ∈ statementSights (Text.dropEndWhile (· == ';') trim),
          s.fault?.map Finding.code ≠ some .closerInLabel := by decide +kernel
    rw [if_neg hseen, statementText_eq]
    rintro ⟨f, hf, heq⟩
    rcases List.mem_cons.1 hf with hf | hf
    · rw [Sight.fault.inj hf] at heq
      cases heq
    · refine hfaults _ hglued _ hf ?_
      rw [Sight.fault?, Option.map_some, heq]

/-- The line shows a declaration, and whatever is wrong with the label. -/
theorem sights_declarationLine {id s : Text} {shape : Shape} (hid : IsId id)
    (hascii : ∀ c ∈ s, isAsciiChar c = true) (hquote : '"' ∉ s) :
    sights (declarationLine id shape s)
      = Survey.headerSights (declarationLine id shape s)
        ++ ((labelFindings id shape s).map .fault ++ [.declares id]) := by
  have hbusy : ¬ isIdle (Text.trim (declarationLine id shape s)) = true := by
    rw [trim_declarationLine shape s hid, not_isIdle_declarationLine shape s hid]
    decide
  -- Nothing is left out of the line, and nothing follows the node on it.
  have hread : statementText (declarationLine id shape s) = declarationLine id shape s := by
    rw [statementText_eq, trim_declarationLine shape s hid]
    refine Text.dropEndWhile_eq_self fun c hc => ?_
    rw [getLast?_declarationLine, Option.some.injEq] at hc
    rw [← hc]
    cases shape <;> decide
  have hplain : IsPlain (declarationLine id shape s) := fun c hc =>
    Or.inl (isAsciiChar_declarationLine shape hid hascii c hc)
  rcases node?_opener (c := ⟨0, declarationLine id shape s⟩) hplain hid rfl with
    ⟨marks, after, hnode, d, hd, hafter, hmarks⟩
  rcases label_quoted id hd hquote with ⟨labelMarks, after', hlabel, hfaults, hrest⟩
  rw [hlabel] at hafter hmarks
  have hchain : chain id after = [] := by
    rw [chain_eq, rest_skipBlanks, hafter, hrest]
    rfl
  rw [sights_eq, if_neg hbusy, hread, statementSights,
    statementAt_node rfl hid (ends_opener shape _) hnode, hchain, List.append_nil, hmarks,
    hfaults]

/-- The line is reported for its closing delimiter just if the label holds it. -/
theorem faults_sights_declarationLine_iff {id s : Text} {shape : Shape} (hid : IsId id)
    (hascii : ∀ c ∈ s, isAsciiChar c = true) (hquote : '"' ∉ s) :
    Faults .closerInLabel (sights (declarationLine id shape s)) ↔ shape.closer ∈ s := by
  have hcode : IssueCode.closerInLabel ≠ .unicodePunct := by decide
  rw [sights_declarationLine hid hascii hquote, faults_append,
    or_iff_right (not_faults_headerSights hcode _)]
  constructor
  · rintro ⟨f, hf, heq⟩
    rcases List.mem_append.1 hf with hf | hf
    · rcases List.mem_map.1 hf with ⟨g, hg, hfg⟩
      rw [← Sight.fault.inj hfg] at heq
      -- Of the findings about a label one has this code.
      rcases mem_labelFindings_iff.1 hg with ⟨hcloser, -⟩ | ⟨-, rfl⟩ | ⟨-, rfl⟩ | ⟨-, rfl⟩
      · exact hcloser
      · cases heq
      · cases heq
      · cases heq
    · cases List.mem_singleton.1 hf
  · intro hcloser
    have hfinding : Finding.closerInLabel id shape ∈ labelFindings id shape s :=
      mem_labelFindings_iff.2 (Or.inl ⟨hcloser, rfl⟩)
    exact ⟨_, List.mem_append_left _ (List.mem_map_of_mem hfinding), rfl⟩

/-! ### All accounts -/

/-- Whether a label is safe in a shape is decided alike in three places. The line that
    declares a node with it under a header is accepted, it is not reported for its
    closing delimiter, and the shape is picked for it, all just if the delimiter does
    not occur in it. A label that stands on a line holds no line feed. -/
theorem tfae_notMem_closer {t h id s : Text} (shape : Shape)
    (hlines : t.lines = [h, declarationLine id shape s]) (hheader : header (body h) = .ok ())
    (hid : IsId id) (hascii : ∀ c ∈ s, isAsciiChar c = true) (hquote : '"' ∉ s) :
    [check t = .ok (),
      ∀ i ∈ (lint t).issues, i.code ≠ .closerInLabel,
      shape.safe? [s] = some shape,
      shape.closer ∉ s].TFAE := by
  have hbody := body_declarationLine shape s hid
  -- Each part of the program is compared with the character itself.
  tfae_have 1 ↔ 4 := by
    have hcheck := check_eq_ok_iff_of_lines hlines hheader
    rw [hbody] at hcheck
    have hplain := isAsciiChar_declarationLine shape hid hascii
    exact (hcheck (not_isIdle_declarationLine shape s hid) hplain).trans
      (statement_declarationLine_iff hid hquote)
  tfae_have 2 ↔ 4 := by
    have hreport := exists_code_iff (opens_of_header hlines hheader).1
      (by decide : IssueCode.closerInLabel ∉ collective)
    rw [faults_append, or_iff_right (not_faults_openingSights hheader), List.flatMap_singleton,
      faults_sights_declarationLine_iff hid hascii hquote] at hreport
    rw [← hreport]
    simp only [not_exists, not_and]
  tfae_have 3 ↔ 4 := by
    have hsafe : shape.isSafe [s] = true ↔ shape.closer ∉ s := by
      rw [Shape.isSafe_iff, List.forall_mem_singleton]
    rw [← hsafe]
    exact ⟨Shape.isSafe_of_safe?, Shape.safe?_of_isSafe⟩
  tfae_finish

/-- The accounts agree on a call in brackets, which is safe. -/
theorem tfae_notMem_closer_call :
    Text.lines "flowchart TB\na[\"f(x)\"]\n".toList
        = ["flowchart TB".toList, declarationLine "a".toList .rect "f(x)".toList] ∧
      [check "flowchart TB\na[\"f(x)\"]\n".toList = .ok (),
        ∀ i ∈ (lint "flowchart TB\na[\"f(x)\"]\n".toList).issues, i.code ≠ .closerInLabel,
        Shape.rect.safe? ["f(x)".toList] = some .rect,
        Shape.rect.closer ∉ "f(x)".toList].TFAE := by
  have hlines : Text.lines "flowchart TB\na[\"f(x)\"]\n".toList
      = ["flowchart TB".toList, declarationLine "a".toList .rect "f(x)".toList] := by decide
  have hascii : ∀ c ∈ "f(x)".toList, isAsciiChar c = true := List.all_eq_true.1 (by decide)
  exact ⟨hlines, tfae_notMem_closer .rect hlines (by decide) ⟨by decide, by decide⟩ hascii
    (by decide)⟩

/-- In parentheses none of them lets the call pass. -/
example :
    check "flowchart TB\na(\"f(x)\")\n".toList
        = .error ⟨.unexpected .bannedToken "PE" "STR".toList, 2⟩ ∧
      (∃ i ∈ (lint "flowchart TB\na(\"f(x)\")\n".toList).issues, i.code = .closerInLabel) ∧
      Shape.terminator.safe? ["f(x)".toList] = some .rect := by
  simp only [mem_issues_lint]
  decide +kernel

end Lint

end Flowchart
