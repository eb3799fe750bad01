import Flowchart.Proofs.FalseAlarm

/-!
# Oversights

What the linter does not see of a text that the grammar refuses.

A text is refused for its first line that is wrong. If the linter has found no
fault of syntax anywhere, it has found none in that line either, and the line is of
a kind that it has no complaint about. It does not look at the direction of a
header or into the line that opens a block, it goes by blanks of any script where
the grammar wants ASCII, it takes off any number of semicolons where the grammar
takes off one, and it passes over whatever does not look like a node or a link.

A block that is left open, or closed without being open, is never overlooked. Up to
the line that is wrong the linter has the same blocks open as the grammar.

## Main definitions

* `Lint.UnnoticedLine`: A statement goes wrong without the linter seeing it.
* `Lint.Overlooked`: A line is refused for what the linter does not see.

## Theorems

* `Lint.unnoticedLine_or_alarms`: A refused statement.
* `Lint.overlooked_of_read`: A refused line.
* `Lint.exists_overlooked`: A refused text without severe findings.
-/

namespace Flowchart

namespace Lint

open Identifier Grammar

/-! ### Statements -/

/-- A statement goes wrong where the linter sees nothing wrong: in the line that
    opens a block, after a keyword with a blank that is not ASCII, or in a chain. -/
inductive UnnoticedLine (t : Text) : Prop where
  | block (h : word t = "subgraph".toList)
  | keyword {k : String} (hk : k ∈ statementWords)
      (hfirst : t.takeWhile (!isBlank ·) = k.toList) (hword : word t ≠ k.toList)
  | node (h : NoNode t)
  | chain {rest : Text} {closed : Option Shape} (hnode : nodeRef t = .ok (closed, rest))
      (h : Unnoticed rest)

section Statements

variable {t gap : Text} (hgap : ∀ c ∈ gap, isBlank c = true)

include hgap

/-- Blanks at the end do not make a keyword of the first word. -/
theorem word_of_append {k : String} (hk : k ∈ statementWords) (h : word (t ++ gap) = k.toList) :
    word t = k.toList := by
  have hword := (isReserved_of_mem_statementWords hk).2
  have hblank : ∀ c ∈ k.toList, isAsciiBlank c = false := fun c hc =>
    not_isAsciiBlank_of_isWordChar (List.all_eq_true.1 hword c hc)
  rcases exists_word_append (t ++ gap) with ⟨more, heq, hmore⟩
  rw [h] at heq
  -- The keyword does not end in a blank, so the blanks are behind it.
  have hlast : ∀ c, k.toList.getLast? = some c → c ∉ gap := fun c hc =>
    notMem_gap hgap (not_isBlank_of_isWordChar
      (List.all_eq_true.1 hword c (List.mem_of_getLast? hc)))
  rcases Text.exists_of_append_eq heq.symm hlast with ⟨rest, rfl, rfl⟩
  refine (Text.takeWhile_append_of_ends (fun c hc => ?_) fun c hc => ?_).1
  · rw [hblank c hc]
    rfl
  · rw [hmore c (by rw [List.head?_append, hc]; rfl)]
    rfl

/-- On a refused statement the linter raises an alarm, or it does not notice what is
    wrong. -/
theorem unnoticedLine_or_alarms {e : Cause} (hplain : IsPlain (t ++ gap))
    (h : Grammar.statement t = .error e) :
    UnnoticedLine (t ++ gap) ∨ Alarms (statementSights (t ++ gap)) := by
  rcases statement_eq_error h with hsubgraph | ⟨hend, hwords, hnode⟩
  · refine Or.inl ?_
    by_cases hword : word (t ++ gap) = "subgraph".toList
    · exact .block hword
    · exact .keyword List.mem_cons_self (takeWhile_append_of_word hsubgraph (by decide) hgap) hword
  · -- The two tell keywords by different blanks. Where they differ, the linter takes the
    -- line for a keyword and does not look into it.
    by_cases hfirst : ∀ k ∈ statementWords, (t ++ gap).takeWhile (!isBlank ·) ≠ k.toList
    · have hend' : t ++ gap ≠ "end".toList := by
        intro heq
        have hletters : ∀ c ∈ "end".toList, ¬ isBlank c = true := List.any_eq_false.1 (by decide)
        rcases gap with _ | ⟨c, gap⟩
        · exact hend (by rwa [List.append_nil] at heq)
        · have hc : c ∈ "end".toList := heq ▸ List.mem_append_right _ List.mem_cons_self
          exact hletters c hc (hgap c List.mem_cons_self)
      rcases hnode with hnode | ⟨closed, rest, hnode, hchain⟩
      · rcases hnode' : nodeRef (t ++ gap) with e' | ⟨closed, rest⟩
        · rcases node?_of_error (c := ⟨0, t ++ gap⟩) hplain hnode' with hno | ⟨id, marks, after, hread, halarms⟩
          · exact Or.inl (.node hno)
          · rw [statementSights_of_node? hend' hfirst hread, alarms_append]
            exact Or.inr (Or.inl halarms)
        · rcases (nodeRef_append_iff hgap).1 hnode' with ⟨rest', hok, -⟩
          cases hnode.symm.trans hok
      · have hnode' := (nodeRef_append_iff hgap).2 ⟨rest, hnode, rfl⟩
        rcases hchain' : Grammar.chain closed (rest ++ gap) with e' | u
        · rcases node?_of_ok (c := ⟨0, t ++ gap⟩) hplain hnode' with
            ⟨id, -, marks, after, -, -, -, hread, -, hafter⟩
          have hrest : IsPlain (rest ++ gap) := hplain.of_isSuffix (nodeRef_isSuffix hnode')
          rw [statementSights_of_node? hend' hfirst hread, alarms_append]
          exact (unnoticed_or_alarms id hchain' hrest hafter).imp (.chain hnode') Or.inr
        · have hok : IsChain rest := (isChain_append_iff hgap).1 (chain_eq_ok_iff.1 hchain')
          cases hchain.symm.trans (chain_eq_ok_iff.2 hok)
    · simp only [not_forall, not_not] at hfirst
      rcases hfirst with ⟨k, hk, hfirst⟩
      exact Or.inl (.keyword hk hfirst fun hword => hwords k hk (word_of_append hgap hk hword))

end Statements

/-! ### Lines -/

/-- A line is refused for what the linter does not see. -/
inductive Overlooked (raw : Text) : Cause → Prop where
  | direction {got : Text} : Overlooked raw (.unexpected .invalidDirection "DIR" got)
  | header (h : Survey.IsHeader raw) : Overlooked raw (.noHeader (body raw))
  | foreign {c : Char} (h : Text.isAscii ((statementText raw).takeWhile isIdChar) = true) :
      Overlooked raw (.foreignChar c)
  | statement {cause : Cause} (h : UnnoticedLine (statementText raw)) : Overlooked raw cause
  | semicolons {cause : Cause} {e : Effect} (hsemicolons : HasSemicolons raw)
      (h : Grammar.statement (statementText raw) = .ok e) : Overlooked raw cause

section Lines

variable {raw : Text}

/-- An identifier with a character of another script raises an alarm. -/
theorem alarms_of_not_isAscii {t : Text} (h : Text.isAscii (t.takeWhile isIdChar) = false) :
    Alarms (statementSights t) := by
  have hascii : ∀ {k : Text}, k.all isWordChar = true → Text.isAscii k = true := fun hk =>
    List.all_eq_true.2 fun c hc => isAsciiChar_of_isWordChar (List.all_eq_true.1 hk c hc)
  have hne : t.takeWhile isIdChar ≠ [] := by
    intro hnil
    rw [hnil] at h
    exact absurd h (by decide)
  have hend : t ≠ "end".toList := by
    rintro rfl
    exact absurd h (by decide)
  -- A keyword would be the identifier, and keywords are ASCII.
  have hfirst : ∀ k ∈ statementWords, t.takeWhile (!isBlank ·) ≠ k.toList := by
    intro k hk heq
    have hword := (isReserved_of_mem_statementWords hk).2
    have hsplit : k.toList ++ t.dropWhile (!isBlank ·) = t := by
      rw [← heq, List.takeWhile_append_dropWhile]
    have htake : t.takeWhile isIdChar = k.toList := by
      rw [← hsplit]
      refine (Text.takeWhile_append_of_ends (fun c hc => ?_) fun c hc => ?_).1
      · have hc := List.all_eq_true.1 hword c hc
        rw [isIdChar_eq (isAsciiChar_of_isWordChar hc), hc]
      · have hblank := Text.of_head?_dropWhile hc
        rw [Bool.not_eq_false'] at hblank
        exact not_isIdChar_of_isBlank hblank
    rw [htake, hascii hword] at h
    exact absurd h (by decide)
  have hfinding : ∃ f, idFinding? (t.takeWhile isIdChar) = some f := by
    unfold idFinding?
    split
    · exact ⟨_, rfl⟩
    · split
      · exact ⟨_, rfl⟩
      · rw [h]
        exact ⟨_, rfl⟩
  rcases hfinding with ⟨f, hf⟩
  rcases node?_of_idFinding? (c := ⟨0, t⟩) rfl hne hf with ⟨id, marks, after, hread, halarms⟩
  rw [statementSights_of_node? hend hfirst hread, alarms_append]
  exact Or.inl halarms

/-- Only the end of a block closes one. -/
theorem eq_end_of_closes {t : Text} (h : Grammar.statement t = .ok .closes) :
    t = "end".toList := by
  rcases statement_eq_ok h with ⟨hend, -⟩ | ⟨-, hopens⟩ | ⟨-, -, -, hnone⟩ | ⟨-, -, -, -, hnone⟩
  · exact hend
  · cases hopens
  · cases hnone
  · cases hnone

/-- Only closing a block can fail, if none is open. -/
theorem apply_eq_error {e : Effect} {depth : Nat} {cause : Cause}
    (h : e.apply depth = .error cause) : e = .closes ∧ depth = 0 := by
  unfold Effect.apply at h
  split at h
  · cases h
  · cases h
  · exact ⟨rfl, rfl⟩
  · cases h

/-- A line is refused for a character, as a statement, or because it closes a block
    that is not open. -/
theorem read_eq_error {p : Progress} {cause : Cause} (hseen : p.headerSeen = true)
    (h : p.read raw = .error cause) :
    isIdle (body raw) = false ∧
      ((∃ c, cause = .foreignChar c) ∨
        (∀ c ∈ body raw, isAsciiChar c = true) ∧
          (Grammar.statement (body raw) = .error cause ∨
            body raw = "end".toList ∧ p.depth = 0)) := by
  by_cases hidle : isIdle (body raw) = true
  · rw [Progress.read, if_pos hidle] at h
    cases h
  · have hbusy := Bool.eq_false_iff.2 hidle
    refine ⟨hbusy, ?_⟩
    rcases read_of_busy hseen hbusy with ⟨c, hread⟩ | ⟨hascii, hread⟩
    · exact Or.inl ⟨c, (Except.error.inj (hread.symm.trans h)).symm⟩
    · refine Or.inr ⟨hascii, ?_⟩
      rw [hread] at h
      rcases hstatement : Grammar.statement (body raw) with cause' | e
      · rw [hstatement] at h
        exact Or.inl (congrArg Except.error (Except.error.inj h))
      · -- A statement that cannot be applied closes a block that is not open.
        rcases hdepth : e.apply p.depth with cause' | depth
        · rcases apply_eq_error hdepth with ⟨rfl, hclosed⟩
          exact Or.inr ⟨eq_end_of_closes hstatement, hclosed⟩
        · simp only [hstatement, bind, Except.bind, hdepth] at h
          cases h

/-- A refused line raises an alarm, is overlooked, or closes a block that is not
    open. -/
theorem overlooked_of_read {p : Progress} {cause : Cause} (hseen : p.headerSeen = true)
    (h : p.read raw = .error cause) (hquiet : ¬ Alarms (sights raw)) :
    Overlooked raw cause ∨
      p.depth = 0 ∧ sights raw = Survey.headerSights raw ++ [.closes] := by
  rcases read_eq_error hseen h with ⟨hbusy, hcases⟩
  have htrim : ¬ isIdle raw.trim = true := fun htrim => by
    rw [isIdle_body_of_isIdle_trim htrim] at hbusy
    exact absurd hbusy (by decide)
  rw [sights_eq, if_neg htrim] at hquiet ⊢
  rw [alarms_append, not_or] at hquiet
  rcases hcases with ⟨c, rfl⟩ | ⟨hascii, hstatement | ⟨hend, hdepth⟩⟩
  · refine Or.inl (.foreign ?_)
    by_contra hforeign
    exact hquiet.2 (alarms_of_not_isAscii (Bool.not_eq_true _ ▸ hforeign))
  · refine Or.inl ?_
    have hplain := isPlain_statementText hascii
    by_cases hsemicolons : HasSemicolons raw
    · -- The linter reads less than the grammar, which may be a statement by itself.
      rcases hread : Grammar.statement (statementText raw) with e | e
      · rw [← List.append_nil (statementText raw)] at hplain hquiet
        have hcases := unnoticedLine_or_alarms (List.forall_mem_nil _) hplain hread
        rw [List.append_nil] at hcases hquiet
        exact .statement (hcases.resolve_right hquiet.2)
      · exact .semicolons hsemicolons hread
    · rcases statementText_eq_append hsemicolons with ⟨gap, hgap, hread⟩
      rw [hread] at hplain hquiet
      refine .statement ?_
      rw [hread]
      exact (unnoticedLine_or_alarms hgap hplain hstatement).resolve_right hquiet.2
  · rcases statementSights_of_body_eq_end hend with ⟨hsights, -⟩ | ⟨halarms, -⟩
    · exact Or.inr ⟨hdepth, by rw [hsights]⟩
    · exact absurd halarms hquiet.2

end Lines

/-! ### Texts -/

/-- Lines are refused for the first one of them that is wrong. -/
theorem exists_of_foldlM_error {p : Progress} {ls : List Text} {r : Rejection}
    (h : ls.foldlM Progress.line p = .error r) :
    ∃ front raw back q, ls = front ++ raw :: back ∧ front.foldlM Progress.line p = .ok q ∧
      q.read raw = .error r.cause ∧ r.line = p.lines + front.length + 1 := by
  induction ls generalizing p with
  | nil => cases h
  | cons l ls ih =>
    rw [List.foldlM_cons] at h
    -- The first line that is refused ends the reading, so all before it were accepted.
    rcases hread : p.read l with cause | q
    · have hline : p.line l = .error ⟨cause, p.lines + 1⟩ := by rw [Progress.line, hread]
      rw [hline] at h
      refine ⟨[], l, ls, p, rfl, rfl, ?_, ?_⟩
      · rw [← Except.error.inj h]
        exact hread
      · rw [← Except.error.inj h]
        rfl
    · have hline : p.line l = .ok { q with lines := p.lines + 1 } := by rw [Progress.line, hread]
      rw [hline] at h
      rcases ih (p := { q with lines := p.lines + 1 }) h with
        ⟨front, raw, back, q', rfl, hfront, hraw, hnumber⟩
      refine ⟨l :: front, raw, back, q', rfl, ?_, hraw, ?_⟩
      · rw [List.foldlM_cons, hline]
        exact hfront
      · have hnumber' : r.line = p.lines + 1 + front.length + 1 := hnumber
        rw [hnumber', List.length_cons]
        omega

/-- What is wrong with a header is its direction, or that it is none. -/
theorem header_eq_error {line : Text} {cause : Cause} (h : header line = .error cause) :
    (∃ got, cause = .unexpected .invalidDirection "DIR" got) ∨ cause = .noHeader line := by
  unfold header at h
  dsimp only at h
  split at h
  · split at h
    · cases h
    · exact Or.inl ⟨_, (Except.error.inj h).symm⟩
  · exact Or.inr (Except.error.inj h).symm

/-- Lines that are refused after a header without any alarm are refused for what is
    overlooked in one of them. -/
theorem exists_overlooked_of_foldlM {p : Progress} {ls : List Text} {r : Rejection}
    (hseen : p.headerSeen = true) (hdepth : p.depth = 0)
    (h : ls.foldlM Progress.line p = .error r) (hquiet : ¬ Alarms (ls.flatMap sights))
    (hnest : (ls.flatMap sights).foldl Sight.nest (0, 0) = (0, 0)) :
    ∃ i raw, r.line = p.lines + i + 1 ∧ ls[i]? = some raw ∧ Overlooked raw r.cause := by
  rcases exists_of_foldlM_error h with ⟨front, raw, back, q, rfl, hfront, hraw, hnumber⟩
  rw [List.flatMap_append, List.flatMap_cons, alarms_append, alarms_append, not_or, not_or] at hquiet
  rcases sights_of_foldlM hseen hfront with ⟨hseen', -, hblocks⟩
  refine ⟨front.length, raw, hnumber, ?_, ?_⟩
  · rw [List.getElem?_append_right (Nat.le_refl _), Nat.sub_self]
    rfl
  · refine (overlooked_of_read hseen' hraw hquiet.2.1).resolve_right ?_
    -- A block that is closed without being open would be remembered.
    rintro ⟨hclosed, hsights⟩
    have hopened := hblocks hquiet.1 0
    rw [hdepth, hclosed] at hopened
    rw [List.flatMap_append, List.flatMap_cons, List.foldl_append, List.foldl_append, hopened,
      hsights, List.foldl_append, isFlat_headerSights raw] at hnest
    have hstray := le_stray_foldl_nest (back.flatMap sights) (0, 1)
    have hclose : [Sight.closes].foldl Sight.nest (0, 0) = (0, 1) := rfl
    rw [← hclose, hnest] at hstray
    exact absurd hstray (by decide)

/-- If the grammar refuses a text and no finding about it is severe, then the line
    that it is refused for is overlooked. -/
theorem exists_overlooked {t : Text} {r : Rejection} (h : check t = .error r)
    (hok : (lint t).ok = true) :
    ∃ raw, t.lines[r.line - 1]? = some raw ∧ Overlooked raw r.cause := by
  have hquiet := not_exists_syntactic_of_ok hok
  rcases exists_opens t with hidle | ⟨l, before, after, hopens⟩
  · refine absurd ⟨Finding.noHeader.issue (some 1) none, ?_, ?_⟩ hquiet
    · rw [issues_lint_of_isIdle hidle]
      exact List.mem_singleton_self _
    · exact (by decide : IssueCode.missingHeader ∈ IssueCode.syntactic)
  -- The linter has seen a header, so the text opens with no semicolon.
  have hheader : Survey.IsHeader l := by
    by_contra hheader
    exact hquiet (exists_syntactic_of_not_isHeader hopens hheader)
  have hne : l.trim ≠ [';'] := fun heq =>
    not_isHeader_of_glued (heq ▸ List.mem_cons_self) hheader
  rw [exists_syntactic_iff_of_isHeader hopens hheader, not_or, not_not] at hquiet
  rw [check_eq_of_opens hopens hne] at h
  rcases hread : header (body l) with cause | u
  · rw [hread] at h
    rw [← Except.error.inj h]
    refine ⟨l, ?_, ?_⟩
    · rw [hopens.lines, Nat.add_sub_cancel, List.getElem?_append_right (Nat.le_refl _),
        Nat.sub_self]
      rfl
    · rcases header_eq_error hread with ⟨got, rfl⟩ | rfl
      · exact .direction
      · exact .header hheader
  · rcases hafter : after.foldlM Progress.line
        { headerSeen := true, lines := before.length + 1 } with r' | q
    · simp only [hread, hafter, bind, Except.bind] at h
      rw [← Except.error.inj h]
      rcases exists_overlooked_of_foldlM rfl rfl hafter hquiet.1 hquiet.2 with
        ⟨i, raw, hnumber, hraw, hoverlooked⟩
      refine ⟨raw, ?_, hoverlooked⟩
      rw [hopens.lines, hnumber, Nat.add_sub_cancel, Nat.add_assoc, Nat.add_comm 1,
        List.getElem?_append_right (Nat.le_add_right _ _), Nat.add_sub_cancel_left]
      exact hraw
    · -- All lines are accepted, so what is wrong is a block that is left open.
      simp only [hread, hafter, bind, Except.bind] at h
      rcases sights_of_foldlM rfl hafter with ⟨hseen, -, hblocks⟩
      have hdepth : q.depth = 0 := congrArg Prod.fst ((hblocks hquiet.1 0).symm.trans hquiet.2)
      rw [Progress.finish, hseen, hdepth] at h
      cases h

/-- The line that is overlooked in a text with a node right behind another. -/
theorem exists_overlooked_adjacent :
    check "flowchart TB\na[\"A\"] b".toList
        = .error ⟨.unexpected .invalidEdge "LINK" "b".toList, 2⟩ ∧
      (lint "flowchart TB\na[\"A\"] b".toList).ok = true ∧
      ∃ raw, (Text.lines "flowchart TB\na[\"A\"] b".toList)[1]? = some raw ∧
        Overlooked raw (.unexpected .invalidEdge "LINK" "b".toList) := by
  have hcheck : check "flowchart TB\na[\"A\"] b".toList
      = .error ⟨.unexpected .invalidEdge "LINK" "b".toList, 2⟩ := by decide +kernel
  have hok : (lint "flowchart TB\na[\"A\"] b".toList).ok = true := by
    rw [ok_lint_iff]
    decide +kernel
  exact ⟨hcheck, hok, exists_overlooked hcheck hok⟩

/-- No finding is severe about a node right behind another, which the grammar
    refuses. -/
theorem ok_lint_of_check_ne_ok :
    check "flowchart TB\na[\"A\"] b".toList ≠ .ok () ∧
      (lint "flowchart TB\na[\"A\"] b".toList).ok = true := by
  rw [ok_lint_iff]
  decide +kernel

/-- The other kinds of line that are overlooked. -/
example :
    ∀ s ∈ ["flowchart XX", "flowchart\u00a0TB", "flowchart TB\na[\"\u00e9\"]",
      "flowchart TB\na[\"A\"];;", "flowchart TB\nsubgraph 1\nend", "flowchart TB\nstyle\x0ba",
      "flowchart TB\n!", "flowchart TB\na[x(y)]", "flowchart TB\na[\"A\"] -->",
      "flowchart TB\na[\"A\"] -- --> b[\"B\"]", "flowchart TB\na[\"A\"] --> | | b[\"B\"]",
      "flowchart TB\na[\"A\"] -- x|y --> b[\"B\"]"],
      check s.toList ≠ .ok () ∧ (lint s.toList).ok = true := by
  simp only [ok_lint_iff]
  decide +kernel

end Lint

end Flowchart
