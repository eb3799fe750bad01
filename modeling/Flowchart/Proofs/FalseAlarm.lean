import Flowchart.Proofs.Agreement

/-!
# False Alarms

When the linter finds fault with the syntax of a text that the grammar accepts.

Both pass over lines that say nothing and then look for a header, but they do not
quite agree on either. To the grammar a semicolon alone says nothing, and the
semicolon that ends a line is no part of its first word. The linter keeps it. So a
text raises an alarm if it opens with a semicolon, or with a header that is nothing
but its keyword and a semicolon.

After the header, what is true of accepted lines adds up. If none of them is
misread, none raises an alarm, and the linter has as many blocks open at the end of
the text as the grammar has, which is none.

## Main definitions

* `Lint.gluedHeaders`: Openings that only the grammar takes for a header, or passes
  over.
* `Lint.Misread`: An accepted text on which an alarm is raised.

## Theorems

* `Grammar.check_eq_of_opens`: A text is checked from the line that it opens with.
* `Lint.alarms_openingSights_iff`: The alarms on the line that a text opens with.
* `Lint.exists_syntactic_iff_misread`: The false alarms.
-/

namespace Flowchart

namespace Grammar

open Lint

/-! ### The grammar on the opening of a text -/

theorem isIdle_body_of_isIdle_trim {raw : Text} (h : isIdle raw.trim = true) :
    isIdle (body raw) = true := (isIdle_body_iff raw).2 (Or.inl h)

/-- Lines that say nothing are counted. -/
theorem foldlM_line_idle {ls : List Text} (h : ∀ l ∈ ls, isIdle (body l) = true) (p : Progress) :
    ls.foldlM Progress.line p = .ok { p with lines := p.lines + ls.length } := by
  induction ls generalizing p with
  | nil => rfl
  | cons l ls ih =>
    have hrest := ih (fun m hm => h m (List.mem_cons_of_mem l hm))
      { p with lines := p.lines + 1 }
    rw [List.foldlM_cons, line_idle (h l List.mem_cons_self)]
    refine hrest.trans ?_
    rw [List.length_cons, Nat.add_assoc, Nat.add_comm 1]

/-- A text that says nothing has no header. -/
theorem check_of_isIdle {t : Text} (h : ∀ l ∈ t.lines, isIdle (body l) = true) :
    check t = .error ⟨.noHeader [], 1⟩ := by
  rw [check, foldlM_line_idle h]
  rfl

/-- A text is checked from the line that it opens with, unless that is a
    semicolon. -/
theorem check_eq_of_opens {t h : Text} {before after : List Text} (hopens : Opens t h before after)
    (hne : h.trim ≠ [';']) :
    check t = match header (body h) with
      | .error cause => .error ⟨cause, before.length + 1⟩
      | .ok () => after.foldlM Progress.line { headerSeen := true, lines := before.length + 1 }
          >>= Progress.finish := by
  have hbefore := foldlM_line_idle (p := {}) fun l hl =>
    isIdle_body_of_isIdle_trim (hopens.before l hl)
  -- A line with a semicolon alone says nothing to the grammar, and so it was
  -- excluded.
  have hbusy : isIdle (body h) = false := by
    rw [Bool.eq_false_iff]
    intro hidle
    rcases (isIdle_body_iff h).1 hidle with hidle | hsemicolon
    · rw [hopens.opening] at hidle
      exact absurd hidle (by decide)
    · exact hne hsemicolon
  rw [check, hopens.lines, List.foldlM_append, hbefore]
  simp only [bind, Except.bind, List.foldlM_cons, Progress.line, Progress.read, hbusy,
    Bool.false_eq_true, if_false, Bool.not_false, if_true, Nat.zero_add]
  cases header (body h) with
  | error cause => rfl
  | ok u => rfl

/-- A header begins with one of two words. -/
theorem word_of_header {line : Text} (h : header line = .ok ()) :
    word line = "flowchart".toList ∨ word line = "graph".toList := by
  unfold header at h
  dsimp only at h
  split at h
  · rename_i hkeyword
    rwa [Bool.or_eq_true, decide_eq_true_eq, decide_eq_true_eq] at hkeyword
  · cases h

/-- Nothing is open at the end of an accepted text. -/
theorem depth_of_finish {p : Progress} (h : p.finish = .ok ()) : p.depth = 0 := by
  unfold Progress.finish at h
  split at h
  · cases h
  · split at h
    · cases h
    · rename_i hdepth
      omega

end Grammar

namespace Lint

open Grammar

/-! ### The linter on the opening of a text -/

/-- What the grammar passes over or takes for a header, and the linter does not. -/
def gluedHeaders : List Text := [";".toList, "flowchart;".toList, "graph;".toList]

/-- The line that a text opens with raises an alarm if it is no header. -/
theorem alarms_openingSights_iff (raw : Text) :
    Alarms (openingSights raw) ↔ ¬ Survey.IsHeader raw := by
  rw [openingSights, alarms_append, or_iff_right (not_alarms_headerSights raw)]
  by_cases hheader : Survey.IsHeader raw
  · rw [if_pos hheader]
    exact iff_of_false not_alarms_nil fun hno => hno hheader
  · rw [if_neg hheader]
    exact iff_of_true (alarms_of_mem List.mem_cons_self
      (by decide : IssueCode.missingHeader ∈ IssueCode.syntactic)) hheader

theorem isFlat_openingSights {raw : Text} (h : Survey.IsHeader raw) :
    IsFlat (openingSights raw) := by
  rw [openingSights, if_pos h, List.append_nil]
  exact isFlat_headerSights raw

theorem not_isHeader_of_glued {raw : Text} (h : raw.trim ∈ gluedHeaders) :
    ¬ Survey.IsHeader raw := by
  have hall : ∀ t ∈ gluedHeaders, t.takeWhile (!isBlank ·) ≠ "flowchart".toList ∧
      t.takeWhile (!isBlank ·) ≠ "graph".toList := by decide
  rintro (hflowchart | hgraph)
  · exact (hall _ h).1 hflowchart
  · exact (hall _ h).2 hgraph

/-- The linter sees the header that the grammar reads, unless a semicolon is glued
    to the keyword. -/
theorem isHeader_or_glued {raw : Text} (h : header (body raw) = .ok ()) :
    Survey.IsHeader raw ∨ raw.trim ∈ gluedHeaders := by
  have hread : ∀ {k : Text}, k.all isWordChar = true → word (body raw) = k →
      raw.trim.takeWhile (!isBlank ·) = k ∨ raw.trim = k ++ [';'] := by
    intro k hk hword
    rcases exists_word_append (body raw) with ⟨more, hbody, hmore⟩
    rw [hword] at hbody
    have hblank : ∀ c, more.head? = some c → isBlank c = true := fun c hc =>
      isBlank_of_isAsciiBlank (hmore c hc)
    rcases trim_eq_body_append raw with htrim | ⟨gap, hgap, htrim⟩
    · rw [htrim, hbody]
      exact Or.inl (takeWhile_word hk hblank)
    · rw [hbody, List.append_assoc, List.append_assoc] at htrim
      rw [htrim]
      by_cases hnil : more ++ gap = []
      · -- Nothing stands between the keyword and the semicolon.
        rw [← List.append_assoc more, hnil]
        exact Or.inr rfl
      · refine Or.inl (takeWhile_word hk fun c hc => ?_)
        rw [← List.append_assoc, List.head?_append_of_ne_nil _ hnil] at hc
        rcases more with _ | ⟨b, more⟩
        · exact hgap c (List.mem_of_mem_head? hc)
        · exact hblank c hc
  rcases word_of_header h with hword | hword
  · rcases hread (by decide) hword with hheader | hglued
    · exact Or.inl (Or.inl hheader)
    · rw [hglued]
      exact Or.inr (by decide)
  · rcases hread (by decide) hword with hheader | hglued
    · exact Or.inl (Or.inr hheader)
    · rw [hglued]
      exact Or.inr (by decide)

/-- A header is not misread for a statement. -/
theorem not_misreadLine_of_header {raw : Text} (h : header (body raw) = .ok ()) :
    ¬ MisreadLine raw := by
  rcases word_of_header h with hword | hword
  · exact not_misreadLine (takeWhile_statementText hword (by decide)) (by decide) (by decide)
      (by decide)
  · exact not_misreadLine (takeWhile_statementText hword (by decide)) (by decide) (by decide)
      (by decide)

/-- After a header that the linter sees, what is reported about syntax comes from
    the lines that follow. -/
theorem exists_syntactic_iff_of_isHeader {t l : Text} {before after : List Text}
    (hopens : Opens t l before after) (hheader : Survey.IsHeader l) :
    (∃ i ∈ (lint t).issues, i.code ∈ IssueCode.syntactic) ↔
      Alarms (after.flatMap sights) ∨ (after.flatMap sights).foldl Sight.nest (0, 0) ≠ (0, 0) := by
  have hquiet : ¬ Alarms (openingSights l) := fun halarms =>
    (alarms_openingSights_iff l).1 halarms hheader
  rw [exists_syntactic_iff hopens, alarms_append, or_iff_right hquiet, List.foldl_append,
    isFlat_openingSights hheader]

/-- A text that opens with no header is reported. -/
theorem exists_syntactic_of_not_isHeader {t l : Text} {before after : List Text}
    (hopens : Opens t l before after) (hheader : ¬ Survey.IsHeader l) :
    ∃ i ∈ (lint t).issues, i.code ∈ IssueCode.syntactic := by
  refine (exists_syntactic_iff hopens).2 (Or.inl ?_)
  rw [alarms_append, alarms_openingSights_iff]
  exact Or.inl hheader

/-! ### Accepted texts -/

/-- An accepted text on which the linter raises an alarm. -/
inductive Misread (t : Text) : Prop where
  | opening {h : Text} {before after : List Text} (hopens : Opens t h before after)
      (hglued : h.trim ∈ gluedHeaders)
  | line {l : Text} (hl : l ∈ t.lines) (h : MisreadLine l)

/-- An alarm is raised on an accepted text just if it is misread. -/
theorem exists_syntactic_iff_misread {t : Text} (h : check t = .ok ()) :
    (∃ i ∈ (lint t).issues, i.code ∈ IssueCode.syntactic) ↔ Misread t := by
  rcases exists_opens t with hidle | ⟨l, before, after, hopens⟩
  · rw [check_of_isIdle fun l hl => isIdle_body_of_isIdle_trim (hidle l hl)] at h
    cases h
  by_cases hglued : l.trim ∈ gluedHeaders
  · exact iff_of_true (exists_syntactic_of_not_isHeader hopens (not_isHeader_of_glued hglued))
      (.opening hopens hglued)
  -- Otherwise both have found the header in the same line.
  have hne : l.trim ≠ [';'] := fun heq => hglued (heq ▸ List.mem_cons_self)
  rw [check_eq_of_opens hopens hne] at h
  rcases hheader : header (body l) with cause | u
  · rw [hheader] at h
    cases h
  rcases hafter : after.foldlM Progress.line
      { headerSeen := true, lines := before.length + 1 } with r | q
  · simp only [hheader, hafter, bind, Except.bind] at h
    cases h
  simp only [hheader, hafter, bind, Except.bind] at h
  have hseen := (isHeader_or_glued hheader).resolve_right hglued
  rcases sights_of_foldlM rfl hafter with ⟨-, hmisread, hnest⟩
  constructor
  · intro halarm
    -- Without an alarm on a line no block would be left open either.
    have halarms : Alarms (after.flatMap sights) := by
      refine ((exists_syntactic_iff_of_isHeader hopens hseen).1 halarm).elim id fun hdepth => ?_
      by_contra hno
      rw [hnest hno 0, depth_of_finish h] at hdepth
      exact hdepth rfl
    rcases alarms_flatMap.1 halarms with ⟨m, hm, halarms⟩
    have hmem : m ∈ t.lines := by
      rw [hopens.lines]
      exact List.mem_append_right _ (List.mem_cons_of_mem _ hm)
    exact .line hmem ((hmisread m hm).1 halarms)
  · intro hmis
    cases hmis with
    | opening hopens' hglued' =>
      exact exists_syntactic_of_not_isHeader hopens' (not_isHeader_of_glued hglued')
    | line hm hline =>
      rw [hopens.lines, List.mem_append, List.mem_cons] at hm
      rcases hm with hm | rfl | hm
      · -- Neither the lines before the header nor the header are misread.
        have hidle := isIdle_body_of_isIdle_trim (hopens.before _ hm)
        exact absurd hline (sights_of_isIdle_body hidle).2.2
      · exact absurd hline (not_misreadLine_of_header hheader)
      · exact (exists_syntactic_iff_of_isHeader hopens hseen).2
          (Or.inl (alarms_flatMap.2 ⟨_, hm, (hmisread _ hm).2 hline⟩))

/-- The equivalence at a text that is not misread. -/
theorem exists_syntactic_iff_misread_labelled :
    check "flowchart TB\na[\"A\"] --> b[\"B\"];".toList = .ok () ∧
      ((∃ i ∈ (lint "flowchart TB\na[\"A\"] --> b[\"B\"];".toList).issues,
        i.code ∈ IssueCode.syntactic) ↔ Misread "flowchart TB\na[\"A\"] --> b[\"B\"];".toList) := by
  have hcheck : check "flowchart TB\na[\"A\"] --> b[\"B\"];".toList = .ok () := by decide +kernel
  exact ⟨hcheck, exists_syntactic_iff_misread hcheck⟩

/-- An alarm on an accepted text: a header whose semicolon the linter reads as part of
    the keyword. -/
theorem exists_syntactic_of_check_eq_ok :
    check "flowchart;".toList = .ok () ∧
      ∃ i ∈ (lint "flowchart;".toList).issues, i.code ∈ IssueCode.syntactic := by
  simp only [mem_issues_lint]
  decide +kernel

/-- The other ways to be misread: a semicolon in front, an `end` with a blank before its
    semicolon, and a tab after dashes. -/
example :
    ∀ s ∈ [";\nflowchart TB", "flowchart TB\nsubgraph a\nend ;",
      "flowchart TB\na[\"A\"] --\tx --> b[\"B\"]"],
      check s.toList = .ok () ∧
        ∃ i ∈ (lint s.toList).issues, i.code ∈ IssueCode.syntactic := by
  simp only [mem_issues_lint]
  decide +kernel

end Lint

end Flowchart
