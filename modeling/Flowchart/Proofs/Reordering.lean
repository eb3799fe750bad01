import Flowchart.Proofs.Linking

/-!
# The Order of Lines

What a report says does not depend on the order in which nodes are declared and used.

The linter goes through a text once and keeps what it has seen, so this is not clear
from the way it works: a second declaration is one that comes after another, and a
node is missing only until it turns up. But a report has been shown to be what the
sights of all lines add up to, and almost all of that is the same for the sights in
any order. How often a node is declared, which nodes are declared somewhere, and how
many edges meet at a node are facts about the sights as a whole.

Blocks are the exception. Whether an `end` has a block to close depends on what stands
before it. So the lines that open or close a block have to keep their order. Where they
stand among the others is of no account, since no other line does anything to a block.

Lines that say nothing show nothing. They may be moved, and also left out or put in, so
it does not matter either whether a text ends with a line feed.

## Main definitions

* `Lint.rows`: The lines of a text as the linter takes them.
* `Lint.isBusyLine`: A line that says something.
* `Lint.isFenceLine`: A line that opens or closes a block.

## Theorems

* `count_repeats`: How often an item comes again.
* `Lint.findings_perm_of_perm`: Sights in another order add up to the same.
* `Lint.foldl_nest_filter`: The other lines do nothing to blocks.
* `Lint.lint_perm_of_rearranged`: Rearranged texts have the same report.
-/

namespace Flowchart

/-! ### Lists in another order -/

section Perm

variable {α : Type} [DecidableEq α]

/-- An item comes again for every time but one. -/
theorem count_repeats (l : List α) (a : α) : (repeats l).count a = l.count a - 1 := by
  induction l with
  | nil => rfl
  | cons b l ih =>
    rw [repeats]
    by_cases hab : b = a
    · subst hab
      -- The item at the front is counted if and only if there is another one.
      rw [List.count_cons_self, Nat.add_sub_cancel]
      by_cases hb : b ∈ l
      · have hpos : 0 < l.count b := List.count_pos_iff.2 hb
        rw [if_pos hb, List.count_cons_self, ih]
        omega
      · rw [if_neg hb, ih, List.count_eq_zero_of_not_mem hb]
    · rw [List.count_cons_of_ne hab]
      split
      · rw [List.count_cons_of_ne hab, ih]
      · exact ih

theorem repeats_perm {l l' : List α} (h : l.Perm l') : (repeats l).Perm (repeats l') := by
  rw [List.perm_iff_count]
  intro a
  rw [count_repeats, count_repeats, h.count_eq]

theorem firsts_perm {l l' : List α} (h : l.Perm l') : (firsts id l).Perm (firsts id l') := by
  rw [List.perm_ext_iff_of_nodup (nodup_firsts_id l) (nodup_firsts_id l')]
  intro a
  rw [mem_firsts_id, mem_firsts_id, h.mem_iff]

end Perm

namespace Lint

/-! ### Sights in another order -/

section Sights

variable {ss ss' : List Sight}

theorem missingNodes_perm (h : ss.Perm ss') : (missingNodes ss).Perm (missingNodes ss') := by
  have hdeclared := fun id => (h.filterMap Sight.declared?).mem_iff (a := id)
  have hblocks := fun id => (h.filterMap Sight.blockName?).mem_iff (a := id)
  unfold missingNodes
  simp only [hdeclared, hblocks]
  exact firsts_perm ((h.filterMap Sight.referred?).filter _)

theorem crowdedNodes_perm (h : ss.Perm ss') : (crowdedNodes ss).Perm (crowdedNodes ss') := by
  have hends : (ss.flatMap Sight.ends).Perm (ss'.flatMap Sight.ends) := h.flatMap_right _
  unfold crowdedNodes
  simp only [hends.count_eq]
  exact (firsts_perm hends).filter _

/-- The same sights in another order add up to the same, if the same blocks are left
    open. -/
theorem findings_perm_of_perm (h : ss.Perm ss')
    (hnest : ss.foldl Sight.nest (0, 0) = ss'.foldl Sight.nest (0, 0)) :
    (findings ss).Perm (findings ss') := by
  have hearly : (earlyFindings ss).Perm (earlyFindings ss') := by
    unfold earlyFindings
    rw [hnest]
    exact ((h.filterMap _).append ((repeats_perm (h.filterMap _)).map _)).append_right _
  have hends : (ss.flatMap Sight.ends).Perm (ss'.flatMap Sight.ends) := h.flatMap_right _
  unfold findings
  simp only [hnest, hends.count_eq]
  exact ((hearly.append_right _).append ((missingNodes_perm h).map _)).append
    ((crowdedNodes_perm h).map _)

end Sights

/-! ### Lines in another order -/

/-- The lines of a text as the linter takes them, without the carriage returns that may
    end them. -/
def rows (t : Text) : List Text := t.segments.map Survey.withoutReturn

/-- A line that says something. -/
def isBusyLine (raw : Text) : Bool := !Grammar.isIdle raw.trim

/-- A line that the linter reads as the beginning or the end of a block. -/
def isFenceLine (raw : Text) : Bool :=
  decide (statementText raw = "end".toList)
    || decide ((statementText raw).takeWhile (!isBlank ·) = "subgraph".toList)

theorem isFlat_statementSights {t : Text} (hend : t ≠ "end".toList)
    (hsubgraph : t.takeWhile (!isBlank ·) ≠ "subgraph".toList) : IsFlat (statementSights t) := by
  unfold statementSights statementAt
  dsimp only
  rw [if_neg hend, if_neg hsubgraph]
  split
  · exact isFlat_nil
  · cases hnode : node? ⟨0, t⟩ with
    | none => exact isFlat_nil
    | some node =>
      rcases node with ⟨id, marks, after⟩
      rw [List.map_append]
      exact (isFlat_node? hnode).append (isFlat_chain id after)

/-- Any other line leaves the blocks alone. -/
theorem isFlat_sights {raw : Text} (h : isFenceLine raw = false) : IsFlat (sights raw) := by
  rw [isFenceLine, Bool.or_eq_false_iff, decide_eq_false_iff_not, decide_eq_false_iff_not] at h
  rw [sights_eq]
  split
  · exact isFlat_nil
  · exact (isFlat_headerSights raw).append (isFlat_statementSights h.1 h.2)

/-- The blocks that are open depend on no other lines than those that open and close
    them. -/
theorem foldl_nest_filter (ls : List Text) (depth : Nat × Nat) :
    (ls.flatMap sights).foldl Sight.nest depth
      = ((ls.filter isFenceLine).flatMap sights).foldl Sight.nest depth := by
  induction ls generalizing depth with
  | nil => rfl
  | cons l ls ih =>
    rw [List.flatMap_cons, List.foldl_append, ih]
    -- A line that is left out leaves the blocks as they are.
    by_cases hl : isFenceLine l = true
    · rw [List.filter_cons_of_pos hl, List.flatMap_cons, List.foldl_append]
    · rw [List.filter_cons_of_neg hl, isFlat_sights (Bool.eq_false_iff.2 hl)]

/-- What lines show does not depend on those that say nothing. -/
theorem flatMap_sights_filter (ls : List Text) :
    (ls.filter isBusyLine).flatMap sights = ls.flatMap sights := by
  induction ls with
  | nil => rfl
  | cons l ls ih =>
    by_cases hl : isBusyLine l = true
    · rw [List.filter_cons_of_pos hl, List.flatMap_cons, List.flatMap_cons, ih]
    · have hidle : Grammar.isIdle l.trim = true := by simpa [isBusyLine] using hl
      rw [List.filter_cons_of_neg hl, List.flatMap_cons, sights_of_isIdle hidle, ih,
        List.nil_append]

/-! ### Reports -/

/-- The report about a text that begins with a header, from its rows. -/
theorem lint_unplaced_perm_of_rows {t header : Text} {more : List Text}
    (ht : rows t = header :: more) (hheader : Survey.IsHeader header) :
    ((lint t).issues.map Issue.unplaced).Perm
      ((findings (Survey.headerSights header ++ more.flatMap sights)).map
        fun f => f.issue none none) := by
  rcases List.map_eq_cons_iff.1 ht with ⟨first, segments, hsegments, rfl, rfl⟩
  rw [List.flatMap_map]
  exact lint_unplaced_perm hsegments hheader

section Rearranged

variable {t t' header : Text} {more more' : List Text}

/-- Rearranged texts have the same report but for the places, if the lines that open
    and close blocks keep their order. -/
theorem unplaced_perm_of_rearranged (ht : rows t = header :: more)
    (ht' : rows t' = header :: more') (hheader : Survey.IsHeader header)
    (hperm : (more.filter isBusyLine).Perm (more'.filter isBusyLine))
    (hfences : more.filter isFenceLine = more'.filter isFenceLine) :
    ((lint t).issues.map Issue.unplaced).Perm ((lint t').issues.map Issue.unplaced) := by
  have hsights : (more.flatMap sights).Perm (more'.flatMap sights) := by
    rw [← flatMap_sights_filter more, ← flatMap_sights_filter more']
    exact hperm.flatMap_right _
  -- The order matters for blocks alone, and there it is the same.
  have hnest : (Survey.headerSights header ++ more.flatMap sights).foldl Sight.nest (0, 0)
      = (Survey.headerSights header ++ more'.flatMap sights).foldl Sight.nest (0, 0) := by
    rw [List.foldl_append, List.foldl_append, foldl_nest_filter more, foldl_nest_filter more',
      hfences]
  have hfindings := findings_perm_of_perm (hsights.append_left _) hnest
  exact ((lint_unplaced_perm_of_rows ht hheader).trans (hfindings.map _)).trans
    (lint_unplaced_perm_of_rows ht' hheader).symm

/-- Two texts begin with the same header, and the same lines follow in another order,
    apart from lines that say nothing. If the lines that the linter reads as `subgraph`
    or `end` keep their order, it reports the same codes with the same messages, each as
    often. -/
theorem lint_perm_of_rearranged (ht : rows t = header :: more)
    (ht' : rows t' = header :: more') (hheader : Survey.IsHeader header)
    (hperm : (more.filter isBusyLine).Perm (more'.filter isBusyLine))
    (hfences : more.filter isFenceLine = more'.filter isFenceLine) :
    ((lint t).issues.map fun i => (i.code, i.message)).Perm
      ((lint t').issues.map fun i => (i.code, i.message)) := by
  have hperm := (unplaced_perm_of_rearranged ht ht' hheader hperm hfences).map
    fun i => (i.code, i.message)
  rwa [List.map_map, List.map_map] at hperm

end Rearranged

/-- A use before its declaration and after it, inside a block and outside. -/
theorem lint_perm_of_rearranged_use :
    rows "flowchart TB\na --> b\nsubgraph s\na[\"A\"]\nend".toList
        = "flowchart TB".toList ::
          ["a --> b".toList, "subgraph s".toList, "a[\"A\"]".toList, "end".toList] ∧
      rows "flowchart TB\na[\"A\"]\r\nsubgraph s\n\nend\na --> b\n".toList
        = "flowchart TB".toList ::
          ["a[\"A\"]".toList, "subgraph s".toList, [], "end".toList, "a --> b".toList, []] ∧
      ((lint "flowchart TB\na --> b\nsubgraph s\na[\"A\"]\nend".toList).issues.map
          fun i => (i.code, i.message)).Perm
        ((lint "flowchart TB\na[\"A\"]\r\nsubgraph s\n\nend\na --> b\n".toList).issues.map
          fun i => (i.code, i.message)) := by
  refine ⟨?rows, ?rows', lint_perm_of_rearranged ?rows ?rows' (Or.inl ?header) ?perm ?fences⟩
  case rows => decide
  case rows' => decide
  case header => decide
  case perm => decide
  case fences => decide

/-- The lines of blocks cannot be moved past each other. -/
example :
    (∀ i ∈ (lint "flowchart TB\nsubgraph s\nend".toList).issues, i.code ≠ .unmatchedEnd) ∧
      ∃ i ∈ (lint "flowchart TB\nend\nsubgraph s".toList).issues, i.code = .unmatchedEnd := by
  simp only [mem_issues_lint]
  decide +kernel

end Lint

end Flowchart
