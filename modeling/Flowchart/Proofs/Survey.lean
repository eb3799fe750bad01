import Flowchart.Proofs.Distinct
import Flowchart.Proofs.Sight
import Mathlib.Data.List.Perm.Basic

/-!
# What Sights Add Up To

The report about a text, stated in terms of the sights of its lines.

A survey is a fold over marks that keeps lists in several orders, and positions
in all of them. Without the positions little is left of it. Every fault is
reported. A node that is declared more than once is reported for every time but
one. Blocks are counted as they are opened and closed. A reference to a node
needs a declaration or a block of that name somewhere, and a node must not be an
end of too many edges.

`Survey.Holds` says that a survey holds just that. One more mark preserves it,
so it holds after every line, and at the end of a text the report can be read
off. In this form most of a report does not depend on the order of lines at all.

## Main definitions

* `repeats`: The items of a list that come again, once for every time.
* `Lint.Sight.nest`: What a sight does to the blocks that are open.
* `Lint.findings`: What is wrong with lines that show some sights.
* `Lint.Survey.Holds`: A survey holds what some sights add up to.

## Theorems

* `Lint.Survey.Holds.add`: One more mark.
* `Lint.Survey.Holds.lines`: All marks of some lines.
* `Lint.lint_unplaced_perm`: The report about a text with a header.
-/

namespace Flowchart

/-! ### Items that come again -/

section Repeats

variable {α : Type} [DecidableEq α]

/-- The items of a list that come again later in it. -/
def repeats : List α → List α
  | [] => []
  | a :: l => if a ∈ l then a :: repeats l else repeats l

theorem repeats_of_nodup {l : List α} (h : l.Nodup) : repeats l = [] := by
  induction l with
  | nil => rfl
  | cons a l ih =>
    rw [List.nodup_cons] at h
    rw [repeats, if_neg h.1, ih h.2]

/-- One more item at the end comes again if it was there. -/
theorem repeats_concat (l : List α) (a : α) :
    (repeats (l ++ [a])).Perm (repeats l ++ if a ∈ l then [a] else []) := by
  induction l with
  | nil => exact List.Perm.refl _
  | cons b l ih =>
    rw [List.cons_append, repeats, repeats]
    by_cases hb : b ∈ l
    · have hmem : a ∈ b :: l ↔ a ∈ l := by
        rw [List.mem_cons, or_iff_right_of_imp fun heq => heq ▸ hb]
      rw [if_pos (List.mem_append_left _ hb), if_pos hb, List.cons_append]
      simp only [hmem]
      exact ih.cons b
    · rw [if_neg hb]
      by_cases hab : b = a
      · -- The item at the front comes again now, and it did not before.
        subst hab
        rw [if_neg hb, List.append_nil] at ih
        rw [if_pos (List.mem_append_right _ (List.mem_singleton_self b)),
          if_pos List.mem_cons_self]
        exact (ih.cons b).trans (List.perm_append_singleton b _).symm
      · have hfront : b ∉ l ++ [a] := by
          rw [List.mem_append, List.mem_singleton, not_or]
          exact ⟨hb, hab⟩
        have hmem : a ∈ b :: l ↔ a ∈ l := by
          rw [List.mem_cons, or_iff_right fun heq => hab heq.symm]
        rw [if_neg hfront]
        simp only [hmem]
        exact ih

end Repeats

/-- An issue without its place. -/
def Issue.unplaced (i : Issue) : Issue := { i with line := none, span := none }

namespace Lint

/-! ### Sights -/

namespace Sight

/-- The fault that is seen. -/
def fault? : Sight → Option Finding
  | .fault f => some f
  | _ => none

/-- The node that is declared. -/
def declared? : Sight → Option Text
  | .declares id => some id
  | _ => none

/-- The node that is referred to. -/
def referred? : Sight → Option Text
  | .refersTo id => some id
  | _ => none

/-- The name of the block that is opened, if it has one. -/
def blockName? : Sight → Option Text
  | .opens name => if name.isEmpty then none else some name
  | _ => none

/-- The ends of the edge that is seen. -/
def ends : Sight → List Text
  | .connects source target => [source, target]
  | _ => []

/-- The number of blocks that are open and of those that were closed without
    being open, after one more sight. -/
def nest : Nat × Nat → Sight → Nat × Nat
  | (opened, stray), .opens _ => (opened + 1, stray)
  | (0, stray), .closes => (0, stray + 1)
  | (opened + 1, stray), .closes => (opened, stray)
  | depth, _ => depth

end Sight

/-- What is found while lines are read that show some sights. -/
def earlyFindings (ss : List Sight) : List Finding :=
  ss.filterMap Sight.fault? ++ (repeats (ss.filterMap Sight.declared?)).map .duplicateNode
    ++ List.replicate (ss.foldl Sight.nest (0, 0)).2 .unmatchedEnd

/-- The nodes that are referred to and declared nowhere. -/
def missingNodes (ss : List Sight) : List Text :=
  firsts id ((ss.filterMap Sight.referred?).filter fun id =>
    id ∉ ss.filterMap Sight.declared? ∧ id ∉ ss.filterMap Sight.blockName?)

/-- The nodes at which too many edges meet. -/
def crowdedNodes (ss : List Sight) : List Text :=
  (firsts id (ss.flatMap Sight.ends)).filter fun id => maxFanOut < (ss.flatMap Sight.ends).count id

/-- What is wrong with lines that show some sights. -/
def findings (ss : List Sight) : List Finding :=
  earlyFindings ss ++ List.replicate (ss.foldl Sight.nest (0, 0)).1 .unclosedSubgraph
    ++ (missingNodes ss).map .undeclaredNode
    ++ (crowdedNodes ss).map fun id => .fanOut id ((ss.flatMap Sight.ends).count id)

namespace Survey

/-! ### One mark -/

section Mark

variable (number : Nat) (s : Survey) (m : Mark)

/-- What a mark adds to the lists of a survey, apart from findings. -/
theorem add_spec :
    (s.add number m).headerSeen = s.headerSeen ∧
      (s.add number m).blocks = s.blocks ++ m.sight.blockName?.toList ∧
      (s.add number m).references.map (·.1)
        = s.references.map (·.1) ++ m.sight.referred?.toList ∧
      (s.add number m).ends = s.ends ++ m.sight.ends := by
  have hnil : ∀ {α : Type} (l : List α), l = l ++ [] := fun l => (List.append_nil l).symm
  -- Each mark adds to the one list that it is about.
  cases m with
  | found f span => exact ⟨rfl, hnil _, hnil _, hnil _⟩
  | declares id span =>
    rw [add]
    split <;> exact ⟨rfl, hnil _, hnil _, hnil _⟩
  | refersTo id span => exact ⟨rfl, hnil _, List.map_append, hnil _⟩
  | connects source target => exact ⟨rfl, hnil _, hnil _, rfl⟩
  | opens name =>
    refine ⟨rfl, ?_, hnil _, hnil _⟩
    rw [add, Mark.sight, Sight.blockName?]
    split
    · exact hnil _
    · rfl
  | closes span =>
    rw [add]
    split <;> exact ⟨rfl, hnil _, hnil _, hnil _⟩

theorem isDeclared_add (id : Text) :
    (s.add number m).isDeclared id = (s.isDeclared id || decide (m.sight.declared? = some id)) := by
  cases m with
  | declares id' span =>
    rw [add]
    split
    · rename_i hdeclared
      -- A second declaration is reported and not added, so the id was declared before.
      by_cases hid : id' = id
      · subst hid
        exact hdeclared.trans (by rw [hdeclared, Bool.true_or])
      · simp [report, isDeclared, Mark.sight, Sight.declared?, hid]
    · simp [isDeclared, Mark.sight, Sight.declared?]
  | closes span =>
    rw [add]
    split <;> simp [report, isDeclared, Mark.sight, Sight.declared?]
  | _ => simp [add, report, isDeclared, Mark.sight, Sight.declared?]

/-- What is found when a sight is added to a survey. -/
def remarks (s : Survey) : Sight → List Finding
  | .fault f => [f]
  | .declares id => if s.isDeclared id then [.duplicateNode id] else []
  | .closes => if s.openBlocks.length = 0 then [.unmatchedEnd] else []
  | _ => []

theorem issues_add :
    (s.add number m).issues.map Issue.unplaced
      = s.issues.map Issue.unplaced ++ (s.remarks m.sight).map fun f => f.issue none none := by
  cases m with
  | found f span => exact List.map_append
  | declares id span =>
    rw [add, Mark.sight, remarks]
    split
    · exact List.map_append
    · exact (List.append_nil _).symm
  | closes span =>
    rw [add, Mark.sight, remarks]
    cases s.openBlocks with
    | nil => exact List.map_append
    | cons line outer => exact (List.append_nil _).symm
  | _ => exact (List.append_nil _).symm

theorem length_openBlocks_add (stray : Nat) :
    (s.add number m).openBlocks.length = (Sight.nest (s.openBlocks.length, stray) m.sight).1 := by
  cases m with
  | declares id span =>
    rw [add]
    split <;> rfl
  | closes span =>
    rw [add, Mark.sight]
    rcases hopen : s.openBlocks with _ | ⟨line, outer⟩
    · rw [report, hopen]
      rfl
    · rfl
  | _ => rfl

end Mark

/-! ### Many marks -/

/-- A survey holds what some sights add up to. -/
structure Holds (s : Survey) (ss : List Sight) : Prop where
  headerSeen : s.headerSeen = true
  issues : (s.issues.map Issue.unplaced).Perm ((earlyFindings ss).map fun f => f.issue none none)
  declared : ∀ id, s.isDeclared id = true ↔ id ∈ ss.filterMap Sight.declared?
  blocks : s.blocks = ss.filterMap Sight.blockName?
  references : s.references.map (·.1) = ss.filterMap Sight.referred?
  ends : s.ends = ss.flatMap Sight.ends
  opened : s.openBlocks.length = (ss.foldl Sight.nest (0, 0)).1

theorem filterMap_concat {α β : Type} (f : α → Option β) (l : List α) (a : α) :
    (l ++ [a]).filterMap f = l.filterMap f ++ (f a).toList := by
  rw [List.filterMap_append, List.filterMap_cons, List.filterMap_nil]
  cases f a <;> rfl

/-- One more sight is one more finding if it is remarked on. -/
theorem Holds.earlyFindings_concat {s : Survey} {ss : List Sight} (h : s.Holds ss) (x : Sight) :
    (earlyFindings (ss ++ [x])).Perm (earlyFindings ss ++ s.remarks x) := by
  -- The three kinds of findings stay apart, so each new one lands amid the others.
  rw [List.perm_iff_count]
  intro f
  unfold earlyFindings
  simp only [filterMap_concat, List.foldl_concat, List.count_append]
  cases x with
  | fault g =>
    simp only [Sight.fault?, Sight.declared?, Sight.nest, remarks, Option.toList_some,
      Option.toList_none, List.append_nil]
    omega
  | declares id =>
    have hrepeats := ((repeats_concat (ss.filterMap Sight.declared?) id).map
      Finding.duplicateNode).count_eq f
    rw [List.map_append, List.count_append] at hrepeats
    simp only [Sight.fault?, Sight.declared?, Sight.nest, remarks, Option.toList_some,
      Option.toList_none, List.count_nil]
    by_cases hid : id ∈ ss.filterMap Sight.declared?
    · rw [if_pos hid] at hrepeats
      rw [if_pos ((h.declared id).2 hid), hrepeats, List.map_singleton]
      omega
    · rw [if_neg hid] at hrepeats
      rw [if_neg fun hdeclared => hid ((h.declared id).1 hdeclared), hrepeats, List.map_nil]
      omega
  | closes =>
    simp only [Sight.fault?, Sight.declared?, remarks, Option.toList_none, List.append_nil,
      h.opened]
    -- A block that is closed was open, or it is one more that was not.
    rcases ss.foldl Sight.nest (0, 0) with ⟨_ | opened, stray⟩
    · simp only [Sight.nest, List.replicate_succ', List.count_append, List.count_nil, if_true]
      omega
    · simp only [Sight.nest, Nat.add_one_ne_zero, if_false, List.count_nil]
      omega
  | _ =>
    simp only [Sight.fault?, Sight.declared?, Sight.nest, remarks, Option.toList_none,
      List.append_nil, List.count_nil]
    omega

/-- One more mark adds one more sight. -/
theorem Holds.add {s : Survey} {ss : List Sight} (h : s.Holds ss) (number : Nat) (m : Mark) :
    (s.add number m).Holds (ss ++ [m.sight]) := by
  rcases add_spec number s m with ⟨hheader, hblocks, hreferences, hends⟩
  -- The number of blocks that are open does not depend on the stray ends before.
  have hopened := length_openBlocks_add number s m (ss.foldl Sight.nest (0, 0)).2
  rw [h.opened] at hopened
  exact {
    headerSeen := hheader.trans h.headerSeen
    issues := by
      rw [issues_add]
      refine (h.issues.append_right _).trans ?_
      rw [← List.map_append]
      exact (h.earlyFindings_concat m.sight).symm.map _
    declared := fun id => by
      rw [isDeclared_add, Bool.or_eq_true, h.declared, decide_eq_true_eq, filterMap_concat,
        List.mem_append, Option.mem_toList]
    blocks := by rw [hblocks, h.blocks, filterMap_concat]
    references := by rw [hreferences, h.references, filterMap_concat]
    ends := by rw [hends, h.ends, List.flatMap_append, List.flatMap_singleton]
    opened := by rw [hopened, List.foldl_concat] }

theorem Holds.marks {s : Survey} {ss : List Sight} (h : s.Holds ss) (number : Nat)
    (ms : List Mark) : (ms.foldl (Survey.add number) s).Holds (ss ++ ms.map Mark.sight) := by
  induction ms generalizing s ss with
  | nil =>
    rw [List.map_nil, List.append_nil]
    exact h
  | cons m ms ih =>
    have hrest := ih (h.add number m)
    rwa [List.append_assoc, List.singleton_append, ← List.map_cons] at hrest

/-! ### Lines -/

/-- A line without the carriage return that may end it. -/
def withoutReturn (segment : Text) : Text := (Text.dropSuffix? ['\r'] segment).getD segment

theorem headerSeen_foldl_add (number : Nat) (s : Survey) (ms : List Mark) :
    (ms.foldl (add number) s).headerSeen = s.headerSeen := by
  induction ms generalizing s with
  | nil => rfl
  | cons m ms ih => exact (ih (s.add number m)).trans (add_spec number s m).1

/-- Once a header has been seen, a line adds its marks. -/
theorem line_eq {s : Survey} (h : s.headerSeen = true) (number offset : Nat) (raw : Text) :
    s.line number offset raw = (lineMarks offset raw).foldl (add number) s := by
  unfold line lineMarks
  by_cases hidle : Grammar.isIdle raw.trim = true
  · rw [if_pos hidle]
    exact if_pos hidle
  · rw [if_neg hidle, List.foldl_append]
    refine (if_neg hidle).trans (if_pos ?_)
    rw [headerSeen_foldl_add, h]

theorem Holds.line {s : Survey} {ss : List Sight} (h : s.Holds ss) (number offset : Nat)
    (raw : Text) : (s.line number offset raw).Holds (ss ++ sights raw) := by
  rw [line_eq h.headerSeen, ← sight_lineMarks offset raw]
  exact h.marks number _

/-- All marks of some lines add all that the lines show. -/
theorem Holds.lines {s : Survey} {ss : List Sight} (h : s.Holds ss) (number offset : Nat)
    (segments : List Text) :
    (Survey.lines number offset s segments).Holds
      (ss ++ segments.flatMap fun l => sights (withoutReturn l)) := by
  induction segments generalizing s ss number offset with
  | nil =>
    rw [List.flatMap_nil, List.append_nil]
    exact h
  | cons segment more ih =>
    have hrest := ih (h.line number offset (withoutReturn segment)) (number + 1)
      (offset + segment.size + 1)
    rw [List.flatMap_cons, ← List.append_assoc]
    exact hrest

/-! ### The header -/

/-- A line that begins with one of the words that begin a header. -/
def IsHeader (raw : Text) : Prop :=
  raw.trim.takeWhile (!isBlank ·) = "flowchart".toList ∨
    raw.trim.takeWhile (!isBlank ·) = "graph".toList

/-- What the header shows: nothing but a typographic character, if it has one. -/
def headerSights (raw : Text) : List Sight :=
  ((raw.find? isTypographic).map fun c => .fault (.typographic c)).toList

theorem not_isIdle_of_isHeader {raw : Text} (h : IsHeader raw) :
    Grammar.isIdle raw.trim = false := by
  -- A comment begins with another character than the two words do.
  rcases htrim : raw.trim with _ | ⟨c, t⟩
  · rw [IsHeader, htrim] at h
    exact absurd h (by decide)
  · rw [Grammar.isIdle, List.isEmpty_cons, Bool.false_or]
    by_contra hcomment
    rw [Bool.not_eq_false, List.isPrefixOf_iff_prefix] at hcomment
    have hc : c = '%' := (List.cons_prefix_cons.1 hcomment).1.symm
    rw [IsHeader, htrim, hc, List.takeWhile_cons_of_pos (by decide)] at h
    rcases h with h | h
    · exact absurd (List.cons.inj h).1 (by decide)
    · exact absurd (List.cons.inj h).1 (by decide)

theorem holds_nil : ({ headerSeen := true } : Survey).Holds [] where
  headerSeen := rfl
  issues := List.Perm.refl _
  declared id := by simp [isDeclared]
  blocks := rfl
  references := rfl
  ends := rfl
  opened := rfl

/-- The first line of a text, if it is a header. -/
theorem holds_header {raw : Text} (h : IsHeader raw) :
    (Survey.line 1 0 raw {}).Holds (headerSights raw) := by
  -- A header is not read any further, apart from its characters.
  have hline : Survey.line 1 0 raw {}
      = (typographicMark? 0 raw).toList.foldl (add 1) { headerSeen := true } := by
    have hnot : ¬ Grammar.isIdle raw.trim = true := by
      rw [not_isIdle_of_isHeader h]
      decide
    have hkeyword : (decide (raw.trim.takeWhile (!isBlank ·) = "flowchart".toList)
        || decide (raw.trim.takeWhile (!isBlank ·) = "graph".toList)) = true := by
      rw [Bool.or_eq_true, decide_eq_true_eq, decide_eq_true_eq]
      exact h
    unfold line
    refine (if_neg hnot).trans ?_
    unfold typographicMark?
    cases raw.dropWhile (!isTypographic ·) with
    | nil => exact if_pos hkeyword
    | cons c rest => exact if_pos hkeyword
  rw [hline]
  have hmarks := holds_nil.marks 1 (typographicMark? 0 raw).toList
  rwa [List.nil_append, ← Option.toList_map, sight_typographicMark?] at hmarks

/-! ### The report -/

theorem Holds.unclosed_map {s : Survey} {ss : List Sight} (h : s.Holds ss) :
    s.unclosed.map Issue.unplaced
      = (List.replicate (ss.foldl Sight.nest (0, 0)).1 Finding.unclosedSubgraph).map
        fun f => f.issue none none := by
  rw [unclosed, List.map_map, List.map_replicate, ← h.opened, ← List.length_reverse]
  exact List.map_eq_replicate_iff.2 fun _ _ => rfl

theorem Holds.undeclared_map {s : Survey} {ss : List Sight} (h : s.Holds ss) :
    s.undeclared.map Issue.unplaced
      = ((missingNodes ss).map Finding.undeclaredNode).map fun f => f.issue none none := by
  have hmissing : ((s.references.filter fun r => !s.isDeclared r.1 && !s.blocks.contains r.1).map
      fun r => r.1) = (ss.filterMap Sight.referred?).filter fun id =>
        id ∉ ss.filterMap Sight.declared? ∧ id ∉ ss.filterMap Sight.blockName? := by
    rw [← h.references, List.filter_map]
    refine congrArg _ (List.filter_congr fun r _ => ?_)
    rw [Bool.eq_iff_iff, Bool.and_eq_true, Bool.not_eq_true', Bool.not_eq_true', ← Bool.not_eq_true,
      ← Bool.not_eq_true, h.declared, h.blocks, List.contains_iff_mem, Function.comp_apply,
      decide_eq_true_eq]
  rw [missingNodes, ← hmissing, ← map_firsts, undeclared, List.map_map, List.map_map, List.map_map]
  rfl

theorem Holds.crowded_map {s : Survey} {ss : List Sight} (h : s.Holds ss) :
    s.crowded.map Issue.unplaced
      = ((crowdedNodes ss).map fun id => Finding.fanOut id ((ss.flatMap Sight.ends).count id)).map
        fun f => f.issue none none := by
  rw [Survey.crowded, h.ends, List.map_map, List.map_map]
  rfl

/-- The report about a text whose lines have all been read. -/
theorem Holds.finish {s : Survey} {ss : List Sight} (h : s.Holds ss) :
    (s.finish.issues.map Issue.unplaced).Perm
      ((findings ss).map fun f => f.issue none none) := by
  -- A header has been seen, and the order by lines does not matter here.
  have hsort : s.finish.issues.Perm (s.issues ++ [] ++ s.unclosed ++ s.undeclared ++ s.crowded) := by
    unfold Survey.finish
    rw [h.headerSeen]
    exact List.mergeSort_perm _ _
  refine (hsort.map _).trans ?_
  unfold findings
  simp only [List.append_nil, List.map_append, h.unclosed_map, h.undeclared_map, h.crowded_map]
  exact ((h.issues.append_right _).append_right _).append_right _

end Survey

/-- The report about a text that begins with a header says what is wrong with the
    sights of its lines, and nothing else. -/
theorem lint_unplaced_perm {t header : Text} {more : List Text} (ht : t.segments = header :: more)
    (hheader : Survey.IsHeader (Survey.withoutReturn header)) :
    ((lint t).issues.map Issue.unplaced).Perm
      ((findings (Survey.headerSights (Survey.withoutReturn header)
        ++ more.flatMap fun l => sights (Survey.withoutReturn l))).map
          fun f => f.issue none none) := by
  have hlines := (Survey.holds_header hheader).lines 2 (0 + header.size + 1) more
  rw [lint, ht]
  exact hlines.finish

end Lint

end Flowchart
