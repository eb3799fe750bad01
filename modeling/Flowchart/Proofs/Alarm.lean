import Flowchart.Proofs.Ending

/-!
# Alarms

The report about any text, with a header or without one, and what of it is about
syntax.

Lines that say nothing are passed over until the first that does. If that is no
header, the linter complains and reads it as a statement after all. Either way
it has begun, and from there on the report is what the sights add up to.

Ten codes are about the syntax of a text, and all of them are severe. Some are
faults of a single line. Those about blocks are not: they say that at the end of
the text some block is open, or that one was closed which was not.

## Main definitions

* `IssueCode.syntactic`: The codes of findings about syntax.
* `Lint.openingSights`: What the first line that says something shows.
* `Lint.Opens`: A text opens with a line, after lines that say nothing.
* `Lint.Alarms`: Some sight is a fault of syntax.
* `Lint.IsFlat`: Sights that neither open nor close a block.

## Theorems

* `Lint.lint_unplaced_perm_of_opens`: The report about a text that says something.
* `Lint.issues_lint_of_isIdle`: The report about a text that says nothing.
* `Lint.exists_syntactic_iff`: When something about syntax is reported.
* `Lint.not_exists_syntactic_of_ok`: Nothing about syntax is in a good report.
-/

namespace Flowchart

/-- The codes of findings about the syntax of a text. -/
def IssueCode.syntactic : List IssueCode :=
  [.missingHeader, .unclosedSubgraph, .unmatchedEnd, .reservedKeywordId, .digitLeadingId,
    .nonAsciiId, .closerInLabel, .quoteInLabel, .quotedEdgeLabel, .invalidEdgeSyntax]

/-- All of them are severe. -/
theorem IssueCode.severity_of_mem_syntactic {c : IssueCode} (h : c ∈ syntactic) :
    c.severity = .high := by
  have hall : ∀ c ∈ syntactic, c.severity = .high := by decide
  exact hall c h

namespace Lint

/-! ### The opening of a text -/

instance (raw : Text) : Decidable (Survey.IsHeader raw) :=
  inferInstanceAs (Decidable (_ ∨ _))

/-- What the first line that says something shows: a typographic character, if it
    has one, and a fault and a statement if it is no header. -/
def openingSights (raw : Text) : List Sight :=
  Survey.headerSights raw ++
    if Survey.IsHeader raw then []
    else .fault (.wrongHeader (raw.trim.takeWhile (!isBlank ·))) ::
      statementSights (statementText raw)

/-- A text opens with a line: the lines before say nothing, and some follow. -/
structure Opens (t h : Text) (before after : List Text) : Prop where
  lines : t.lines = before ++ h :: after
  before : ∀ l ∈ before, Grammar.isIdle l.trim = true
  opening : Grammar.isIdle h.trim = false

/-- A text says nothing, or it opens with some line. -/
theorem exists_opens (t : Text) :
    (∀ l ∈ t.lines, Grammar.isIdle l.trim = true) ∨ ∃ h before after, Opens t h before after := by
  by_cases hall : ∀ l ∈ t.lines, Grammar.isIdle l.trim = true
  · exact Or.inl hall
  · refine Or.inr ?_
    -- The text opens with the first line that says something.
    rcases hrest : t.lines.dropWhile fun l => Grammar.isIdle l.trim with _ | ⟨h, after⟩
    · exact absurd (List.dropWhile_eq_nil_iff.1 hrest) hall
    · have hsplit : t.lines.takeWhile (fun l => Grammar.isIdle l.trim) ++ h :: after = t.lines := by
        rw [← hrest]
        exact List.takeWhile_append_dropWhile
      refine ⟨h, _, after, hsplit.symm, fun l hl => ?_, ?_⟩
      · exact List.mem_takeWhile_imp (p := fun l : Text => Grammar.isIdle l.trim) hl
      · have hnot := List.head?_dropWhile_not (fun l : Text => Grammar.isIdle l.trim) t.lines
        rw [hrest] at hnot
        simpa using hnot

namespace Survey

theorem line_of_isIdle {raw : Text} (h : Grammar.isIdle raw.trim = true) (number offset : Nat)
    (s : Survey) : s.line number offset raw = s := if_pos h

/-- Lines that say nothing are passed over. -/
theorem lines_of_isIdle {before : List Text}
    (h : ∀ l ∈ before, Grammar.isIdle (withoutReturn l).trim = true) (number offset : Nat)
    (s : Survey) (more : List Text) :
    ∃ number' offset', Survey.lines number offset s (before ++ more)
      = Survey.lines number' offset' s more := by
  induction before generalizing number offset with
  | nil => exact ⟨number, offset, rfl⟩
  | cons l before ih =>
    -- Numbers and offsets move on all the same, so they are what the induction is
    -- general in.
    rcases ih (fun m hm => h m (List.mem_cons_of_mem l hm)) (number + 1) (offset + l.size + 1)
      with ⟨number', offset', hlines⟩
    refine ⟨number', offset', hlines ▸ ?_⟩
    have hline := line_of_isIdle (h l List.mem_cons_self) number offset s
    rw [List.cons_append, Survey.lines]
    exact congrArg (fun s => Survey.lines (number + 1) (offset + l.size + 1) s (before ++ more)) hline

/-- Wherever a finding is reported, it adds a fault. -/
theorem Holds.report {s : Survey} {ss : List Sight} (h : s.Holds ss) (f : Finding)
    (line : Option Nat) (span : Option Span) :
    (s.report (f.issue line span)).Holds (ss ++ [.fault f]) := by
  -- A fault that is added at the end of the sights is reported on no line, and lines
  -- are the only difference.
  have hadd := h.add 0 (.found f ⟨0, 0⟩)
  refine ⟨h.headerSeen, ?_, hadd.declared, hadd.blocks, hadd.references, hadd.ends, hadd.opened⟩
  have hissues := hadd.issues
  have hunplaced : (s.report (f.issue line span)).issues.map Issue.unplaced
      = (s.add 0 (.found f ⟨0, 0⟩)).issues.map Issue.unplaced := by
    rw [Survey.report, Survey.add, Survey.report, List.map_append, List.map_append]
    rfl
  rw [hunplaced]
  exact hissues

/-- The first line that says something. -/
theorem holds_opening {raw : Text} (h : Grammar.isIdle raw.trim = false) (number offset : Nat) :
    (Survey.line number offset raw {}).Holds (openingSights raw) := by
  have hline : Survey.line number offset raw {}
      = addHeader number offset raw
        ((typographicMark? offset raw).toList.foldl (add number) {}) := by
    have hseen : ((typographicMark? offset raw).toList.foldl (add number) {}).headerSeen = false :=
      headerSeen_foldl_add number {} _
    unfold line
    refine (if_neg (Bool.not_eq_true _ ▸ h)).trans (if_neg ?_)
    rw [hseen]
    decide
  have hmarks : ({ (typographicMark? offset raw).toList.foldl (add number) {} with
      headerSeen := true } : Survey).Holds (headerSights raw) := by
    have hholds := holds_nil.marks number (typographicMark? offset raw).toList
    rw [List.nil_append, ← Option.toList_map, sight_typographicMark?] at hholds
    have hsame : ({ (typographicMark? offset raw).toList.foldl (add number) {} with
        headerSeen := true } : Survey)
          = (typographicMark? offset raw).toList.foldl (add number) { headerSeen := true } := by
      unfold typographicMark?
      cases raw.dropWhile (!isTypographic ·) with
      | nil => rfl
      | cons c rest => rfl
    rw [hsame]
    exact hholds
  have hkeyword : (decide (raw.trim.takeWhile (!isBlank ·) = "flowchart".toList)
      || decide (raw.trim.takeWhile (!isBlank ·) = "graph".toList)) = true ↔ IsHeader raw := by
    rw [Bool.or_eq_true, decide_eq_true_eq, decide_eq_true_eq]
    exact Iff.rfl
  rw [hline, openingSights, addHeader]
  by_cases hheader : IsHeader raw
  · rw [if_pos hheader, List.append_nil]
    rw [if_pos (hkeyword.2 hheader)]
    exact hmarks
  · rw [if_neg hheader]
    rw [if_neg fun hk => hheader (hkeyword.1 hk)]
    -- After the complaint, the line is read like any other.
    have hreported := hmarks.report (.wrongHeader (raw.trim.takeWhile (!isBlank ·))) (some number)
      none
    have hstatement := hreported.marks number (statement offset raw)
    rcases exists_statement_eq offset raw with ⟨c, hc, heq⟩
    have hsights : (statement offset raw).map Mark.sight = statementSights (statementText raw) := by
      rw [heq]
      exact statementAt_congr hc
    rw [hsights, List.append_assoc, List.singleton_append] at hstatement
    exact hstatement

end Survey

/-! ### The report about any text -/

theorem isIdle_withoutReturn (raw : Text) :
    Grammar.isIdle (Survey.withoutReturn raw).trim = Grammar.isIdle raw.trim := by
  rw [(withoutReturn_spec raw).1]

theorem openingSights_withoutReturn (raw : Text) :
    openingSights (Survey.withoutReturn raw) = openingSights raw := by
  rcases withoutReturn_spec raw with ⟨htrim, hheader⟩
  have hiff : Survey.IsHeader (Survey.withoutReturn raw) ↔ Survey.IsHeader raw := by
    unfold Survey.IsHeader
    rw [htrim]
  rw [openingSights, openingSights, hheader, htrim, statementText_congr htrim]
  simp only [hiff]

/-- The report about a text that says something is what its sights add up to, from
    the line that it opens with. -/
theorem lint_unplaced_perm_of_opens {t h : Text} {before after : List Text}
    (hopens : Opens t h before after) :
    ((lint t).issues.map Issue.unplaced).Perm
      ((findings (openingSights h ++ after.flatMap sights)).map fun f => f.issue none none) := by
  -- The pieces of the text are its lines, but for an empty piece at the end.
  have hsegments : ∃ more, t.segments = before ++ h :: more ∧
      (more.flatMap fun l => sights (Survey.withoutReturn l)) = after.flatMap sights := by
    have hcongr : ∀ ls : List Text,
        (ls.flatMap fun l => sights (Survey.withoutReturn l)) = ls.flatMap sights :=
      fun ls => List.flatMap_congr fun l _ => sights_withoutReturn l
    rcases Text.segments_eq_lines t with hlines | hlines
    · exact ⟨after, hlines.trans hopens.lines, hcongr after⟩
    · have hnil : sights [] = [] := sights_of_isIdle rfl
      refine ⟨after ++ [[]], ?_, ?_⟩
      · rw [hlines, hopens.lines, List.append_assoc, List.cons_append]
      · rw [hcongr, List.flatMap_append, List.flatMap_singleton, hnil, List.append_nil]
  rcases hsegments with ⟨more, hsegments, hmore⟩
  have hbefore : ∀ l ∈ before, Grammar.isIdle (Survey.withoutReturn l).trim = true := fun l hl =>
    (isIdle_withoutReturn l).trans (hopens.before l hl)
  have hopening : Grammar.isIdle (Survey.withoutReturn h).trim = false :=
    (isIdle_withoutReturn h).trans hopens.opening
  rcases Survey.lines_of_isIdle hbefore 1 0 {} (h :: more) with ⟨number, offset, hlines⟩
  have hholds := (Survey.holds_opening hopening number offset).lines (number + 1)
    (offset + h.size + 1) more
  rw [openingSights_withoutReturn, hmore] at hholds
  rw [lint, hsegments, hlines]
  exact hholds.finish

/-- A text that says nothing is reported to have no header. -/
theorem issues_lint_of_isIdle {t : Text} (h : ∀ l ∈ t.lines, Grammar.isIdle l.trim = true) :
    (lint t).issues = [Finding.noHeader.issue (some 1) none] := by
  have hsegments : ∀ l ∈ t.segments, Grammar.isIdle (Survey.withoutReturn l).trim = true := by
    intro l hl
    rw [isIdle_withoutReturn]
    -- There may be an empty segment behind the last line, which says nothing either.
    rcases Text.segments_eq_lines t with hlines | hlines
    · exact h l (hlines ▸ hl)
    · rw [hlines, List.mem_append, List.mem_singleton] at hl
      rcases hl with hl | rfl
      · exact h l hl
      · rfl
  rcases Survey.lines_of_isIdle hsegments 1 0 {} [] with ⟨number, offset, hlines⟩
  rw [List.append_nil] at hlines
  rw [lint, hlines]
  exact List.mergeSort_singleton _

/-! ### Faults of syntax -/

/-- Some sight is a fault of syntax. -/
def Alarms (ss : List Sight) : Prop := ∃ f, Sight.fault f ∈ ss ∧ f.code ∈ IssueCode.syntactic

@[simp]
theorem not_alarms_nil : ¬ Alarms [] := fun ⟨_, hf, _⟩ => absurd hf List.not_mem_nil

@[simp]
theorem alarms_append (ss ss' : List Sight) : Alarms (ss ++ ss') ↔ Alarms ss ∨ Alarms ss' := by
  constructor
  · rintro ⟨f, hf, hcode⟩
    exact (List.mem_append.1 hf).imp (fun hf => ⟨f, hf, hcode⟩) fun hf => ⟨f, hf, hcode⟩
  · rintro (⟨f, hf, hcode⟩ | ⟨f, hf, hcode⟩)
    · exact ⟨f, List.mem_append_left _ hf, hcode⟩
    · exact ⟨f, List.mem_append_right _ hf, hcode⟩

theorem alarms_of_mem {ss : List Sight} {f : Finding} (h : Sight.fault f ∈ ss)
    (hcode : f.code ∈ IssueCode.syntactic) : Alarms ss := ⟨f, h, hcode⟩

/-- What is no fault raises no alarm. -/
theorem alarms_cons_of_fault?_eq_none {s : Sight} (hs : s.fault? = none) (ss : List Sight) :
    Alarms (s :: ss) ↔ Alarms ss := by
  constructor
  · rintro ⟨f, hf, hcode⟩
    rcases List.mem_cons.1 hf with rfl | hf
    · exact absurd hs (by simp only [Sight.fault?, reduceCtorEq, not_false_eq_true])
    · exact ⟨f, hf, hcode⟩
  · rintro ⟨f, hf, hcode⟩
    exact ⟨f, List.mem_cons_of_mem s hf, hcode⟩

theorem not_alarms_of_fault?_eq_none {s : Sight} (hs : s.fault? = none) : ¬ Alarms [s] := by
  rw [alarms_cons_of_fault?_eq_none hs]
  exact not_alarms_nil

theorem alarms_flatMap {α : Type} {l : List α} {f : α → List Sight} :
    Alarms (l.flatMap f) ↔ ∃ a ∈ l, Alarms (f a) := by
  constructor
  · rintro ⟨g, hg, hcode⟩
    rcases List.mem_flatMap.1 hg with ⟨a, ha, hg⟩
    exact ⟨a, ha, g, hg, hcode⟩
  · rintro ⟨a, ha, g, hg, hcode⟩
    exact ⟨g, List.mem_flatMap.2 ⟨a, ha, hg⟩, hcode⟩

/-- A header shows nothing but a typographic character. -/
theorem exists_of_mem_headerSights {raw : Text} {s : Sight} (h : s ∈ Survey.headerSights raw) :
    ∃ c, s = .fault (.typographic c) := by
  rw [Survey.headerSights, Option.mem_toList, Option.map_eq_some_iff] at h
  rcases h with ⟨c, -, rfl⟩
  exact ⟨c, rfl⟩

/-- A typographic character alone is no fault of syntax. -/
theorem not_alarms_headerSights (raw : Text) : ¬ Alarms (Survey.headerSights raw) := by
  rintro ⟨f, hf, hcode⟩
  rcases exists_of_mem_headerSights hf with ⟨c, hc⟩
  rw [Sight.fault.inj hc] at hcode
  exact absurd hcode (by decide : ¬ IssueCode.unicodePunct ∈ IssueCode.syntactic)

/-! ### Blocks -/

/-- Sights that neither open nor close a block. -/
def IsFlat (ss : List Sight) : Prop := ∀ depth, ss.foldl Sight.nest depth = depth

theorem isFlat_nil : IsFlat [] := fun _ => rfl

theorem IsFlat.append {ss ss' : List Sight} (h : IsFlat ss) (h' : IsFlat ss') :
    IsFlat (ss ++ ss') := by
  intro depth
  rw [List.foldl_append, h, h']

/-- A sight of one of the other kinds. -/
theorem isFlat_of_forall {ss : List Sight}
    (h : ∀ s ∈ ss, s ≠ .closes ∧ ∀ name, s ≠ .opens name) : IsFlat ss := by
  intro depth
  induction ss generalizing depth with
  | nil => rfl
  | cons s ss ih =>
    rcases h s List.mem_cons_self with ⟨hcloses, hopens⟩
    have hs : Sight.nest depth s = depth := by
      -- Only the two sights that are ruled out change the depth.
      cases s with
      | opens name => exact absurd rfl (hopens name)
      | closes => exact absurd rfl hcloses
      | _ => rcases depth with ⟨_ | _, _⟩ <;> rfl
    rw [List.foldl_cons, hs]
    exact ih (fun s' hs' => h s' (List.mem_cons_of_mem s hs')) depth

theorem isFlat_headerSights (raw : Text) : IsFlat (Survey.headerSights raw) := by
  refine isFlat_of_forall fun s hs => ?_
  rcases exists_of_mem_headerSights hs with ⟨c, rfl⟩
  exact ⟨Sight.noConfusion, fun _ => Sight.noConfusion⟩

/-- A block that was closed without being open is not forgotten. -/
theorem le_stray_foldl_nest (ss : List Sight) (depth : Nat × Nat) :
    depth.2 ≤ (ss.foldl Sight.nest depth).2 := by
  induction ss generalizing depth with
  | nil => exact Nat.le_refl _
  | cons s ss ih =>
    refine Nat.le_trans ?_ (ih (Sight.nest depth s))
    -- A block that closes without being open is one more, and nothing takes it back.
    rcases depth with ⟨_ | opened, stray⟩
    · cases s with
      | closes => exact Nat.le_succ stray
      | _ => exact Nat.le_refl stray
    · cases s with
      | _ => exact Nat.le_refl stray

/-! ### Reports -/

/-- What is reported about a text, in the order in which it was found. -/
def Survey.gathered (s : Survey) : List Issue :=
  s.issues ++ (if s.headerSeen then [] else [Finding.noHeader.issue (some 1) none]) ++ s.unclosed
    ++ s.undeclared ++ s.crowded

/-- A report is what was found, sorted by line. -/
theorem mem_issues_lint {t : Text} {i : Issue} :
    i ∈ (lint t).issues ↔ i ∈ (Survey.lines 1 0 {} t.segments).gathered :=
  (List.mergeSort_perm _ _).mem_iff

/-- A report is good if nothing severe was found. -/
theorem ok_lint_iff {t : Text} :
    (lint t).ok = true ↔
      ∀ i ∈ (Survey.lines 1 0 {} t.segments).gathered, i.isHigh = false := by
  rw [Report.ok, Bool.not_eq_true', List.any_eq_false]
  simp only [mem_issues_lint, Bool.not_eq_true]

/-- The faults among sights. -/
theorem mem_filterMap_fault?_iff {ss : List Sight} {f : Finding} :
    f ∈ ss.filterMap Sight.fault? ↔ Sight.fault f ∈ ss := by
  rw [List.mem_filterMap]
  refine ⟨?_, fun h => ⟨_, h, rfl⟩⟩
  rintro ⟨s, hs, hfault⟩
  cases s with
  | fault g =>
    rw [Sight.fault?, Option.some.injEq] at hfault
    exact hfault ▸ hs
  | _ => cases hfault

/-- What is found about syntax is a fault of some line, a block that is left open,
    or one that was not open. -/
theorem exists_mem_findings_iff (ss : List Sight) :
    (∃ f ∈ findings ss, f.code ∈ IssueCode.syntactic) ↔
      Alarms ss ∨ ss.foldl Sight.nest (0, 0) ≠ (0, 0) := by
  have hother : ∀ f : Finding, (∃ id, f = .duplicateNode id ∨ f = .undeclaredNode id ∨
      ∃ n, f = .fanOut id n) → f.code ∉ IssueCode.syntactic := by
    rintro f ⟨id, rfl | rfl | ⟨n, rfl⟩⟩
    · exact (by decide : IssueCode.duplicateNodeId ∉ IssueCode.syntactic)
    · exact (by decide : IssueCode.undeclaredNode ∉ IssueCode.syntactic)
    · exact (by decide : IssueCode.fanOutExceeded ∉ IssueCode.syntactic)
  unfold findings earlyFindings
  constructor
  · rintro ⟨f, hf, hcode⟩
    simp only [List.mem_append, List.mem_map, List.mem_replicate] at hf
    -- A finding is a fault of a line, a duplicate, about blocks, undeclared or a
    -- crowded node, in this order.
    rcases hf with ((((hf | ⟨id, -, rfl⟩) | ⟨hstray, -⟩) | ⟨hopen, -⟩) | ⟨id, -, rfl⟩) | ⟨id, -, rfl⟩
    · exact Or.inl ⟨f, mem_filterMap_fault?_iff.1 hf, hcode⟩
    · exact absurd hcode (hother _ ⟨id, Or.inl rfl⟩)
    · exact Or.inr fun heq => hstray (congrArg Prod.snd heq)
    · exact Or.inr fun heq => hopen (congrArg Prod.fst heq)
    · exact absurd hcode (hother _ ⟨id, Or.inr (Or.inl rfl)⟩)
    · exact absurd hcode (hother _ ⟨id, Or.inr (Or.inr ⟨_, rfl⟩)⟩)
  · simp only [List.mem_append, List.mem_map, List.mem_replicate]
    rintro (⟨f, hf, hcode⟩ | hdepth)
    · have hmem := mem_filterMap_fault?_iff.2 hf
      exact ⟨f, Or.inl (Or.inl (Or.inl (Or.inl (Or.inl hmem)))), hcode⟩
    · rcases hnest : ss.foldl Sight.nest (0, 0) with ⟨opened, stray⟩
      rw [hnest] at hdepth
      -- If nothing closed without being open, something is left open.
      by_cases hstray : stray = 0
      · have hopened : opened ≠ 0 := fun heq => hdepth (by rw [heq, hstray])
        exact ⟨.unclosedSubgraph, Or.inl (Or.inl (Or.inr ⟨hopened, rfl⟩)), by decide⟩
      · exact ⟨.unmatchedEnd, Or.inl (Or.inl (Or.inl (Or.inr ⟨hstray, rfl⟩))), by decide⟩

/-- Which codes are reported on a text that says something. -/
theorem exists_code_iff_findings {t h : Text} {before after : List Text}
    (hopens : Opens t h before after) (p : IssueCode → Prop) :
    (∃ i ∈ (lint t).issues, p i.code) ↔
      ∃ f ∈ findings (openingSights h ++ after.flatMap sights), p f.code := by
  have hperm := lint_unplaced_perm_of_opens hopens
  constructor
  · rintro ⟨i, hi, hcode⟩
    rcases List.mem_map.1 (hperm.mem_iff.1 (List.mem_map_of_mem hi)) with ⟨f, hf, heq⟩
    have hsame : f.code = i.code := congrArg Issue.code heq
    exact ⟨f, hf, hsame ▸ hcode⟩
  · rintro ⟨f, hf, hcode⟩
    rcases List.mem_map.1 (hperm.mem_iff.2 (List.mem_map_of_mem hf)) with ⟨i, hi, heq⟩
    have hsame : i.code = f.code := congrArg Issue.code heq
    exact ⟨i, hi, hsame ▸ hcode⟩

/-- When something about syntax is reported on a text that says something. -/
theorem exists_syntactic_iff {t h : Text} {before after : List Text}
    (hopens : Opens t h before after) :
    (∃ i ∈ (lint t).issues, i.code ∈ IssueCode.syntactic) ↔
      Alarms (openingSights h ++ after.flatMap sights) ∨
        (openingSights h ++ after.flatMap sights).foldl Sight.nest (0, 0) ≠ (0, 0) :=
  (exists_code_iff_findings hopens (· ∈ IssueCode.syntactic)).trans (exists_mem_findings_iff _)

/-- Whatever is reported is as severe as its code. -/
theorem severity_of_mem_lint {t : Text} {i : Issue} (h : i ∈ (lint t).issues) :
    i.severity = i.code.severity := by
  rcases exists_opens t with hidle | ⟨l, before, after, hopens⟩
  · rw [issues_lint_of_isIdle hidle, List.mem_singleton] at h
    rw [h]
    rfl
  · -- An issue is a finding with a place, and a finding is as severe as its code.
    have hperm := lint_unplaced_perm_of_opens hopens
    rcases List.mem_map.1 (hperm.mem_iff.1 (List.mem_map_of_mem h)) with ⟨f, -, heq⟩
    have hseverity : f.code.severity = i.severity := congrArg Issue.severity heq
    have hcode : f.code = i.code := congrArg Issue.code heq
    rw [← hseverity, hcode]

/-- Nothing about syntax is in a good report. -/
theorem not_exists_syntactic_of_ok {t : Text} (h : (lint t).ok = true) :
    ¬ ∃ i ∈ (lint t).issues, i.code ∈ IssueCode.syntactic := by
  rintro ⟨i, hi, hcode⟩
  rw [Report.ok, Bool.not_eq_true', List.any_eq_false] at h
  refine h i hi ?_
  rw [Issue.isHigh, severity_of_mem_lint hi, IssueCode.severity_of_mem_syntactic hcode]
  rfl

end Lint

end Flowchart
