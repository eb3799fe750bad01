import Flowchart.Proofs.Chain
import Flowchart.Proofs.Comparison

/-!
# Two Readers of a Chain

What the linter sees of a chain of nodes, against what the grammar makes of it.

Where the grammar goes on, the linter goes on at the same place, with one
exception: two dashes and a tab are the beginning of a link to the grammar and of
an unknown arrow to the linter. So the linter raises an alarm on an accepted chain
just when there is a tab after the dashes of one of its links.

Where the grammar stops, the linter raises an alarm at the same place or has no
complaint there. What it has no complaint about is not much: nothing that looks
like a node or a link, a bracket in a label without quotes, and text on a link that
is left out, blank or holds a bar.

## Main definitions

* `Lint.NoLink`: What is wrong with a link without the linter seeing it.
* `Lint.HasTab`: A link of a chain has a tab after its dashes.
* `Lint.Unnoticed`: A chain goes wrong without the linter seeing it.

## Theorems

* `Lint.link_tab`, `Lint.link_of_ok`, `Lint.link_of_error`: Links.
* `Lint.alarms_chain_iff`: The alarms on an accepted chain.
* `Lint.unnoticed_or_alarms`: A refused chain.
* `Lint.isFlat_chain`: Chains open and close no blocks.
-/

namespace Flowchart

namespace Lint

open Identifier Grammar

/-! ### Links -/

/-- No link is there, or its text is left out, blank or with a bar in it. The
    linter takes the first for something else and lets the others pass. -/
inductive NoLink : Text → Prop where
  | stray {t : Text} (h : ∀ a ∈ unknownArrows, ¬ a <+: t) : NoLink t
  | textless {gap rest : Text} (h : ∀ c ∈ gap, isLinkBlank c = true) :
      NoLink ("-- ".toList ++ (gap ++ (arrow ++ rest)))
  | text {t x after : Text} (hlink : Grammar.link t = .ok (some x, after)) (hquote : '"' ∉ x)
      (h : x.isBlankText = true ∨ '|' ∈ x) : NoLink t

/-- A character that is no blank is not trimmed away. -/
theorem mem_trim_iff {c : Char} (hc : isBlank c = false) {t : Text} : c ∈ t.trim ↔ c ∈ t := by
  refine ⟨fun h => (List.dropWhile_suffix _).mem ((Text.dropEndWhile_isPrefix _ _).mem h),
    fun h => ?_⟩
  -- What is trimmed at either end is blank, and the character is not.
  rcases Text.exists_dropEndWhile_append isBlank t.trimStart with ⟨gap, hgap, hend⟩
  have hstart : t.takeWhile isBlank ++ t.trimStart = t := List.takeWhile_append_dropWhile
  rw [← hstart, List.mem_append] at h
  rcases h with h | h
  · exact absurd (List.mem_takeWhile_imp h) (Bool.eq_false_iff.1 hc)
  · rw [hend, List.mem_append] at h
    exact h.resolve_right (Grammar.notMem_gap hgap hc)

/-- The text on an edge raises an alarm for a quote. -/
theorem alarms_edgeLabelMarks (raw : Text) (c : Cursor) :
    Alarms ((edgeLabelMarks raw c).map Mark.sight) ↔ '"' ∈ raw := by
  rw [← mem_trim_iff (by decide : isBlank '"' = false)]
  unfold edgeLabelMarks
  rw [List.map_map]
  constructor
  · rintro ⟨f, hf, hcode⟩
    rcases List.mem_map.1 hf with ⟨g, hg, hfg⟩
    rw [← Sight.fault.inj hfg] at hcode
    -- There are two findings to be made, and the one about foreign characters is not
    -- about syntax.
    rcases List.mem_append.1 hg with hg | hg
    · split at hg
      · rename_i hquote
        exact List.contains_iff_mem.1 hquote
      · exact absurd hg List.not_mem_nil
    · split at hg
      · rw [List.mem_singleton.1 hg] at hcode
        exact absurd hcode (by decide : IssueCode.nonAsciiEdgeLabel ∉ IssueCode.syntactic)
      · exact absurd hg List.not_mem_nil
  · intro hquote
    rw [if_pos (List.contains_iff_mem.2 hquote)]
    exact alarms_of_mem List.mem_cons_self
      (by decide : IssueCode.quotedEdgeLabel ∈ IssueCode.syntactic)

/-- Two dashes and a tab are an unknown arrow to the linter. -/
theorem link_tab {c : Cursor} (h : "--\t".toList <+: c.rest) :
    ∃ marks, link c = (marks, none) ∧ Alarms (marks.map Mark.sight) := by
  rcases h with ⟨rest, hrest⟩
  have hdrop : Text.dropPrefix? arrow c.rest = none := by rw [← hrest]; rfl
  have hdashes : "-- ".toList.isPrefixOf c.rest = false := by rw [← hrest]; rfl
  have hunknown : unknownArrows.any (·.isPrefixOf c.rest) = true := by rw [← hrest]; rfl
  refine ⟨_, by rw [link, hdrop, hdashes, hunknown]; rfl, ?_⟩
  exact alarms_of_mem List.mem_cons_self (by decide : IssueCode.invalidEdgeSyntax ∈ IssueCode.syntactic)

/-- Blanks that a link may have are no other characters. -/
theorem notMem_linkGap {d : Char} (hd : isLinkBlank d = false) (rest : Text) :
    d ∉ ' ' :: rest.takeWhile isLinkBlank := by
  intro hmem
  have hblank : isLinkBlank d = true := by
    rcases List.mem_cons.1 hmem with rfl | hmem
    · decide
    · exact List.mem_takeWhile_imp hmem
  rw [hblank] at hd
  exact absurd hd (by decide)

/-- No arrow begins among blanks. -/
theorem cut?_arrow_linkGap (rest : Text) :
    Text.cut? arrow (' ' :: rest) = (Text.cut? arrow (rest.dropWhile isLinkBlank)).map
      fun x => ((' ' :: rest.takeWhile isLinkBlank) ++ x.1, x.2) := by
  have hsplit : ' ' :: rest
      = (' ' :: rest.takeWhile isLinkBlank) ++ rest.dropWhile isLinkBlank := by
    rw [List.cons_append, List.takeWhile_append_dropWhile]
  rw [hsplit]
  exact Text.cut?_append_left (notMem_linkGap (by decide) rest) _

/-- After two dashes and a space the linter looks for an arrow. -/
theorem link_spaced {c : Cursor} {rest : Text} (hc : c.rest = '-' :: '-' :: ' ' :: rest) :
    link c = match Text.cut? arrow (' ' :: rest) with
      | some (raw, _) => (edgeLabelMarks raw (c.advance 2),
        some ((c.advance 2).advance (raw.length + arrow.length)))
      | none => ([.found .missingArrow c.toEnd], none) := by
  have hdrop : Text.dropPrefix? arrow c.rest = none := by rw [hc]; rfl
  have hdashes : "-- ".toList.isPrefixOf c.rest = true := by rw [hc]; rfl
  have hstart : (c.advance 2).rest = ' ' :: rest := by rw [rest_advance, hc]; rfl
  rw [link, hdrop]
  rcases hcut : Text.cut? arrow (' ' :: rest) with _ | ⟨raw, after⟩ <;>
    simp only [hdashes, if_true, hstart, hcut]

/-- The linter looks for that arrow as the grammar does, without regard to blanks. -/
theorem link_of_dashes {c : Cursor} {rest : Text} (hc : c.rest = '-' :: '-' :: ' ' :: rest) :
    (Text.cut? arrow (rest.dropWhile isLinkBlank) = none →
        ∃ marks, link c = (marks, none) ∧ Alarms (marks.map Mark.sight)) ∧
      ∀ x after, Text.cut? arrow (rest.dropWhile isLinkBlank) = some (x, after) →
        ∃ marks after', link c = (marks, some after') ∧ after'.rest = after ∧
          (Alarms (marks.map Mark.sight) ↔ '"' ∈ x) := by
  -- Blanks are no part of an arrow, so passing over them first finds the same one.
  have hcut := cut?_arrow_linkGap rest
  constructor
  · intro hnone
    rw [hnone, Option.map_none] at hcut
    refine ⟨_, by rw [link_spaced hc, hcut], ?_⟩
    exact alarms_of_mem List.mem_cons_self
      (by decide : IssueCode.invalidEdgeSyntax ∈ IssueCode.syntactic)
  · intro x after hsome
    have hstart : (c.advance 2).rest = ' ' :: rest := by rw [rest_advance, hc]; rfl
    rw [hsome, Option.map_some] at hcut
    refine ⟨_, _, by rw [link_spaced hc, hcut], ?_, ?_⟩
    · rw [rest_advance, hstart, Text.eq_of_cut? hcut, ← List.length_append, List.drop_left]
    · rw [alarms_edgeLabelMarks, List.mem_append, or_iff_right]
      exact notMem_linkGap (by decide) rest

/-- A link that the grammar reads raises an alarm for a quote on it, unless there
    is a tab after the dashes, and both go on behind it. -/
theorem link_of_ok {c : Cursor} {text : Option Text} {after : Text}
    (h : Grammar.link c.rest = .ok (text, after)) (htab : ¬ "--\t".toList <+: c.rest)
    (hbar : text = none → after.trimStart.head? ≠ some '|') :
    ∃ marks after', link c = (marks, some after') ∧ after'.rest = after ∧
      (Alarms (marks.map Mark.sight) ↔ ∃ x, text = some x ∧ '"' ∈ x) := by
  have hexists : ∀ x : Text, (∃ y, some x = some y ∧ '"' ∈ y) ↔ '"' ∈ x := by
    intro x
    constructor
    · rintro ⟨y, heq, hy⟩
      exact Option.some.inj heq ▸ hy
    · exact fun hx => ⟨x, rfl, hx⟩
  rcases link_eq_ok h with ⟨gap, x, hgap, hx, rfl, hc⟩ | ⟨rfl, hc⟩ | ⟨d, rest, x, hd, rfl, -, hc, hcut⟩
  · have hdrop := Text.dropPrefix?_eq_some_iff.2 hc
    have hpiped : (c.advance arrow.length).skipBlanks.rest = '|' :: (x ++ '|' :: after) := by
      rw [rest_skipBlanks, rest_advance, hc, List.drop_left]
      exact Grammar.dropWhile_gap (fun d hd => isBlank_of_isLinkBlank (hgap d hd)) (by decide) _
    have hcut : Text.cut? ['|'] (x ++ '|' :: after) = some (x, after) := Text.cut?_append hx after
    refine ⟨edgeLabelMarks x ((c.advance arrow.length).skipBlanks.advance 1),
      (c.advance arrow.length).skipBlanks.advance (x.length + 2), ?_, ?_, ?_⟩
    · unfold link
      rw [hdrop]
      simp only [hpiped, hcut]
    · rw [rest_advance, hpiped, List.drop_succ_cons, List.drop_length_add_append]
      rfl
    · rw [alarms_edgeLabelMarks, hexists]
  · have hdrop := Text.dropPrefix?_eq_some_iff.2 hc
    have hafter : (c.advance arrow.length).rest = after := by rw [rest_advance, hc, List.drop_left]
    refine ⟨[], c.advance arrow.length, ?_, hafter, ?_⟩
    · rw [link, hdrop]
      dsimp only
      split
      · -- A bar behind the blanks was ruled out.
        rename_i body hpiped
        rw [rest_skipBlanks, hafter] at hpiped
        exact absurd (by rw [Text.trimStart, hpiped]; rfl) (hbar rfl)
      · rfl
    · refine iff_of_false not_alarms_nil ?_
      rintro ⟨x, hx, -⟩
      cases hx
  · -- The grammar takes a tab as well as a space. The linter does not, so a tab had to
    -- be ruled out.
    have hspace : d = ' ' := by
      rw [isLinkBlank, Bool.or_eq_true, beq_iff_eq, beq_iff_eq] at hd
      refine hd.resolve_right fun heq => htab ⟨rest, ?_⟩
      rw [hc, heq]
      rfl
    rw [hspace] at hc
    rcases (link_of_dashes hc).2 x after hcut with ⟨marks, after', hlink, hrest, halarms⟩
    exact ⟨marks, after', hlink, hrest, halarms.trans (hexists x).symm⟩

/-- Where the grammar reads no link, the linter raises an alarm or sees nothing
    wrong. -/
theorem link_of_error {c : Cursor} {place : Text} (h : Grammar.link c.rest = .error place) :
    NoLink c.rest ∨ ∃ marks, link c = (marks, none) ∧ Alarms (marks.map Mark.sight) := by
  by_cases hdashes : ∃ d rest, isLinkBlank d = true ∧ c.rest = '-' :: '-' :: d :: rest
  · rcases hdashes with ⟨d, rest, hd, hc⟩
    rw [hc, link_dashes hd] at h
    rw [isLinkBlank, Bool.or_eq_true, beq_iff_eq, beq_iff_eq] at hd
    rcases hd with rfl | rfl
    · rcases hcut : Text.cut? arrow (rest.dropWhile isLinkBlank) with _ | ⟨_ | ⟨d, x⟩, after⟩
      · exact Or.inr ((link_of_dashes hc).1 hcut)
      · -- An arrow right after the blanks leaves no text.
        have hsplit : c.rest = "-- ".toList ++ (rest.takeWhile isLinkBlank ++ (arrow ++ after)) := by
          have harrow := Text.eq_of_cut? hcut
          rw [List.nil_append] at harrow
          rw [hc, ← harrow, List.takeWhile_append_dropWhile]
          rfl
        rw [hsplit]
        exact Or.inl (.textless fun d hd => List.mem_takeWhile_imp hd)
      · rw [hcut] at h
        cases h
    · exact Or.inr (link_tab ⟨rest, hc.symm⟩)
  · have hdrop : Text.dropPrefix? arrow c.rest = none := by
      rcases hdrop : Text.dropPrefix? arrow c.rest with _ | rest
      · rfl
      · rcases exists_link_arrow rest with ⟨x, hx⟩
        rw [Text.dropPrefix?_eq_some_iff.1 hdrop, hx] at h
        cases h
    have hspace : ¬ "-- ".toList.isPrefixOf c.rest = true := by
      rw [List.isPrefixOf_iff_prefix]
      rintro ⟨rest, hrest⟩
      exact hdashes ⟨' ', rest, by decide, hrest.symm⟩
    by_cases hunknown : unknownArrows.any (·.isPrefixOf c.rest) = true
    · refine Or.inr ⟨_, by rw [link, hdrop]; simp only [hspace, hunknown]; rfl, ?_⟩
      exact alarms_of_mem List.mem_cons_self
        (by decide : IssueCode.invalidEdgeSyntax ∈ IssueCode.syntactic)
    · refine Or.inl (.stray fun a ha hbegins => hunknown ?_)
      exact List.any_eq_true.2 ⟨a, ha, List.isPrefixOf_iff_prefix.2 hbegins⟩

/-! ### Chains -/

/-- Somewhere in a chain there is a tab after the dashes of a link. -/
inductive HasTab : Text → Prop where
  | here {t : Text} (h : "--\t".toList <+: t.trimStart) : HasTab t
  | later {t after rest : Text} {text : Option Text} {closed : Option Shape}
      (hlink : Grammar.link t.trimStart = .ok (text, after))
      (hnode : nodeRef after.trimStart = .ok (closed, rest)) (hrest : HasTab rest) : HasTab t

/-- A chain goes wrong at a link or a node where the linter sees nothing wrong. -/
inductive Unnoticed : Text → Prop where
  | link {t : Text} (h : NoLink t.trimStart) : Unnoticed t
  | node {t after : Text} {text : Option Text}
      (hlink : Grammar.link t.trimStart = .ok (text, after)) (h : NoNode after.trimStart) :
      Unnoticed t
  | later {t after rest : Text} {text : Option Text} {closed : Option Shape}
      (hlink : Grammar.link t.trimStart = .ok (text, after))
      (hnode : nodeRef after.trimStart = .ok (closed, rest)) (hrest : Unnoticed rest) :
      Unnoticed t

/-- There is no bar where the grammar reads a node. -/
theorem head?_ne_bar_of_nodeRef {t rest : Text} {closed : Option Shape}
    (h : nodeRef t = .ok (closed, rest)) : t.head? ≠ some '|' := by
  rcases nodeRef_eq_ok_iff.1 h with ⟨id, hid, hcases⟩
  have hhead : t.head? = id.head? := by
    rcases hcases with ⟨-, rfl, -⟩ | ⟨shape, body, -, rfl, -⟩ <;>
      exact List.head?_append_of_ne_nil _ hid.ne_nil
  rw [hhead]
  exact fun hbar => absurd (hid.isWordChar _ (List.mem_of_mem_head? hbar)) (by decide)

theorem notMem_of_edgeText {x : Text} (h : edgeText x = .ok ()) : '"' ∉ x := by
  intro hmem
  rw [edgeText, if_pos (List.contains_iff_mem.2 hmem)] at h
  cases h

theorem edgeText_eq_error {x : Text} {e : Cause} (h : edgeText x = .error e) :
    '"' ∈ x ∨ x.isBlankText = true ∨ '|' ∈ x := by
  unfold edgeText at h
  split at h
  · rename_i hquote
    exact Or.inl (List.contains_iff_mem.1 hquote)
  · split at h
    · rename_i hbad
      rw [Bool.or_eq_true] at hbad
      exact Or.inr (hbad.imp_right List.contains_iff_mem.1)
    · cases h

section Chains

variable {c : Cursor} (source : Text)

/-- A chain with a link and a node. -/
theorem chain_of_node {marks nodeMarks : List Mark} {afterLink after : Cursor} {target : Text}
    (hne : c.rest.trimStart ≠ []) (hlink : link c.skipBlanks = (marks, some afterLink))
    (hnode : node? afterLink.skipBlanks = some (target, nodeMarks, after)) :
    chain source c = marks ++ nodeMarks ++ .connects source target :: chain target after := by
  have hempty : ¬ c.skipBlanks.rest.isEmpty = true := by
    rw [List.isEmpty_iff, rest_skipBlanks]
    exact hne
  rw [chain_eq, if_neg hempty, hlink]
  dsimp only
  rw [hnode]

/-- What is wrong with the first link of a chain is wrong with the chain. -/
theorem alarms_chain_of_link {marks : List Mark} {after? : Option Cursor}
    (hne : c.rest.trimStart ≠ []) (hlink : link c.skipBlanks = (marks, after?))
    (h : Alarms (marks.map Mark.sight)) : Alarms ((chain source c).map Mark.sight) := by
  have hempty : ¬ c.skipBlanks.rest.isEmpty = true := by
    rw [List.isEmpty_iff, rest_skipBlanks]
    exact hne
  rw [chain_eq, if_neg hempty, hlink]
  -- However far the chain is read, the marks of its first link are among its marks.
  rcases after? with _ | afterLink
  · exact h
  · dsimp only
    rcases node? afterLink.skipBlanks with _ | ⟨target, nodeMarks, after⟩
    · exact h
    · dsimp only
      rw [List.map_append, List.map_append, alarms_append, alarms_append]
      exact Or.inl (Or.inl h)

/-- What is wrong with the first node behind a link, or with the chain behind that,
    is wrong with the chain. -/
theorem alarms_chain_of_node {marks nodeMarks : List Mark} {afterLink after : Cursor}
    {target : Text} (hne : c.rest.trimStart ≠ [])
    (hlink : link c.skipBlanks = (marks, some afterLink))
    (hnode : node? afterLink.skipBlanks = some (target, nodeMarks, after))
    (h : Alarms (nodeMarks.map Mark.sight) ∨ Alarms ((chain target after).map Mark.sight)) :
    Alarms ((chain source c).map Mark.sight) := by
  rw [chain_of_node source hne hlink hnode, List.map_append, List.map_append, List.map_cons,
    alarms_append, alarms_append, alarms_cons_of_fault?_eq_none rfl, or_assoc]
  exact Or.inr h

/-- A link after which nothing comes next that the linter would take for text on
    it. -/
theorem link_skipBlanks {text : Option Text} {after : Text}
    (h : Grammar.link c.rest.trimStart = .ok (text, after))
    (htab : ¬ "--\t".toList <+: c.rest.trimStart)
    (hbar : text = none → after.trimStart.head? ≠ some '|') :
    ∃ marks after', link c.skipBlanks = (marks, some after') ∧
      after'.skipBlanks.rest = after.trimStart ∧
      (Alarms (marks.map Mark.sight) ↔ ∃ x, text = some x ∧ '"' ∈ x) := by
  have hskip : c.skipBlanks.rest = c.rest.trimStart := rest_skipBlanks c
  rw [← hskip] at h htab
  rcases link_of_ok h htab hbar with ⟨marks, after', hlink, hrest, halarms⟩
  refine ⟨marks, after', hlink, ?_, halarms⟩
  rw [rest_skipBlanks, hrest]
  rfl

theorem trimStart_ne_nil_of_link {t after : Text} {text : Option Text}
    (h : Grammar.link t.trimStart = .ok (text, after)) : t.trimStart ≠ [] := by
  intro hnil
  rw [hnil] at h
  cases link_nil.symm.trans h

theorem trimStart_ne_nil_of_tab {t : Text} (h : "--\t".toList <+: t.trimStart) :
    t.trimStart ≠ [] := by
  intro hnil
  rw [hnil] at h
  exact absurd (List.prefix_nil.1 h) (by decide)

theorem isPlain_afterLink {t after : Text} {text : Option Text} (hplain : IsPlain t)
    (hlink : Grammar.link t.trimStart = .ok (text, after)) : IsPlain after.trimStart :=
  (hplain.trimStart.of_isSuffix (link_isSuffix hlink)).trimStart

/-- A tab after the dashes of the first link. -/
theorem alarms_chain_of_tab (h : "--\t".toList <+: c.rest.trimStart) :
    Alarms ((chain source c).map Mark.sight) := by
  have hskip : "--\t".toList <+: c.skipBlanks.rest := (rest_skipBlanks c).symm ▸ h
  rcases link_tab hskip with ⟨marks, hlink, halarms⟩
  exact alarms_chain_of_link source (trimStart_ne_nil_of_tab h) hlink halarms

/-- On an accepted chain the linter raises an alarm just for a tab. -/
theorem alarms_chain_iff {t : Text} (h : IsChain t) (hplain : IsPlain t) (hc : c.rest = t) :
    Alarms ((chain source c).map Mark.sight) ↔ HasTab t := by
  -- Both have the same text before them after every link and node.
  induction h generalizing c source with
  | @done t hblank =>
    have hnil : chain source c = [] := by
      rw [chain_eq, rest_skipBlanks, hc]
      exact if_pos (List.isEmpty_iff.2 hblank)
    rw [hnil]
    refine iff_of_false not_alarms_nil fun htab => ?_
    cases htab with
    | here htab => exact trimStart_ne_nil_of_tab htab hblank
    | later hlink => exact trimStart_ne_nil_of_link hlink hblank
  | @link t after rest text closed hlink htext hnode _ ih =>
    subst hc
    by_cases htab : "--\t".toList <+: c.rest.trimStart
    · exact iff_of_true (alarms_chain_of_tab source htab) (.here htab)
    · have hafter := isPlain_afterLink hplain hlink
      rcases link_skipBlanks hlink htab fun _ => head?_ne_bar_of_nodeRef hnode with
        ⟨marks, afterLink, hread, hskip, halarms⟩
      rw [← hskip] at hnode hafter
      rcases node?_of_ok hafter hnode with
        ⟨target, -, nodeMarks, after', -, -, -, hread', hno, hrest⟩
      have hplain' : IsPlain rest := hafter.of_isSuffix (nodeRef_isSuffix hnode)
      have hquiet : ¬ Alarms (marks.map Mark.sight) := by
        rw [halarms]
        rintro ⟨x, hx, hquote⟩
        exact notMem_of_edgeText (htext x hx) hquote
      -- No alarm is left but those of the rest of the chain.
      rw [chain_of_node source (trimStart_ne_nil_of_link hlink) hread hread', List.map_append,
        List.map_append, List.map_cons, alarms_append, alarms_append, or_iff_right hquiet,
        or_iff_right hno, alarms_cons_of_fault?_eq_none rfl, ih target hplain' hrest]
      constructor
      · intro hlater
        rw [hskip] at hnode
        exact .later hlink hnode hlater
      · intro hlater
        cases hlater with
        | here hhere => exact absurd hhere htab
        | later hlink' hnode' hrest' =>
          -- A text has only one first link, and a node only one end.
          rw [hlink, Except.ok.injEq, Prod.mk.injEq] at hlink'
          rw [← hlink'.2, ← hskip, hnode, Except.ok.injEq, Prod.mk.injEq] at hnode'
          rw [hnode'.2]
          exact hrest'

/-- A tab is noticed wherever it is, so it may be put aside. -/
theorem or_alarms_chain {P : Prop}
    (h : ¬ "--\t".toList <+: c.rest.trimStart → P ∨ Alarms ((chain source c).map Mark.sight)) :
    P ∨ Alarms ((chain source c).map Mark.sight) := by
  by_cases htab : "--\t".toList <+: c.rest.trimStart
  · exact Or.inr (alarms_chain_of_tab source htab)
  · exact h htab

/-- Where no node comes after a link, the linter raises an alarm or sees nothing
    wrong. -/
theorem noNode_or_alarms {text : Option Text} {after : Text} {e : Cause} (hplain : IsPlain c.rest)
    (hlink : Grammar.link c.rest.trimStart = .ok (text, after))
    (hnode : nodeRef after.trimStart = .error e) :
    NoNode after.trimStart ∨ Alarms ((chain source c).map Mark.sight) := by
  refine or_alarms_chain source fun htab => ?_
  -- A bar that begins no text stands where the node should, and no node begins with
  -- a bar.
  by_cases hbar : after.trimStart.head? = some '|'
  · refine Or.inl (.absent fun d hd => ?_)
    rw [hbar, Option.some.injEq] at hd
    exact hd ▸ (by decide : isWordChar '|' = false)
  · have hafter := isPlain_afterLink hplain hlink
    rcases link_skipBlanks hlink htab fun _ => hbar with ⟨marks, afterLink, hread, hskip, -⟩
    rw [← hskip] at hnode hafter ⊢
    rcases node?_of_error hafter hnode with hno | ⟨target, nodeMarks, after', hread', halarms⟩
    · exact Or.inl hno
    · exact Or.inr (alarms_chain_of_node source (trimStart_ne_nil_of_link hlink) hread hread'
        (Or.inl halarms))

/-- On a refused chain the linter raises an alarm, or it does not notice what is
    wrong. -/
theorem unnoticed_or_alarms {t : Text} {closed : Option Shape} {e : Cause}
    (h : Grammar.chain closed t = .error e) (hplain : IsPlain t) (hc : c.rest = t) :
    Unnoticed t ∨ Alarms ((chain source c).map Mark.sight) := by
  -- By the recursion of the grammar, which stops at the first thing that is wrong.
  fun_induction Grammar.chain closed t generalizing c source with
  | case1 closed t hempty => cases h
  | case2 closed t hempty place hlink =>
    subst hc
    have hskip : c.skipBlanks.rest = c.rest.trimStart := rest_skipBlanks c
    rw [← hskip] at hlink
    rcases link_of_error hlink with hno | ⟨marks, hread, halarms⟩
    · exact Or.inl (.link (hskip ▸ hno))
    · rw [List.isEmpty_iff] at hempty
      exact Or.inr (alarms_chain_of_link source hempty hread halarms)
  | case3 closed t hempty text after hlink e htext =>
    subst hc
    rcases text with _ | x
    · cases htext
    · by_cases hquote : '"' ∈ x
      · refine or_alarms_chain source fun htab => Or.inr ?_
        rcases link_skipBlanks hlink htab fun hnone => absurd hnone (Option.some_ne_none x) with
          ⟨marks, afterLink, hread, -, halarms⟩
        exact alarms_chain_of_link source (trimStart_ne_nil_of_link hlink) hread
          (halarms.2 ⟨x, rfl, hquote⟩)
      · exact Or.inl (.link (.text hlink hquote ((edgeText_eq_error htext).resolve_left hquote)))
  | case4 closed t hempty text after hlink htext e hnode =>
    subst hc
    exact (noNode_or_alarms source hplain hlink hnode).imp_left (.node hlink)
  | case5 closed t hempty text after hlink htext closed' rest hnode ih =>
    subst hc
    refine or_alarms_chain source fun htab => ?_
    have hafter := isPlain_afterLink hplain hlink
    rcases link_skipBlanks hlink htab fun _ => head?_ne_bar_of_nodeRef hnode with
      ⟨marks, afterLink, hread, hskip, -⟩
    have hnode' : nodeRef afterLink.skipBlanks.rest = .ok (closed', rest) := hskip ▸ hnode
    rw [← hskip] at hafter
    rcases node?_of_ok hafter hnode' with
      ⟨target, -, nodeMarks, after', -, -, -, hread', -, hrest⟩
    have hplain' : IsPlain rest := hafter.of_isSuffix (nodeRef_isSuffix hnode')
    rcases ih target h hplain' hrest with hlater | halarms
    · exact Or.inl (.later hlink hnode hlater)
    · exact Or.inr (alarms_chain_of_node source (trimStart_ne_nil_of_link hlink) hread hread'
        (Or.inr halarms))

end Chains

/-! ### Blocks -/

theorem isFlat_faults (fs : List Finding) : IsFlat (fs.map .fault) := by
  refine isFlat_of_forall fun s hs => ?_
  rcases List.mem_map.1 hs with ⟨f, -, rfl⟩
  exact ⟨Sight.noConfusion, fun _ => Sight.noConfusion⟩

/-- A label and a link show nothing but faults. -/
theorem exists_sight_label (id : Text) (shape : Shape) (c : Cursor) :
    ∃ fs : List Finding, (label id shape c).1.map Mark.sight = fs.map .fault := by
  unfold label
  dsimp only
  split
  · exact ⟨[.unclosedLabel id shape], rfl⟩
  · exact ⟨_, List.map_map⟩

theorem exists_sight_link (c : Cursor) :
    ∃ fs : List Finding, (link c).1.map Mark.sight = fs.map .fault := by
  unfold link
  dsimp only
  split
  · split
    · split
      · exact ⟨_, List.map_map⟩
      · exact ⟨[.unclosedEdgeLabel], rfl⟩
    · exact ⟨[], rfl⟩
  · split
    · split
      · exact ⟨_, List.map_map⟩
      · exact ⟨[.missingArrow], rfl⟩
    · split
      · exact ⟨[.unknownArrow _], rfl⟩
      · exact ⟨[], rfl⟩

theorem isFlat_node? {c after : Cursor} {id : Text} {marks : List Mark}
    (h : node? c = some (id, marks, after)) : IsFlat (marks.map Mark.sight) := by
  have hone : ∀ {s : Sight}, s ≠ .closes → (∀ name, s ≠ .opens name) → IsFlat [s] :=
    fun hcloses hopens => isFlat_of_forall fun s hs => List.mem_singleton.1 hs ▸ ⟨hcloses, hopens⟩
  have hne : c.rest.takeWhile isIdChar ≠ [] := by
    intro hnil
    rw [node?, hnil] at h
    cases h
  rcases node?_eq (List.takeWhile_append_dropWhile (p := isIdChar)).symm rfl hne with
    ⟨marks', after', hnode, hcases⟩
  rw [h, Option.some.injEq, Prod.mk.injEq, Prod.mk.injEq] at hnode
  rw [hnode.2.1]
  -- Apart from faults a node leaves one sight, with a label or without.
  rcases hcases with ⟨-, -, hmarks⟩ | ⟨shape, -, d, -, -, hmarks⟩
  · rw [hmarks]
    exact (isFlat_faults _).append (hone Sight.noConfusion fun _ => Sight.noConfusion)
  · rcases exists_sight_label (c.rest.takeWhile isIdChar) shape d with ⟨fs, hfs⟩
    rw [hmarks, hfs]
    exact ((isFlat_faults _).append (isFlat_faults fs)).append
      (hone Sight.noConfusion fun _ => Sight.noConfusion)

/-- Chains open and close no blocks. -/
theorem isFlat_chain (source : Text) (c : Cursor) :
    IsFlat ((chain source c).map Mark.sight) := by
  have hlinkFlat : ∀ {d : Cursor} {marks : List Mark} {after? : Option Cursor},
      link d = (marks, after?) → IsFlat (marks.map Mark.sight) := by
    intro d marks after? h
    rcases exists_sight_link d with ⟨fs, hfs⟩
    rw [h] at hfs
    exact hfs ▸ isFlat_faults fs
  -- The induction follows the chain. Only a whole link with its node goes on, and it
  -- adds the sight of an edge.
  fun_induction chain source c with
  | case1 source c hempty => exact isFlat_nil
  | case2 source c hempty marks hlink => exact hlinkFlat hlink
  | case3 source c hempty marks afterLink hlink hnode => exact hlinkFlat hlink
  | case4 source c hempty marks afterLink hlink target nodeMarks after hnode ih =>
    rw [List.map_append, List.map_append]
    refine ((hlinkFlat hlink).append (isFlat_node? hnode)).append ?_
    intro depth
    rw [List.map_cons, List.foldl_cons]
    have hconnects : Sight.nest depth (Mark.connects source target).sight = depth := by
      rcases depth with ⟨_ | _, _⟩ <;> rfl
    rw [hconnects]
    exact ih depth

end Lint

end Flowchart
