import Flowchart.Proofs.Canonical

/-!
# Safe and Short Labels

What a reader of a diagram in canonical form can rely on about its texts, in the
words of such a reader: which characters may occur, where spaces may stand, and
how long a text may be.

The first half holds without exception. Whatever way a segment came about, it is
printable, evenly spaced and free of quotes, of angle brackets and of the
delimiter that closes its shape. A name that stands in for a label of which
nothing was left is all of this too, being made of letters, digits and
underscores.

The length of a text has one exception. Every text that is cleaned is cut, but a
name that stands in is not cleaned. An id may have any length, so a node whose
label comes out empty is drawn with a segment of any length, and a bridge may
lead to one. `hasShortLabels_iff` says that segments and bridges are too long in
this way only. Labels of edges, groups and titles are always short, since no
name stands in for them.

## Main definitions

* `Shape.Encloses`: A segment that can be drawn inside a shape.
* `Node.showsId`: The id stands where a label would.
* `Diagram.HasSafeLabels`: What holds of all texts.
* `Diagram.HasShortLabels`: The length of segments and bridges.

## Theorems

* `Diagram.IsCanonical.hasSafeLabels`: Canonical labels are safe.
* `Diagram.IsCanonical.hasShortLabels_iff`: When they are short.
* `Diagram.hasShortLabels_of_length_ofText_le`: Short ids are enough for that.
* `Diagram.labels_canonical`: Both for the canonical form of any diagram.
-/

namespace Flowchart

open Identifier Label

/-! ### Segments -/

/-- A segment that can be drawn inside a shape: something printable, with single
    spaces inside it only, and without quotes, angle brackets and the delimiter
    that closes the shape. -/
structure Shape.Encloses (s : Shape) (t : Text) : Prop where
  nonempty : t ≠ []
  printable : ∀ c ∈ t, ' ' ≤ c ∧ c ≤ '~'
  head : t.head? ≠ some ' '
  last : t.getLast? ≠ some ' '
  single : ¬ [' ', ' '] <:+: t
  quotes : ∀ c ∈ t, c ≠ '"' ∧ c ≠ '\'' ∧ c ≠ '\x60'
  angles : ∀ c ∈ t, c ≠ '<' ∧ c ≠ '>'
  closer : s.closer ∉ t

/-- A spaced text of characters that the rules for nodes allow is enclosed by
    every shape whose closing delimiter it does not contain. -/
theorem Shape.encloses_of_allows {p : LabelPolicy} {s : Shape} {t : Text} (hne : t ≠ [])
    (hallowed : ∀ c ∈ t, (LabelRules.ofPolicy p).allows c = true) (hspaced : Text.IsSpaced t)
    (hcloser : s.closer ∉ t) : s.Encloses t where
  nonempty := hne
  printable c hc := by
    have hprint := LabelRules.isPrintable_of_allows (hallowed c hc)
    rwa [isPrintable, Bool.and_eq_true, decide_eq_true_eq, decide_eq_true_eq] at hprint
  head h := absurd (hspaced.head ' ' h) (by decide)
  last h := absurd (hspaced.last ' ' h) (by decide)
  single := hspaced.single
  quotes c hc := by
    have hquote : isQuote c = false := LabelRules.not_isQuote_of_allows rfl (hallowed c hc)
    rw [isQuote, Bool.or_eq_false_iff, Bool.or_eq_false_iff, beq_eq_false_iff_ne,
      beq_eq_false_iff_ne, beq_eq_false_iff_ne] at hquote
    exact ⟨hquote.1.1, hquote.1.2, hquote.2⟩
  angles c hc := by
    have hangle : Markup.isAngle c = false := LabelRules.not_isAngle_of_allows rfl (hallowed c hc)
    rwa [Markup.isAngle, Bool.or_eq_false_iff, beq_eq_false_iff_ne, beq_eq_false_iff_ne] at hangle
  closer := hcloser

namespace Node

/-- The id stands where a label would: it is all that is drawn of the node, or
    the node's bridge leads to it. -/
def showsId (n : Node) : Prop :=
  n.segments = [n.id] ∨ ∃ b, n.bridge = some b ∧ b.targetLabel = n.id

theorem IsCanonical.encloses {p : LabelPolicy} {n : Node} (h : n.IsCanonical p) :
    ∀ t ∈ n.segments, n.shape.Encloses t := by
  intro t ht
  have hallowed : ∀ c ∈ t, (LabelRules.ofPolicy p).allows c = true := fun c hc =>
    h.allows (mem_texts_of_mem_segments ht) hc
  have hcloser : n.shape.closer ∉ t := Shape.isSafe_iff.1 h.safe t ht
  -- What is drawn is the id or has been cleaned, and both are spaced.
  rcases h.drawn with hid | hclean
  · have htid : t = n.id := by
      rw [hid] at ht
      exact List.mem_singleton.1 ht
    rw [htid] at hallowed hcloser ⊢
    exact Shape.encloses_of_allows h.name.ne_nil hallowed h.name.isWord.isSpaced hcloser
  · rcases hclean t ht with ⟨hclean, hne⟩
    exact Shape.encloses_of_allows hne hallowed hclean.spaced hcloser

/-- The segments of a node are short unless its id stands in for them. -/
theorem IsCanonical.length_segment_le {p : LabelPolicy} {n : Node} (h : n.IsCanonical p)
    (hid : n.showsId → n.id.length ≤ maxNodeLabel) :
    ∀ t ∈ n.segments, t.length ≤ maxNodeLabel := by
  intro t ht
  rcases h.drawn with hdrawn | hclean
  · have htid : t = n.id := by
      rw [hdrawn] at ht
      exact List.mem_singleton.1 ht
    rw [htid]
    exact hid (Or.inl hdrawn)
  · exact (hclean t ht).1.short

/-- So is the label that its bridge leads to. -/
theorem IsCanonical.length_targetLabel_le {p : LabelPolicy} {n : Node} (h : n.IsCanonical p)
    (hid : n.showsId → n.id.length ≤ maxNodeLabel) {b : Bridge} (hb : n.bridge = some b) :
    b.targetLabel.length ≤ maxNodeLabel := by
  rcases h.bridge b hb with htarget | ⟨hclean, -⟩
  · rw [htarget]
    exact hid (Or.inr ⟨b, hb, htarget⟩)
  · exact hclean.short

end Node

namespace Diagram

/-! ### The texts of a diagram -/

/-- The labels of a diagram can all be drawn, and those that no id stands in for
    are short. -/
structure HasSafeLabels (d : Diagram) : Prop where
  count : ∀ n ∈ d.nodes, 1 ≤ n.segments.length ∧ n.segments.length ≤ 6
  segments : ∀ n ∈ d.nodes, ∀ t ∈ n.segments, n.shape.Encloses t
  edges : ∀ e ∈ d.edges, ∀ t, e.label = some t → t ≠ [] ∧ t.length ≤ 30
  groups : ∀ n ∈ d.nodes, ∀ g, n.group = some g → g.length ≤ 60
  titles : ∀ s ∈ d.subgraphs, s.title.length ≤ 60

/-- What is drawn of nodes and bridges is short as well. -/
structure HasShortLabels (d : Diagram) : Prop where
  segments : ∀ n ∈ d.nodes, ∀ t ∈ n.segments, t.length ≤ 60
  bridges : ∀ n ∈ d.nodes, ∀ b, n.bridge = some b → b.targetLabel.length ≤ 60

theorem IsCanonical.hasSafeLabels {p : LabelPolicy} {d : Diagram} (h : d.IsCanonical p) :
    d.HasSafeLabels where
  count n hn := ⟨List.length_pos_iff.2 n.segments_ne_nil, (h.nodes n hn).few⟩
  segments n hn := (h.nodes n hn).encloses
  edges e he t ht := ⟨((h.edges e he).label t ht).2, ((h.edges e he).label t ht).1.short⟩
  groups n hn g hg := ((h.nodes n hn).group g hg).1.short
  titles s hs := (h.subgraphs s hs).title.short

/-- A long id that stands where a label would is the only long text there is. -/
theorem IsCanonical.hasShortLabels_iff {p : LabelPolicy} {d : Diagram} (h : d.IsCanonical p) :
    d.HasShortLabels ↔ ∀ n ∈ d.nodes, n.showsId → n.id.length ≤ maxNodeLabel := by
  constructor
  · intro hshort n hn hid
    -- The id is drawn as the label, or it stands for the name of a bridge.
    rcases hid with hdrawn | ⟨b, hb, htarget⟩
    · refine hshort.segments n hn n.id ?_
      rw [hdrawn]
      exact List.mem_singleton.2 rfl
    · rw [← htarget]
      exact hshort.bridges n hn b hb
  · intro hids
    exact {
      segments := fun n hn => (h.nodes n hn).length_segment_le (hids n hn)
      bridges := fun n hn b hb => (h.nodes n hn).length_targetLabel_le (hids n hn) hb }

/-- Whatever the diagram and the policy, the labels of canonical form are safe,
    and what is drawn of nodes and bridges is short exactly if no id of more than
    sixty characters stands where a label would. -/
theorem labels_canonical (p : LabelPolicy) (d : Diagram) :
    (d.canonical p).HasSafeLabels ∧
      ((d.canonical p).HasShortLabels ↔
        ∀ n ∈ (d.canonical p).nodes, n.showsId → n.id.length ≤ maxNodeLabel) :=
  ⟨(isCanonical_canonical p d).hasSafeLabels, (isCanonical_canonical p d).hasShortLabels_iff⟩

/-- Ids that are short as names are enough. -/
theorem hasShortLabels_of_length_ofText_le (p : LabelPolicy) {d : Diagram}
    (h : ∀ n ∈ d.nodes, (ofText n.id).length ≤ maxNodeLabel) : (d.canonical p).HasShortLabels := by
  refine (isCanonical_canonical p d).hasShortLabels_iff.2 fun n hn _ => ?_
  have hid : (d.canonical p).hasNode n.id = true := hasNode_iff.2 (List.mem_map_of_mem hn)
  rcases hasNode_canonical_iff.1 hid with ⟨m, hm, hname⟩
  rw [← hname]
  exact h m hm

/-- Sixty-one letters. -/
def longId : Text := List.replicate 61 'a'

/-- A node whose label is a pair of brackets, with a bridge that leads
    nowhere. -/
def bracketed : Diagram :=
  { nodes := [{ id := longId, label := "[]".toList, shape := .decision, bridge := some ⟨0, []⟩ }] }

/-- Both ways occur. An id of 61 letters stands in for an empty label, and for
    the label of a bridge where the strict rules leave nothing of a label that
    the permissive ones keep. -/
theorem not_hasShortLabels_canonical :
    ¬ ((single longId []).canonical .strict).HasShortLabels ∧
      ¬ (bracketed.canonical .permissive).HasShortLabels := by
  -- One node has nothing to be sorted with.
  have hnode : ∀ (p : LabelPolicy) (n : Node),
      (({ nodes := [n] } : Diagram).canonical p).nodes = [n.canonical (.ofPolicy p)] := by
    intro p n
    exact List.mergeSort_singleton _
  constructor
  · intro h
    have hlong := h.segments _ (by rw [single, hnode]; exact List.mem_singleton.2 rfl) longId
      (by decide +kernel)
    exact absurd hlong (by decide)
  · intro h
    have hlong := h.bridges _ (by rw [bracketed, hnode]; exact List.mem_singleton.2 rfl)
      ⟨0, longId⟩ (by decide +kernel)
    exact absurd hlong (by decide)

end Diagram

end Flowchart
