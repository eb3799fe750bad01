import Flowchart.Proofs.Bounds

/-!
# Canonical Form Settles

Bringing a diagram into canonical form may change it more than once, but not
more than three times.

The first pass leaves a canonical diagram, in which two things may still change:
texts with an entity, and long ids that stand in for labels. The second pass
takes out every entity, since a canonical text has no angle bracket left that
could bring another one together. Doing so it may leave nothing of a label, and
the id takes its place, however long it is. The third pass cuts that id. A text
that has been cleaned twice is not left empty by the third cleaning, so no other
id can take its place then, and there is nothing left to change.

All three passes may be needed: a node whose label is only an entity after the
first pass and whose id is too long for a label changes each time.

## Main definitions

* `Diagram.IsSettled`: Nothing changes any more.

## Theorems

* `Diagram.IsCanonical.isSettled_iff`: When a canonical diagram is settled.
* `Diagram.IsCanonical.not_hasEntity_canonical`: One more pass takes out every
  entity.
* `Diagram.IsCanonical.short_canonical`: Another one cuts every long text.
* `Diagram.isSettled_canonical_canonical_canonical`: Three passes are enough.
-/

namespace Flowchart

open Identifier Label

namespace Node

/-! ### Nodes -/

/-- What is found for a bridge to lead to is the name of the node or has been
    cleaned. -/
theorem cleanBridge_spec (id label : Text) (b : Bridge) :
    (cleanBridge id label b).targetLabel = id ∨
      ∃ s ∈ [b.targetLabel, label], (cleanBridge id label b).targetLabel = clean .strict s := by
  have htarget : (cleanBridge id label b).targetLabel
      = (([b.targetLabel, label].map (clean .strict)).find? (· ≠ [])).getD id := rfl
  rw [htarget]
  rcases hfind : ([b.targetLabel, label].map (clean .strict)).find? (· ≠ []) with _ | t
  · exact Or.inl rfl
  · rcases List.mem_map.1 (List.mem_of_find?_eq_some hfind) with ⟨s, hs, rfl⟩
    exact Or.inr ⟨s, hs, rfl⟩

/-- A text of a node that was brought into canonical form again is the name of
    the node or has been cleaned a second time. -/
theorem IsCanonical.of_mem_texts {p : LabelPolicy} {n : Node} (h : n.IsCanonical p) {t : Text}
    (ht : t ∈ (n.canonical (.ofPolicy p)).texts) :
    t = n.id ∨ ∃ r : LabelRules, r.banMarkup = true ∧ r.maxLength = maxNodeLabel ∧
      ∃ s, (∀ c ∈ s, (LabelRules.ofPolicy p).allows c = true) ∧ t = clean r s := by
  have hid : (n.canonical (.ofPolicy p)).id = n.id := ofText_of_isName h.name
  have hdrawn : ∀ t ∈ (n.canonical (.ofPolicy p)).segments, t = n.id ∨
      ∃ s ∈ n.segments, t = clean (.ofPolicy p) s := by
    intro t ht
    rw [segments_canonical, drawnOrId, h.drawing_eq, ofText_of_isName h.name] at ht
    split at ht
    · exact Or.inl (List.mem_singleton.1 ht)
    · exact Or.inr (mem_cleanSegments ht).2
  -- A text of the new node is a segment, the group, or what the bridge leads to.
  rw [texts, List.mem_append, List.mem_append] at ht
  rcases ht with (ht | ht) | ht
  · rcases hdrawn t ht with rfl | ⟨s, hs, rfl⟩
    · exact Or.inl rfl
    · exact Or.inr ⟨.ofPolicy p, rfl, rfl, s, fun c => h.allows (mem_texts_of_mem_segments hs), rfl⟩
  · have hgroup : (n.group.map (clean .strict)).filter (· ≠ []) = some t := Option.mem_toList.1 ht
    rw [Option.filter_eq_some_iff, Option.map_eq_some_iff] at hgroup
    rcases hgroup with ⟨⟨g, hg, rfl⟩, -⟩
    have hmem : g ∈ n.texts := by
      rw [texts, hg]
      exact List.mem_append_left _ (List.mem_append_right _ (List.mem_singleton.2 rfl))
    exact Or.inr ⟨.strict, rfl, rfl, g, fun c => h.allows hmem, rfl⟩
  · rcases List.mem_map.1 ht with ⟨b', hb', rfl⟩
    have hbridge : n.bridge.map (cleanBridge (ofText n.id) (n.canonical (.ofPolicy p)).label)
        = some b' := Option.mem_toList.1 hb'
    rcases Option.map_eq_some_iff.1 hbridge with ⟨b, hb, rfl⟩
    rcases cleanBridge_spec (ofText n.id) (n.canonical (.ofPolicy p)).label b
      with heq | ⟨s, hs, heq⟩
    · exact Or.inl (heq.trans (ofText_of_isName h.name))
    · rw [heq]
      refine Or.inr ⟨.strict, rfl, rfl, s, fun c hc => ?_, rfl⟩
      rcases List.mem_cons.1 hs with rfl | hs
      · have hmem : b.targetLabel ∈ n.texts := by
          rw [texts, hb]
          exact List.mem_append_right _ (List.mem_singleton.2 rfl)
        exact h.allows hmem hc
      · -- The label is a text of the new node, which is canonical as well.
        have hnew := isCanonical_canonical p n
        rw [List.mem_singleton.1 hs] at hc
        exact hnew.allows (mem_texts_of_mem_segments (List.mem_of_mem_head? hnew.label)) hc

/-- A second pass takes out every entity. -/
theorem IsCanonical.not_hasEntity_canonical {p : LabelPolicy} {n : Node} (h : n.IsCanonical p) :
    ∀ t ∈ (n.canonical (.ofPolicy p)).texts, ¬ Markup.HasEntity t := by
  intro t ht
  rcases h.of_mem_texts ht with rfl | ⟨r, hmarkup, -, s, hallowed, rfl⟩
  · exact h.name.not_hasEntity
  · exact not_hasEntity_clean hmarkup
      (fun c hc => LabelRules.isPrintable_of_allows (hallowed c hc))
      fun c hc => LabelRules.not_isAngle_of_allows rfl (hallowed c hc)

/-- Without entities, something is left of every segment. -/
theorem IsCanonical.clean_segment_ne_nil {p : LabelPolicy} {n : Node} (h : n.IsCanonical p)
    (hentity : ∀ t ∈ n.texts, ¬ Markup.HasEntity t) {t : Text} (ht : t ∈ n.segments) :
    clean (.ofPolicy p) t ≠ [] := by
  rcases h.drawn with hid | hclean
  · rw [hid, List.mem_singleton] at ht
    rw [ht]
    exact h.name.clean_ne_nil (Nat.succ_pos 59)
  · rcases hclean t ht with ⟨hclean, hne⟩
    rw [clean_eq_self hclean fun _ => hentity t (mem_texts_of_mem_segments ht)]
    exact hne

/-- So the id of a node does not come to stand for a label, and it is cut where it
    already does. -/
theorem IsCanonical.short_canonical {p : LabelPolicy} {n : Node} (h : n.IsCanonical p)
    (hentity : ∀ t ∈ n.texts, ¬ Markup.HasEntity t) :
    (n.canonical (.ofPolicy p)).showsId → n.id.length ≤ maxNodeLabel := by
  have hid : (n.canonical (.ofPolicy p)).id = n.id := ofText_of_isName h.name
  rintro (hsegments | ⟨b', hb', htarget⟩)
  · rw [segments_canonical, drawnOrId, h.drawing_eq, hid] at hsegments
    -- The first segment is still there after cleaning.
    have hsome : cleanSegments (.ofPolicy p) n.segments ≠ [] := by
      rcases hs : n.segments with _ | ⟨t, ts⟩
      · exact absurd hs n.segments_ne_nil
      · have hne := h.clean_segment_ne_nil hentity (hs ▸ List.mem_cons_self)
        rw [cleanSegments, List.map_cons, List.filter_cons_of_pos (p := (· ≠ []))
          (decide_eq_true hne), maxLabelLines, List.take_succ_cons]
        exact List.cons_ne_nil _ _
    rw [if_neg (by rwa [List.isEmpty_iff])] at hsegments
    rcases mem_cleanSegments (hsegments ▸ List.mem_singleton.2 rfl) with ⟨-, s, -, heq⟩
    rw [heq]
    exact (isClean_clean _ s).short
  · have hbridge : n.bridge.map (cleanBridge (ofText n.id) (n.canonical (.ofPolicy p)).label)
        = some b' := hb'
    rcases Option.map_eq_some_iff.1 hbridge with ⟨b, hb, rfl⟩
    have hmem : b.targetLabel ∈ n.texts := by
      rw [texts, hb]
      exact List.mem_append_right _ (List.mem_singleton.2 rfl)
    -- What the bridge led to is still there, so it is the first thing found.
    have hne : clean .strict b.targetLabel ≠ [] := by
      rcases h.bridge b hb with heq | ⟨hclean, hne⟩
      · rw [heq]
        exact h.name.clean_ne_nil (Nat.succ_pos 59)
      · rwa [clean_eq_self hclean fun _ => hentity _ hmem]
    rw [cleanBridge, List.map_cons, List.find?_cons_of_pos (p := (· ≠ [])) (decide_eq_true hne),
      hid] at htarget
    rw [← htarget]
    exact (isClean_clean .strict b.targetLabel).short

end Node

namespace Diagram

/-! ### Diagrams -/

/-- Bringing the diagram into canonical form changes nothing. -/
def IsSettled (p : LabelPolicy) (d : Diagram) : Prop := d.canonical p = d

instance (p : LabelPolicy) (d : Diagram) : Decidable (d.IsSettled p) :=
  inferInstanceAs (Decidable (d.canonical p = d))

theorem IsCanonical.isSettled_iff {p : LabelPolicy} {d : Diagram} (h : d.IsCanonical p) :
    d.IsSettled p ↔ ∀ t ∈ d.texts, t.length ≤ maxNodeLabel ∧ ¬ Markup.HasEntity t :=
  canonical_eq_self_iff h

/-- One more pass takes out every entity. -/
theorem IsCanonical.not_hasEntity_canonical {p : LabelPolicy} {d : Diagram}
    (h : d.IsCanonical p) : ∀ t ∈ (d.canonical p).texts, ¬ Markup.HasEntity t := by
  intro t ht
  rw [texts, h.nodes_canonical, h.edges_canonical, h.subgraphs_canonical, List.mem_append,
    List.mem_append] at ht
  rcases ht with (ht | ht) | ht
  · rcases List.mem_flatMap.1 ht with ⟨m, hm, ht⟩
    rcases List.mem_map.1 hm with ⟨n, hn, rfl⟩
    exact (h.nodes n hn).not_hasEntity_canonical t ht
  · rcases List.mem_flatMap.1 ht with ⟨f, hf, ht⟩
    rcases List.mem_map.1 (mem_of_mem_firsts hf) with ⟨e, he, rfl⟩
    have hlabel : (e.label.map cleanEdge).filter (· ≠ []) = some t := Option.mem_toList.1 ht
    rw [Option.filter_eq_some_iff, Option.map_eq_some_iff] at hlabel
    rcases hlabel with ⟨⟨s, hs, rfl⟩, -⟩
    have hclean := ((h.edges e he).label s hs).1
    exact not_hasEntity_cleanEdge hclean.isPrintable fun c hc =>
      LabelRules.not_isAngle_of_allows rfl (hclean.allowed c hc)
  · rcases List.mem_map.1 ht with ⟨s', hs', rfl⟩
    rcases List.mem_map.1 hs' with ⟨s, hs, rfl⟩
    have hclean := (h.subgraphs s hs).title
    exact not_hasEntity_clean rfl hclean.isPrintable (hclean.not_isAngle rfl)

/-- Where there are no entities, one more pass cuts every long text. -/
theorem IsCanonical.short_canonical {p : LabelPolicy} {d : Diagram} (h : d.IsCanonical p)
    (hentity : ∀ t ∈ d.texts, ¬ Markup.HasEntity t) :
    ∀ t ∈ (d.canonical p).texts, t.length ≤ maxNodeLabel := by
  -- The bounds that always hold, and those that need short ids where ids are shown.
  have hsafe := (isCanonical_canonical p d).hasSafeLabels
  have hshort : (d.canonical p).HasShortLabels := by
    refine (isCanonical_canonical p d).hasShortLabels_iff.2 fun m hm hid => ?_
    rw [h.nodes_canonical] at hm
    rcases List.mem_map.1 hm with ⟨n, hn, rfl⟩
    have hname : (n.canonical (.ofPolicy p)).id = n.id := ofText_of_isName (h.nodes n hn).name
    rw [hname]
    refine (h.nodes n hn).short_canonical (fun t ht => hentity t ?_) hid
    exact List.mem_append_left _ (List.mem_append_left _ (List.mem_flatMap.2 ⟨n, hn, ht⟩))
  intro t ht
  rw [texts, List.mem_append, List.mem_append] at ht
  rcases ht with (ht | ht) | ht
  · rcases List.mem_flatMap.1 ht with ⟨n, hn, ht⟩
    rw [Node.texts, List.mem_append, List.mem_append] at ht
    rcases ht with (ht | ht) | ht
    · exact hshort.segments n hn t ht
    · exact hsafe.groups n hn t (Option.mem_toList.1 ht)
    · rcases List.mem_map.1 ht with ⟨b, hb, rfl⟩
      exact hshort.bridges n hn b (Option.mem_toList.1 hb)
  · rcases List.mem_flatMap.1 ht with ⟨e, he, ht⟩
    have hmax : (30 : Nat) ≤ maxNodeLabel := by decide
    exact (hsafe.edges e he t (Option.mem_toList.1 ht)).2.trans hmax
  · rcases List.mem_map.1 ht with ⟨s, hs, rfl⟩
    exact hsafe.titles s hs

/-- Two more passes settle a canonical diagram. -/
theorem IsCanonical.isSettled_canonical_canonical {p : LabelPolicy} {d : Diagram}
    (h : d.IsCanonical p) : ((d.canonical p).canonical p).IsSettled p := by
  have honce := isCanonical_canonical p d
  have htwice := isCanonical_canonical p (d.canonical p)
  refine htwice.isSettled_iff.2 fun t ht => ⟨?_, honce.not_hasEntity_canonical t ht⟩
  exact honce.short_canonical h.not_hasEntity_canonical t ht

/-- A canonical diagram is what two more passes leave only if it is settled. -/
theorem IsCanonical.canonical_canonical_eq_iff_isSettled {p : LabelPolicy} {d : Diagram}
    (h : d.IsCanonical p) : (d.canonical p).canonical p = d ↔ d.IsSettled p := by
  constructor
  · intro heq
    have hsettled := h.isSettled_canonical_canonical
    rwa [heq] at hsettled
  · intro hsettled
    rw [hsettled, hsettled]

/-- Whatever the diagram and the policy, three passes are enough. -/
theorem isSettled_canonical_canonical_canonical (p : LabelPolicy) (d : Diagram) :
    (((d.canonical p).canonical p).canonical p).IsSettled p :=
  (isCanonical_canonical p d).isSettled_canonical_canonical

/-- Two are not: the first leaves an entity, the second takes it out and puts the
    id in its place, and only the third cuts that. -/
example :
    ¬ (((single longId "&am<p;".toList).canonical .strict).canonical .strict).IsSettled .strict := by
  decide +kernel

end Diagram

end Flowchart
