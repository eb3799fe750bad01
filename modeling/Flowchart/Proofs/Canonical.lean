import Flowchart.Proofs.Distinct
import Flowchart.Proofs.EdgeLabel
import Flowchart.Proofs.Node
import Mathlib.Data.List.Lex

/-!
# Canonical Diagrams

What a diagram in canonical form is: canonical nodes with distinct ids in their
order, edges between them that are pairwise different, and subgraphs with two or
more of them.

Everything about a canonical diagram that is not a text is settled for good.
Ids stay as they are, so nothing is merged, no edge or member loses its node,
and the order depends on ids and weights alone. Only texts may change when the
diagram is brought into canonical form again, and `canonical_eq_self_iff` says
which: those that are too long or hold an entity.

## Main definitions

* `Node.IsPlaced`, `Diagram.IsOrdered`: Nodes that keep their order.
* `Edge.IsCanonical`, `Subgraph.IsCanonical`: Canonical parts of a diagram.
* `Diagram.IsCanonical`: A diagram in canonical form.
* `Diagram.texts`: The texts that canonical form may still change.

## Theorems

* `Node.precedes_trans`, `Node.precedes_total`, `Node.id_eq_of_precedes`: The order
  of nodes is one, up to their ids.
* `Diagram.hasNode_canonical_iff`: The ids of canonical form.
* `Diagram.edges_canonical_of_isName`: Its edges, if ids are names already.
* `Diagram.isCanonical_canonical`: Every diagram is brought into canonical form.
* `Diagram.canonical_eq_self_iff`: What bringing a canonical diagram into
  canonical form still changes.
* `Diagram.canonical_canonical_eq_iff`: When canonical form is reached in one
  step.
-/

namespace Flowchart

open Identifier Label

/-! ### The order of nodes -/

namespace Text

theorem upTo_trans {s t u : Text} (hst : upTo s t = true) (htu : upTo t u = true) :
    upTo s u = true := by
  rw [upTo, Bool.not_eq_true', decide_eq_false_iff_not, List.not_lt] at hst htu ⊢
  exact List.le_trans hst htu

theorem upTo_total (s t : Text) : upTo s t = true ∨ upTo t s = true := by
  rw [upTo, upTo, Bool.not_eq_true', Bool.not_eq_true', decide_eq_false_iff_not,
    decide_eq_false_iff_not, List.not_lt, List.not_lt]
  exact List.le_total s t

/-- A text that does not come after another comes before it or is the same. -/
theorem upTo_iff {s t : Text} : upTo s t = true ↔ s < t ∨ s = t := by
  rw [upTo, Bool.not_eq_true', decide_eq_false_iff_not, List.not_lt, List.le_iff_lt_or_eq]

end Text

namespace Node

theorem precedes_iff {m n : Node} :
    m.precedes n = true ↔
      n.weight.key < m.weight.key ∨
        n.weight.key = m.weight.key ∧ Text.upTo m.id n.id = true := by
  rw [precedes, Bool.or_eq_true, Bool.and_eq_true, decide_eq_true_eq, beq_iff_eq]

theorem precedes_trans (k m n : Node) (hkm : k.precedes m = true) (hmn : m.precedes n = true) :
    k.precedes n = true := by
  rw [precedes_iff] at hkm hmn ⊢
  rcases hkm with hkm | ⟨hkm, hid⟩
  · rcases hmn with hmn | ⟨hmn, -⟩
    · exact Or.inl (by omega)
    · exact Or.inl (by omega)
  · rcases hmn with hmn | ⟨hmn, hid'⟩
    · exact Or.inl (by omega)
    · exact Or.inr ⟨by omega, Text.upTo_trans hid hid'⟩

theorem precedes_total (m n : Node) : (m.precedes n || n.precedes m) = true := by
  rw [Bool.or_eq_true, precedes_iff, precedes_iff]
  rcases Int.lt_trichotomy n.weight.key m.weight.key with h | h | h
  · exact Or.inl (Or.inl h)
  · rcases Text.upTo_total m.id n.id with hid | hid
    · exact Or.inl (Or.inr ⟨h, hid⟩)
    · exact Or.inr (Or.inr ⟨h.symm, hid⟩)
  · exact Or.inr (Or.inl h)

-- Equal weights compare ids, and ids neither of which comes first are equal.
theorem id_eq_of_precedes {m n : Node} (hmn : m.precedes n = true) (hnm : n.precedes m = true) :
    m.id = n.id := by
  rw [precedes_iff] at hmn hnm
  rcases hmn with hmn | ⟨hkey, hup⟩
  · rcases hnm with hnm | ⟨hnm, -⟩ <;> omega
  · rcases hnm with hnm | ⟨-, hup'⟩
    · omega
    · rcases Text.upTo_iff.1 hup with hlt | heq
      · rw [Text.upTo, Bool.not_eq_true', decide_eq_false_iff_not] at hup'
        exact absurd hlt hup'
      · exact heq

/-- What the place of a node in the order depends on is in canonical form. -/
structure IsPlaced (n : Node) : Prop where
  name : IsName n.id
  weight : n.weight.normalized = n.weight

theorem IsCanonical.isPlaced {p : LabelPolicy} {n : Node} (h : n.IsCanonical p) : n.IsPlaced :=
  ⟨h.name, h.weight⟩

/-- Canonical form does not move such a node in the order. -/
theorem IsPlaced.precedes_canonical {r : LabelRules} {m n : Node} (hm : m.IsPlaced)
    (hn : n.IsPlaced) : (m.canonical r).precedes (n.canonical r) = m.precedes n := by
  have hmid : (m.canonical r).id = m.id := ofText_of_isName hm.name
  have hnid : (n.canonical r).id = n.id := ofText_of_isName hn.name
  have hmw : (m.canonical r).weight = m.weight := hm.weight
  have hnw : (n.canonical r).weight = n.weight := hn.weight
  rw [precedes, precedes, hmid, hnid, hmw, hnw]

end Node

/-! ### Edges -/

namespace Edge

/-- An edge in canonical form, between nodes that exist. -/
structure IsCanonical (hasNode : Text → Bool) (e : Edge) : Prop where
  source : IsName e.source ∧ hasNode e.source = true
  target : IsName e.target ∧ hasNode e.target = true
  label : ∀ t, e.label = some t → IsEdgeClean t ∧ t ≠ []

theorem label_canonical (e : Edge) :
    e.canonical.label = (e.label.map cleanEdge).filter (· ≠ []) := rfl

theorem isCanonical_canonical {hasNode : Text → Bool} {e : Edge}
    (hs : hasNode e.canonical.source = true) (ht : hasNode e.canonical.target = true) :
    e.canonical.IsCanonical hasNode where
  source := ⟨isName_ofText e.source, hs⟩
  target := ⟨isName_ofText e.target, ht⟩
  label t h := by
    rw [label_canonical, Option.filter_eq_some_iff, decide_eq_true_eq,
      Option.map_eq_some_iff] at h
    rcases h with ⟨⟨s, -, rfl⟩, hne⟩
    exact ⟨isEdgeClean_cleanEdge s, hne⟩

/-- A canonical edge changes exactly if there is an entity in its label. -/
theorem IsCanonical.canonical_eq_iff {hasNode : Text → Bool} {e : Edge}
    (h : e.IsCanonical hasNode) :
    e.canonical = e ↔ ∀ t ∈ e.label.toList, ¬ Markup.HasEntity t := by
  have hlabel : e.canonical = e ↔ e.canonical.label = e.label := by
    refine ⟨fun heq => congrArg Edge.label heq, fun heq => ?_⟩
    rw [label_canonical] at heq
    rw [canonical, ofText_of_isName h.source.1, ofText_of_isName h.target.1, heq]
  rw [hlabel, label_canonical]
  rcases he : e.label with _ | t
  · simp
  · rcases h.label t he with ⟨hclean, hne⟩
    rw [Option.toList_some, List.forall_mem_singleton, ← cleanEdge_eq_self_iff hclean,
      Option.map_some]
    -- Nothing may be left of the label, and then the edge loses it.
    by_cases hnil : cleanEdge t = []
    · rw [Option.filter_some_neg (by simp [hnil]), hnil]
      exact iff_of_false (by simp) fun heq => hne heq.symm
    · rw [Option.filter_some_pos (by simp [hnil]), Option.some.injEq]

/-- Edges that differ stay the same, as a list, only if each of them does. -/
theorem firsts_map_canonical_eq_iff {l : List Edge} (h : (l.map signature).Nodup) :
    firsts signature (l.map canonical) = l ↔ ∀ e ∈ l, e.canonical = e := by
  constructor
  · intro heq
    -- As many are left as there were, so none was dropped.
    have hall : firsts signature (l.map canonical) = l.map canonical :=
      (firsts_sublist _).eq_of_length (by rw [heq, List.length_map])
    exact map_eq_self_iff.1 (hall.symm.trans heq)
  · intro hself
    rw [map_eq_self_iff.2 hself, firsts_of_nodup h]

end Edge

/-! ### Subgraphs -/

namespace Subgraph

/-- A subgraph in canonical form, of nodes that exist. -/
structure IsCanonical (hasNode : Text → Bool) (s : Subgraph) : Prop where
  title : IsClean .strict s.title
  members : ∀ m ∈ s.members, IsName m ∧ hasNode m = true
  distinct : s.members.Nodup
  several : 2 ≤ s.members.length

theorem isCanonical_of_canonical? {hasNode : Text → Bool} {s s' : Subgraph}
    (h : s.canonical? hasNode = some s') : s'.IsCanonical hasNode := by
  unfold canonical? at h
  dsimp only at h
  split at h
  · rename_i hseveral
    rw [Option.some.injEq] at h
    subst h
    -- Names are resolved before they are counted, so spellings of one name are one
    -- member.
    have hdistinct := nodup_firsts_id ((s.members.map ofText).filter hasNode)
    refine ⟨isClean_clean .strict s.title, fun m hm => ?_, hdistinct, hseveral⟩
    rcases List.mem_filter.1 (mem_of_mem_firsts hm) with ⟨hmap, hnode⟩
    rcases List.mem_map.1 hmap with ⟨t, -, rfl⟩
    exact ⟨isName_ofText t, hnode⟩
  · exact absurd h (by simp only [reduceCtorEq, not_false_eq_true])

/-- Only the title of a canonical subgraph may change. -/
theorem IsCanonical.canonical?_eq {hasNode : Text → Bool} {s : Subgraph}
    (h : s.IsCanonical hasNode) :
    s.canonical? hasNode = some { s with title := clean .strict s.title } := by
  have hmap : s.members.map ofText = s.members :=
    map_eq_self_iff.2 fun m hm => ofText_of_isName (h.members m hm).1
  have hmembers : firsts id ((s.members.map ofText).filter hasNode) = s.members := by
    rw [hmap, List.filter_eq_self.2 fun m hm => (h.members m hm).2]
    exact firsts_of_nodup (by rw [List.map_id]; exact h.distinct)
  unfold canonical?
  dsimp only
  rw [hmembers, if_pos h.several]

theorem IsCanonical.clean_title_iff {hasNode : Text → Bool} {s : Subgraph}
    (h : s.IsCanonical hasNode) :
    { s with title := clean .strict s.title } = s ↔ ¬ Markup.HasEntity s.title := by
  have hiff : clean .strict s.title = s.title ↔ ¬ Markup.HasEntity s.title :=
    clean_strict_eq_self_iff h.title
  exact ⟨fun heq => hiff.1 (congrArg Subgraph.title heq), fun hentity => by rw [hiff.2 hentity]⟩

end Subgraph

namespace Diagram

/-! ### The form -/

/-- A diagram in canonical form under a policy. -/
structure IsCanonical (p : LabelPolicy) (d : Diagram) : Prop where
  nodes : ∀ n ∈ d.nodes, n.IsCanonical p
  ids : (d.nodes.map Node.id).Nodup
  order : d.nodes.Pairwise (Node.precedes · ·)
  edges : ∀ e ∈ d.edges, e.IsCanonical d.hasNode
  signatures : (d.edges.map Edge.signature).Nodup
  subgraphs : ∀ s ∈ d.subgraphs, s.IsCanonical d.hasNode

/-- The texts that canonical form may still change: those of the nodes, the
    labels of edges and the titles of subgraphs. -/
def texts (d : Diagram) : List Text :=
  d.nodes.flatMap Node.texts ++ d.edges.flatMap (·.label.toList) ++ d.subgraphs.map Subgraph.title

/-- The nodes are the merged ones, wherever sorting puts them. -/
theorem nodes_canonical_perm (p : LabelPolicy) (d : Diagram) :
    (d.canonical p).nodes.Perm (d.mergedNodes p) := List.mergeSort_perm _ _

theorem nodup_map_id_mergedNodes (p : LabelPolicy) (d : Diagram) :
    ((d.mergedNodes p).map Node.id).Nodup := by
  have hnil : (([] : List Node).map Node.id).Nodup := List.nodup_nil
  exact Node.nodup_foldl_keepHeaviest hnil _

/-- Each of them is a node in canonical form. -/
theorem exists_of_mem_nodes_canonical {p : LabelPolicy} {d : Diagram} {n : Node}
    (h : n ∈ (d.canonical p).nodes) : ∃ m ∈ d.nodes, n = m.canonical (.ofPolicy p) := by
  rcases Node.mem_foldl_keepHeaviest ((nodes_canonical_perm p d).mem_iff.1 h) with hnil | hmap
  · exact absurd hnil List.not_mem_nil
  · rcases List.mem_map.1 hmap with ⟨m, hm, rfl⟩
    exact ⟨m, hm, rfl⟩

theorem hasNode_canonical (p : LabelPolicy) (d : Diagram) :
    (d.canonical p).hasNode = fun id => (d.mergedNodes p).any (·.id = id) := by
  funext id
  exact (nodes_canonical_perm p d).any_eq

theorem hasNode_iff {d : Diagram} {id : Text} : d.hasNode id = true ↔ id ∈ d.nodes.map Node.id := by
  simp only [hasNode, List.any_eq_true, decide_eq_true_eq, List.mem_map]

/-- The ids are those of the diagram made into names. -/
theorem hasNode_canonical_iff {p : LabelPolicy} {d : Diagram} {id : Text} :
    (d.canonical p).hasNode id = true ↔ ∃ n ∈ d.nodes, ofText n.id = id := by
  have hids : (d.nodes.map (Node.canonical (.ofPolicy p))).map Node.id
      = d.nodes.map fun n => ofText n.id := List.map_map
  rw [hasNode_iff, ((nodes_canonical_perm p d).map Node.id).mem_iff, mergedNodes,
    Node.mem_map_id_foldl_keepHeaviest, List.map_nil, or_iff_right List.not_mem_nil, hids,
    List.mem_map]

/-- Nodes that have names already keep them. -/
theorem hasNode_canonical_of_isName {p : LabelPolicy} {d : Diagram}
    (h : ∀ n ∈ d.nodes, IsName n.id) : (d.canonical p).hasNode = d.hasNode := by
  funext id
  rw [Bool.eq_iff_iff, hasNode_canonical_iff, hasNode_iff, List.mem_map]
  refine exists_congr fun n => and_congr_right fun hn => ?_
  rw [ofText_of_isName (h n hn)]

/-- Edges are kept if both of their ends are, and then only the first of those that
    are the same. -/
theorem edges_canonical (p : LabelPolicy) (d : Diagram) :
    (d.canonical p).edges = firsts Edge.signature ((d.edges.map Edge.canonical).filter
      fun e => (d.canonical p).hasNode e.source && (d.canonical p).hasNode e.target) := by
  rw [hasNode_canonical]
  rfl

/-- Subgraphs are kept if two of their members are. -/
theorem subgraphs_canonical (p : LabelPolicy) (d : Diagram) :
    (d.canonical p).subgraphs =
      d.subgraphs.filterMap (Subgraph.canonical? (d.canonical p).hasNode) := by
  rw [hasNode_canonical]
  rfl

/-- Edges between such nodes are kept, each in canonical form, and only repeated
    ones are dropped. -/
theorem edges_canonical_of_isName {p : LabelPolicy} {d : Diagram} (hn : ∀ n ∈ d.nodes, IsName n.id)
    (he : ∀ e ∈ d.edges, e.IsCanonical d.hasNode) :
    (d.canonical p).edges = firsts Edge.signature (d.edges.map Edge.canonical) := by
  rw [edges_canonical, hasNode_canonical_of_isName hn, List.filter_eq_self.2 fun e hmem => ?_]
  rcases List.mem_map.1 hmem with ⟨f, hf, rfl⟩
  have hends := he f hf
  have hs : f.canonical.source = f.source := ofText_of_isName hends.source.1
  have ht : f.canonical.target = f.target := ofText_of_isName hends.target.1
  rw [hs, ht, hends.source.2, hends.target.2, Bool.and_self]

/-- Every diagram is brought into canonical form. -/
theorem isCanonical_canonical (p : LabelPolicy) (d : Diagram) : (d.canonical p).IsCanonical p := by
  refine {
    nodes := fun n hn => ?_
    ids := ?_
    order := List.pairwise_mergeSort Node.precedes_trans Node.precedes_total _
    edges := fun e he => ?_
    signatures := nodup_firsts Edge.signature _
    subgraphs := fun s hs => ?_ }
  · rcases exists_of_mem_nodes_canonical hn with ⟨m, -, rfl⟩
    exact Node.isCanonical_canonical p m
  · rw [((nodes_canonical_perm p d).map Node.id).nodup_iff]
    exact nodup_map_id_mergedNodes p d
  · rw [hasNode_canonical]
    have hmem := List.mem_filter.1 (mem_of_mem_firsts he)
    rw [Bool.and_eq_true] at hmem
    rcases List.mem_map.1 hmem.1 with ⟨f, -, rfl⟩
    exact Edge.isCanonical_canonical hmem.2.1 hmem.2.2
  · rw [hasNode_canonical]
    rcases List.mem_filterMap.1 hs with ⟨t, -, ht⟩
    exact Subgraph.isCanonical_of_canonical? ht

/-- Nodes that are in order once they are merged are not sorted any more, so
    canonical form can be evaluated without sorting. -/
theorem canonical_eq_of_pairwise {p : LabelPolicy} {d : Diagram}
    (h : (d.mergedNodes p).Pairwise (Node.precedes · ·)) :
    d.canonical p = { d.canonical p with nodes := d.mergedNodes p } :=
  congrArg (fun nodes => { d.canonical p with nodes }) (List.mergeSort_of_pairwise h)

/-! ### What changes a second time -/

/-- The nodes are in order, under ids that are names and all different. -/
structure IsOrdered (d : Diagram) : Prop where
  nodes : ∀ n ∈ d.nodes, n.IsPlaced
  ids : (d.nodes.map Node.id).Nodup
  order : d.nodes.Pairwise (Node.precedes · ·)

theorem IsCanonical.isOrdered {p : LabelPolicy} {d : Diagram} (h : d.IsCanonical p) :
    d.IsOrdered :=
  ⟨fun n hn => (h.nodes n hn).isPlaced, h.ids, h.order⟩

theorem IsOrdered.map_id_canonical {d : Diagram} (h : d.IsOrdered) (r : LabelRules) :
    (d.nodes.map (Node.canonical r)).map Node.id = d.nodes.map Node.id := by
  rw [List.map_map]
  exact List.map_congr_left fun n hn => ofText_of_isName (h.nodes n hn).name

/-- Nodes in order are not merged, only brought into canonical form one by
    one. -/
theorem IsOrdered.mergedNodes_eq {d : Diagram} (h : d.IsOrdered) (p : LabelPolicy) :
    d.mergedNodes p = d.nodes.map (Node.canonical (.ofPolicy p)) := by
  -- Merging begins with no nodes at all.
  have hnodup : (([] ++ d.nodes.map (Node.canonical (.ofPolicy p))).map Node.id).Nodup := by
    rw [List.nil_append, h.map_id_canonical]
    exact h.ids
  rw [mergedNodes, Node.foldl_keepHeaviest_of_nodup hnodup, List.nil_append]

/-- Nodes in order keep it. -/
theorem IsOrdered.nodes_canonical {d : Diagram} (h : d.IsOrdered) (p : LabelPolicy) :
    (d.canonical p).nodes = d.nodes.map (Node.canonical (.ofPolicy p)) := by
  have horder : (d.nodes.map (Node.canonical (.ofPolicy p))).Pairwise (Node.precedes · ·) := by
    rw [List.pairwise_map]
    refine h.order.imp_of_mem fun hm hn hmn => ?_
    rw [(h.nodes _ hm).precedes_canonical (h.nodes _ hn)]
    exact hmn
  have hsort : (d.canonical p).nodes = (d.mergedNodes p).mergeSort Node.precedes := rfl
  rw [hsort, h.mergedNodes_eq, List.mergeSort_of_pairwise horder]

/-- The nodes of a canonical diagram keep their order. -/
theorem IsCanonical.nodes_canonical {p : LabelPolicy} {d : Diagram} (h : d.IsCanonical p) :
    (d.canonical p).nodes = d.nodes.map (Node.canonical (.ofPolicy p)) :=
  h.isOrdered.nodes_canonical p

theorem IsCanonical.hasNode_canonical_eq {p : LabelPolicy} {d : Diagram} (h : d.IsCanonical p) :
    (d.canonical p).hasNode = d.hasNode :=
  hasNode_canonical_of_isName fun n hn => (h.nodes n hn).name

theorem IsCanonical.edges_canonical {p : LabelPolicy} {d : Diagram} (h : d.IsCanonical p) :
    (d.canonical p).edges = firsts Edge.signature (d.edges.map Edge.canonical) :=
  edges_canonical_of_isName (fun n hn => (h.nodes n hn).name) h.edges

theorem IsCanonical.edges_canonical_eq_iff {p : LabelPolicy} {d : Diagram} (h : d.IsCanonical p) :
    (d.canonical p).edges = d.edges ↔ ∀ e ∈ d.edges, e.canonical = e := by
  rw [h.edges_canonical]
  exact Edge.firsts_map_canonical_eq_iff h.signatures

theorem IsCanonical.subgraphs_canonical {p : LabelPolicy} {d : Diagram} (h : d.IsCanonical p) :
    (d.canonical p).subgraphs =
      d.subgraphs.map fun s => { s with title := clean .strict s.title } := by
  rw [Diagram.subgraphs_canonical, h.hasNode_canonical_eq, ← List.filterMap_eq_map]
  exact List.filterMap_congr fun s hs => (h.subgraphs s hs).canonical?_eq

/-- Long texts and entities are all that bringing a canonical diagram into
    canonical form still changes. -/
theorem canonical_eq_self_iff {p : LabelPolicy} {d : Diagram} (h : d.IsCanonical p) :
    d.canonical p = d ↔ ∀ t ∈ d.texts, t.length ≤ maxNodeLabel ∧ ¬ Markup.HasEntity t := by
  have hnodes : (d.canonical p).nodes = d.nodes ↔ ∀ n ∈ d.nodes, n.canonical (.ofPolicy p) = n := by
    rw [h.nodes_canonical]
    exact map_eq_self_iff
  have hsubgraphs : (d.canonical p).subgraphs = d.subgraphs ↔
      ∀ s ∈ d.subgraphs, { s with title := clean .strict s.title } = s := by
    rw [h.subgraphs_canonical]
    exact map_eq_self_iff
  constructor
  -- If nothing changes, then no node, edge or subgraph does.
  · intro heq t ht
    rw [texts, List.mem_append, List.mem_append] at ht
    rcases ht with (ht | ht) | ht
    · rcases List.mem_flatMap.1 ht with ⟨n, hn, ht⟩
      have hself := hnodes.1 (congrArg Diagram.nodes heq) n hn
      exact (Node.canonical_eq_self_iff (h.nodes n hn)).1 hself t ht
    · rcases List.mem_flatMap.1 ht with ⟨e, he, ht⟩
      have hself := h.edges_canonical_eq_iff.1 (congrArg Diagram.edges heq) e he
      have hclean := ((h.edges e he).label t (Option.mem_toList.1 ht)).1
      have hmax : maxEdgeLabel ≤ maxNodeLabel := by decide
      exact ⟨hclean.short.trans hmax, (h.edges e he).canonical_eq_iff.1 hself t ht⟩
    · rcases List.mem_map.1 ht with ⟨s, hs, rfl⟩
      have hself := hsubgraphs.1 (congrArg Diagram.subgraphs heq) s hs
      exact ⟨(h.subgraphs s hs).title.short, (h.subgraphs s hs).clean_title_iff.1 hself⟩
  -- Conversely the three lists are all that could change.
  · intro htexts
    have hn : (d.canonical p).nodes = d.nodes := by
      refine hnodes.2 fun n hn => (Node.canonical_eq_self_iff (h.nodes n hn)).2 fun t ht => ?_
      exact htexts t (List.mem_append_left _
        (List.mem_append_left _ (List.mem_flatMap.2 ⟨n, hn, ht⟩)))
    have he : (d.canonical p).edges = d.edges := by
      refine h.edges_canonical_eq_iff.2 fun e he => ?_
      refine (h.edges e he).canonical_eq_iff.2 fun t ht => (htexts t ?_).2
      exact List.mem_append_left _ (List.mem_append_right _ (List.mem_flatMap.2 ⟨e, he, ht⟩))
    have hs : (d.canonical p).subgraphs = d.subgraphs := by
      refine hsubgraphs.2 fun s hs => (h.subgraphs s hs).clean_title_iff.2 (htexts _ ?_).2
      exact List.mem_append_right _ (List.mem_map_of_mem hs)
    calc d.canonical p
        = { direction := d.direction, nodes := (d.canonical p).nodes
            edges := (d.canonical p).edges, subgraphs := (d.canonical p).subgraphs
            style := d.style } := rfl
      _ = d := by rw [hn, he, hs]

/-- Canonical form is reached in one step exactly if nothing in the result is
    too long or holds an entity. In all other cases a second step changes the
    diagram. -/
theorem canonical_canonical_eq_iff (p : LabelPolicy) (d : Diagram) :
    (d.canonical p).canonical p = d.canonical p ↔
      ∀ t ∈ (d.canonical p).texts, t.length ≤ maxNodeLabel ∧ ¬ Markup.HasEntity t :=
  canonical_eq_self_iff (isCanonical_canonical p d)

/-- A diagram of one node. -/
def single (id label : Text) : Diagram := { nodes := [{ id, label }] }

/-- Both reasons occur. A dropped angle bracket brings an entity together, and
    an id of 61 letters stands in for an empty label. -/
theorem canonical_canonical_ne :
    ((single "a".toList "&am<p;".toList).canonical .strict).canonical .strict
        ≠ (single "a".toList "&am<p;".toList).canonical .strict ∧
      ((single (List.replicate 61 'a') []).canonical .strict).canonical .strict
        ≠ (single (List.replicate 61 'a') []).canonical .strict := by
  decide +kernel

end Diagram

end Flowchart
