import Flowchart.Proofs.Merging
import Mathlib.Data.List.Forall2

/-!
# Edges That Are Completed

The arity repair gives every end of an edge a node and then brings the diagram into
canonical form. Which ends lack a node is found by comparing ids as they are
spelled, and canonical form goes by the names that are made of them.

For edges that does no harm. An end that has a node under its own spelling has one
under its name, and every other end is given one. So no edge ends nowhere, and canonical
form drops an edge only for an earlier one with the same ends and label.

For nodes and subgraphs it does. An end that is spelled differently from a node of
the same name counts as missing and is given a placeholder, which competes with that
node for the name. The placeholder has no weight, so it loses unless the weight of
the node is negative. A member of a subgraph that is spelled as no node and no end
is dropped, though canonical form would have found its node. It is missed unless the
subgraph lists the node once more in a spelling that is known. Nothing else can go
wrong, and `isExtendedBy_fixArity_iff` says so.

## Main definitions

* `Subgraph.resolved`: The members that are there, by name.
* `Subgraph.Within`: A subgraph with the title and all members of another.
* `Diagram.patched`: A diagram with placeholders, before canonical form.
* `Diagram.spelled`: A subgraph with the members that the patch leaves it.
* `Diagram.IsExtendedBy`: One diagram keeps what canonical form makes of another.

## Theorems

* `Diagram.edges_fixArity`: All edges stay, up to repetitions.
* `Diagram.exists_edge_fixArity`: Every edge has an image between nodes.
* `Diagram.mem_nodes_fixArity`: A node that no placeholder outweighs stays.
* `Diagram.isExtendedBy_fixArity_iff`: When the repair keeps all that it should.
-/

namespace Flowchart

open Identifier Label

/-! ### Lists of optional items -/

section FilterMap

variable {α β : Type} {f g : α → Option β} {R : β → β → Prop} {l : List α}

/-- Items that are each related to their counterpart are so in order. -/
theorem sublistForall₂_filterMap
    (h : ∀ a ∈ l, ∀ b, f a = some b → ∃ c, g a = some c ∧ R b c) :
    List.SublistForall₂ R (l.filterMap f) (l.filterMap g) := by
  induction l with
  | nil => exact .nil
  | cons a l ih =>
    have hrest := ih fun a' ha' => h a' (List.mem_cons_of_mem a ha')
    rcases hf : f a with _ | b
    · rw [List.filterMap_cons_none hf]
      -- A counterpart without an item is passed over.
      rcases hg : g a with _ | c
      · rwa [List.filterMap_cons_none hg]
      · rw [List.filterMap_cons_some hg]
        exact .cons_right hrest
    · rcases h a List.mem_cons_self b hf with ⟨c, hg, hR⟩
      rw [List.filterMap_cons_some hf, List.filterMap_cons_some hg]
      exact .cons hR hrest

/-- Conversely, if there is no counterpart without an item, then items in order are
    related to their counterparts, since there is none to spare. -/
theorem exists_of_sublistForall₂_filterMap (hnone : ∀ a ∈ l, f a = none → g a = none)
    (h : List.SublistForall₂ R (l.filterMap f) (l.filterMap g)) :
    ∀ a ∈ l, ∀ b, f a = some b → ∃ c, g a = some c ∧ R b c := by
  induction l with
  | nil => exact fun a ha => absurd ha List.not_mem_nil
  | cons a l ih =>
    have hrest : ∀ a' ∈ l, f a' = none → g a' = none := fun a' ha' =>
      hnone a' (List.mem_cons_of_mem a ha')
    -- By induction on the list. There are at most as many counterparts as items, so no
    -- counterpart can be passed over.
    have hfewer : (l.filterMap g).length ≤ (l.filterMap f).length := by
      rw [List.length_filterMap_eq_countP, List.length_filterMap_eq_countP]
      refine List.countP_mono_left fun a' ha' hg => ?_
      rcases hf : f a' with _ | b
      · rw [hrest a' ha' hf] at hg
        exact hg
      · rfl
    have hlength : ∀ {l₁ l₂ : List β}, List.SublistForall₂ R l₁ l₂ → l₁.length ≤ l₂.length := by
      intro l₁ l₂ hsub
      rcases List.sublistForall₂_iff.1 hsub with ⟨l', hforall, hsublist⟩
      exact hforall.length_eq ▸ hsublist.length_le
    rcases hf : f a with _ | b
    · rw [List.filterMap_cons_none hf, List.filterMap_cons_none (hnone a List.mem_cons_self hf)] at h
      refine List.forall_mem_cons.2 ⟨fun b hb => ?_, ih hrest h⟩
      rw [hf] at hb
      nomatch hb
    · -- If the first item had no counterpart, or one that is passed over, there would be
      -- too few left for the others.
      rw [List.filterMap_cons_some hf] at h
      rcases hg : g a with _ | c
      · rw [List.filterMap_cons_none hg] at h
        exact absurd (hlength h) (by rw [List.length_cons]; omega)
      · rw [List.filterMap_cons_some hg] at h
        cases h with
        | cons hR hsub =>
          refine List.forall_mem_cons.2 ⟨fun b' hb' => ?_, ih hrest hsub⟩
          rw [hf, Option.some.injEq] at hb'
          exact ⟨c, hg, hb' ▸ hR⟩
        | cons_right hsub => exact absurd (hlength hsub) (by rw [List.length_cons]; omega)

end FilterMap

/-! ### Members by name -/

namespace Subgraph

variable {hasNode hasNode' : Text → Bool} {s s' t : Subgraph}

/-- The members that name a node, under the names that are made of them. -/
def resolved (hasNode : Text → Bool) (s : Subgraph) : List Text :=
  firsts id ((s.members.map ofText).filter hasNode)

theorem mem_resolved {m : Text} :
    m ∈ s.resolved hasNode ↔ (∃ k ∈ s.members, ofText k = m) ∧ hasNode m = true := by
  rw [resolved, mem_firsts_id, List.mem_filter, List.mem_map]

theorem canonical?_eq_some_iff :
    s.canonical? hasNode = some t ↔
      2 ≤ (s.resolved hasNode).length ∧ t = ⟨clean .strict s.title, s.resolved hasNode⟩ := by
  have hcanonical : s.canonical? hasNode = if 2 ≤ (s.resolved hasNode).length then
      some ⟨clean .strict s.title, s.resolved hasNode⟩ else none := rfl
  rw [hcanonical, Option.ite_none_right_eq_some, Option.some.injEq, eq_comm (a := t)]

/-- The other subgraph has the same title and all the members of this one. -/
def Within (s t : Subgraph) : Prop := s.title = t.title ∧ s.members ⊆ t.members

instance : IsTrans Subgraph Within where
  trans _ _ _ hst htu := ⟨hst.1.trans htu.1, List.Subset.trans hst.2 htu.2⟩

/-- With all the members of a subgraph that stays, one of the same title stays. -/
theorem exists_canonical?_within (htitle : s.title = s'.title) (h : s.canonical? hasNode = some t)
    (hmembers : t.members ⊆ s'.resolved hasNode') :
    ∃ t', s'.canonical? hasNode' = some t' ∧ t.Within t' := by
  rcases canonical?_eq_some_iff.1 h with ⟨hseveral, rfl⟩
  have hlength := (List.subperm_of_subset (nodup_firsts_id _) hmembers).length_le
  refine ⟨_, canonical?_eq_some_iff.2 ⟨hseveral.trans hlength, rfl⟩, ?_, hmembers⟩
  rw [htitle]

end Subgraph

/-! ### What is chosen among more nodes -/

/-- A node stays chosen if none of the nodes that are added is heavier. -/
theorem Node.IsChosen.append {l l' : List Node} {m : Node} (h : Node.IsChosen l m)
    (hlight : ∀ k ∈ l', k.id = m.id → m.weight.lt k.weight = false) :
    Node.IsChosen (l ++ l') m := by
  rcases h with ⟨before, after, rfl, hbefore, hafter⟩
  refine ⟨before, after ++ l', by rw [List.append_assoc, List.cons_append], hbefore,
    fun k hk => ?_⟩
  rcases List.mem_append.1 hk with hk | hk
  · exact hafter k hk
  · exact hlight k hk

namespace Diagram

variable {d : Diagram}

/-- The nodes of canonical form are the chosen ones. -/
theorem mem_nodes_canonical_iff {p : LabelPolicy} {m : Node} :
    m ∈ (d.canonical p).nodes ↔ Node.IsChosen (d.nodes.map (Node.canonical (.ofPolicy p))) m :=
  (nodes_canonical_perm p d).mem_iff.trans mem_mergedNodes_iff

/-! ### The patch -/

/-- The diagram with a placeholder for every missing end, and without the members of
    subgraphs that are spelled as none of its nodes then. -/
def patched (d : Diagram) : Diagram :=
  let nodes := d.nodes ++ d.missingEnds.map placeholder
  { d with
    nodes
    subgraphs := d.subgraphs.map fun s =>
      { s with members := s.members.filter fun m => nodes.any (·.id = m) } }

theorem fixArity_eq_canonical (d : Diagram) : d.fixArity = d.patched.canonical .strict := rfl

theorem hasNode_patched {id : Text} :
    d.patched.hasNode id = true ↔ d.hasNode id = true ∨ id ∈ d.ends := by
  have hids : d.patched.nodes.map Node.id = d.nodes.map Node.id ++ d.missingEnds := by
    have hplaceholders : (d.missingEnds.map placeholder).map Node.id = d.missingEnds := by
      rw [List.map_map]
      exact List.map_id _
    rw [← hplaceholders, ← List.map_append]
    rfl
  rw [hasNode_iff, hids, List.mem_append, ← hasNode_iff, mem_missingEnds]
  -- An end that is a node already gets no placeholder, but then it is a node.
  by_cases hid : d.hasNode id = true
  · exact iff_of_true (Or.inl hid) (Or.inl hid)
  · rw [or_iff_right hid, or_iff_right hid, and_iff_left (Bool.not_eq_true _ ▸ hid)]

/-- Every node and every end gives the repaired diagram a node of its name. -/
theorem hasNode_fixArity {t : Text} :
    d.fixArity.hasNode t = true ↔ ∃ id, (d.hasNode id = true ∨ id ∈ d.ends) ∧ ofText id = t := by
  rw [fixArity_eq_canonical, hasNode_canonical_iff]
  constructor
  · rintro ⟨n, hn, rfl⟩
    exact ⟨n.id, hasNode_patched.1 (hasNode_iff.2 (List.mem_map_of_mem hn)), rfl⟩
  · rintro ⟨id, hid, rfl⟩
    rcases List.mem_map.1 (hasNode_iff.1 (hasNode_patched.2 hid)) with ⟨n, hn, rfl⟩
    exact ⟨n, hn, rfl⟩

theorem hasNode_fixArity_of_hasNode_canonical {p : LabelPolicy} {t : Text}
    (h : (d.canonical p).hasNode t = true) : d.fixArity.hasNode t = true := by
  rcases hasNode_canonical_iff.1 h with ⟨n, hn, rfl⟩
  exact hasNode_fixArity.2 ⟨n.id, Or.inl (hasNode_iff.2 (List.mem_map_of_mem hn)), rfl⟩

/-! ### Edges -/

theorem source_mem_ends {e : Edge} (he : e ∈ d.edges) : e.source ∈ d.ends :=
  List.mem_flatMap.2 ⟨e, he, List.mem_cons_self⟩

theorem target_mem_ends {e : Edge} (he : e ∈ d.edges) : e.target ∈ d.ends :=
  List.mem_flatMap.2 ⟨e, he, List.mem_cons_of_mem _ (List.mem_singleton_self _)⟩

/-- No edge is dropped but for an earlier one with the same ends and label. -/
theorem edges_fixArity (d : Diagram) :
    d.fixArity.edges = firsts Edge.signature (d.edges.map Edge.canonical) := by
  have hedges : d.fixArity.edges = firsts Edge.signature ((d.edges.map Edge.canonical).filter
      fun e => d.fixArity.hasNode e.source && d.fixArity.hasNode e.target) :=
    edges_canonical .strict d.patched
  -- Canonical form drops edges that end nowhere, and after the patch none does.
  rw [hedges, List.filter_eq_self.2 fun e hmem => ?_]
  rcases List.mem_map.1 hmem with ⟨f, hf, rfl⟩
  rw [Bool.and_eq_true]
  exact ⟨hasNode_fixArity.2 ⟨f.source, Or.inr (source_mem_ends hf), rfl⟩,
    hasNode_fixArity.2 ⟨f.target, Or.inr (target_mem_ends hf), rfl⟩⟩

/-- Every edge of a diagram, wherever it ends, has an image in the repaired diagram:
    an edge between the names of its ends, with its label once it is cleaned, and both
    ends of this edge are nodes. -/
theorem exists_edge_fixArity {e : Edge} (he : e ∈ d.edges) :
    ∃ f ∈ d.fixArity.edges,
      f.source = ofText e.source ∧ f.target = ofText e.target ∧
        f.label = (e.label.map cleanEdge).filter (· ≠ []) ∧
        d.fixArity.hasNode f.source = true ∧ d.fixArity.hasNode f.target = true := by
  -- Edges are merged by their signatures, so the image may come of another edge with
  -- the same ends and label.
  have hsignature : e.canonical.signature ∈ d.fixArity.edges.map Edge.signature := by
    rw [edges_fixArity, mem_map_firsts]
    exact List.mem_map_of_mem (List.mem_map_of_mem he)
  rcases List.mem_map.1 hsignature with ⟨f, hf, heq⟩
  rw [Edge.signature, Edge.signature, Prod.mk.injEq, Prod.mk.injEq] at heq
  rcases heq with ⟨hsource, htarget, hlabel⟩
  have hends := (isCanonical_canonical .strict d.patched).edges f hf
  exact ⟨f, hf, hsource, htarget, hlabel, hends.source.2, hends.target.2⟩

/-- A diagram of one node and an edge neither end of which is one. -/
def stranded : Diagram :=
  { nodes := [{ id := "a".toList }]
    edges := [{ source := "1".toList, target := "b c".toList, label := some "“go”".toList }] }

/-- Both ends become nodes. -/
theorem exists_edge_fixArity_stranded :
    (∃ e ∈ stranded.edges, stranded.hasNode e.source = false ∧ stranded.hasNode e.target = false) ∧
      ∃ f ∈ stranded.fixArity.edges,
        f.source = "n_1".toList ∧ f.target = "b_c".toList ∧ f.label = some "go".toList ∧
          stranded.fixArity.hasNode f.source = true ∧
          stranded.fixArity.hasNode f.target = true := by
  have he : (⟨"1".toList, "b c".toList, some "“go”".toList, none, []⟩ : Edge) ∈ stranded.edges :=
    List.mem_singleton_self _
  rcases exists_edge_fixArity he with ⟨f, hf, hsource, htarget, hlabel, hends⟩
  refine ⟨⟨_, he, by decide +kernel⟩, f, hf, ?_, ?_, ?_, hends⟩
  · exact hsource.trans (by decide +kernel)
  · exact htarget.trans (by decide +kernel)
  · exact hlabel.trans (by decide +kernel)

/-! ### Nodes -/

/-- Every placeholder stands beside the canonical nodes and has no weight. -/
theorem map_canonical_patched (r : LabelRules) (d : Diagram) :
    d.patched.nodes.map (Node.canonical r)
      = d.nodes.map (Node.canonical r)
        ++ d.missingEnds.map fun id => (placeholder id).canonical r := by
  have hnodes : d.patched.nodes = d.nodes ++ d.missingEnds.map placeholder := rfl
  rw [hnodes, List.map_append, List.map_map]
  rfl

theorem weight_canonical_placeholder (r : LabelRules) (id : Text) :
    ((placeholder id).canonical r).weight = Binary64.zero := rfl

/-- A node that is not lighter than a placeholder for its name stays. -/
theorem mem_nodes_fixArity {n : Node} (hn : n ∈ (d.canonical .strict).nodes)
    (h : n.weight.lt Binary64.zero = true → ∀ id ∈ d.missingEnds, ofText id ≠ n.id) :
    n ∈ d.fixArity.nodes := by
  rw [fixArity_eq_canonical, mem_nodes_canonical_iff, map_canonical_patched]
  refine (mem_nodes_canonical_iff.1 hn).append fun k hk hid => ?_
  rcases List.mem_map.1 hk with ⟨id, hmissing, rfl⟩
  rw [weight_canonical_placeholder, Bool.eq_false_iff]
  exact fun hlt => h hlt id hmissing hid

/-- What stays under the name of a placeholder is not lighter than it. -/
theorem lt_zero_eq_false_of_mem_nodes_fixArity {m : Node} {id : Text} (hm : m ∈ d.fixArity.nodes)
    (hmissing : id ∈ d.missingEnds) (hid : ofText id = m.id) :
    m.weight.lt Binary64.zero = false := by
  rw [fixArity_eq_canonical, mem_nodes_canonical_iff, map_canonical_patched] at hm
  have hplaceholder : (placeholder id).canonical (.ofPolicy .strict) ∈
      d.missingEnds.map fun id => (placeholder id).canonical (.ofPolicy .strict) :=
    List.mem_map_of_mem hmissing
  exact hm.lt_eq_false (List.mem_append_right _ hplaceholder) hid

/-! ### Subgraphs -/

/-- A subgraph with only those of its members that are spelled as a node or an
    end. -/
def spelled (d : Diagram) (s : Subgraph) : Subgraph :=
  { s with members := s.members.filter d.patched.hasNode }

theorem title_spelled (d : Diagram) (s : Subgraph) : (d.spelled s).title = s.title := rfl

/-- The subgraphs of the repaired diagram are made of these members. -/
theorem subgraphs_fixArity (d : Diagram) :
    d.fixArity.subgraphs = d.subgraphs.filterMap fun s =>
      (d.spelled s).canonical? d.fixArity.hasNode := by
  have hsubgraphs : d.patched.subgraphs = d.subgraphs.map d.spelled := rfl
  rw [fixArity_eq_canonical, subgraphs_canonical, hsubgraphs, List.filterMap_map]
  rfl

theorem mem_resolved_spelled {s : Subgraph} {hasNode : Text → Bool} {m : Text} :
    m ∈ (d.spelled s).resolved hasNode ↔
      (∃ k ∈ s.members, ofText k = m ∧ (d.hasNode k = true ∨ k ∈ d.ends)) ∧
        hasNode m = true := by
  rw [Subgraph.mem_resolved]
  refine and_congr_left fun _ => exists_congr fun k => ?_
  rw [spelled, List.mem_filter, hasNode_patched, and_assoc, and_comm (a := ofText k = m)]

/-- A subgraph that is dropped anyway does not stay with fewer members. -/
theorem canonical?_spelled_eq_none {hasNode : Text → Bool} {s : Subgraph}
    (h : s.canonical? hasNode = none) : (d.spelled s).canonical? hasNode = none := by
  rw [Option.eq_none_iff_forall_ne_some]
  intro c hc
  -- It can only have lost members, so where it stays the whole one does as well.
  have hsubset : c.members ⊆ s.resolved hasNode := by
    intro m hm
    rw [(Subgraph.canonical?_eq_some_iff.1 hc).2] at hm
    rcases mem_resolved_spelled.1 hm with ⟨⟨k, hk, hname, -⟩, hnode⟩
    exact Subgraph.mem_resolved.2 ⟨⟨k, hk, hname⟩, hnode⟩
  rcases Subgraph.exists_canonical?_within (title_spelled d s) hc hsubset with ⟨t, ht, -⟩
  rw [h] at ht
  nomatch ht

/-- One that would stay does so with all its members if each of them is spelled as a
    node or an end at least once. -/
theorem exists_canonical?_spelled_iff {hasNode : Text → Bool} {s t : Subgraph}
    (ht : s.canonical? hasNode = some t) :
    (∃ c, (d.spelled s).canonical? hasNode = some c ∧ t.Within c) ↔
      ∀ m ∈ t.members, ∃ k ∈ s.members, ofText k = m ∧ (d.hasNode k = true ∨ k ∈ d.ends) := by
  constructor
  · rintro ⟨c, hc, hwithin⟩ m hm
    have hkept := hwithin.2 hm
    rw [(Subgraph.canonical?_eq_some_iff.1 hc).2] at hkept
    exact (mem_resolved_spelled.1 hkept).1
  · intro hspelled
    -- Each member comes of a spelling that is kept, and it is a node as before.
    refine Subgraph.exists_canonical?_within (title_spelled d s).symm ht fun m hm => ?_
    have hnode := ((Subgraph.isCanonical_of_canonical? ht).members m hm).2
    exact mem_resolved_spelled.2 ⟨hspelled m hm, hnode⟩

/-- Once there are nodes for all ends, the subgraphs of canonical form have only more
    members. -/
theorem subgraphs_canonical_within (p : LabelPolicy) (d : Diagram) :
    List.SublistForall₂ Subgraph.Within (d.canonical p).subgraphs
      (d.subgraphs.filterMap (Subgraph.canonical? d.fixArity.hasNode)) := by
  rw [subgraphs_canonical]
  refine sublistForall₂_filterMap fun s _ t ht => ?_
  refine Subgraph.exists_canonical?_within rfl ht fun m hm => ?_
  rw [(Subgraph.canonical?_eq_some_iff.1 ht).2] at hm
  rcases Subgraph.mem_resolved.1 hm with ⟨hk, hnode⟩
  exact Subgraph.mem_resolved.2 ⟨hk, hasNode_fixArity_of_hasNode_canonical hnode⟩

/-! ### What should be kept -/

/-- One diagram keeps all of the canonical form of another. Its own nodes may be
    more, and then more of the members are there. -/
structure IsExtendedBy (d f : Diagram) : Prop where
  nodes : ∀ n ∈ (d.canonical .strict).nodes, ∃ m ∈ f.nodes,
    m.id = n.id ∧ m.label = n.label ∧ m.shape = n.shape ∧ m.weight = n.weight ∧
      m.group = n.group ∧ m.evidence = n.evidence
  /-- Nothing takes the place of a node that is there. -/
  places : ∀ m ∈ f.nodes, (d.canonical .strict).hasNode m.id = true →
    m ∈ (d.canonical .strict).nodes
  subgraphs : List.SublistForall₂ Subgraph.Within (d.canonical .strict).subgraphs f.subgraphs
  /-- Of the members only those are dropped that name no node, not even a new one. -/
  members : List.SublistForall₂ Subgraph.Within
    (d.subgraphs.filterMap (Subgraph.canonical? f.hasNode)) f.subgraphs

/-- The arity repair extends the canonical form of a diagram exactly if no node of
    negative weight has the name of a missing end, and all members of subgraphs are
    spelled as a node or an end at least once where they are listed. -/
theorem isExtendedBy_fixArity_iff (d : Diagram) :
    d.IsExtendedBy d.fixArity ↔
      (∀ n ∈ (d.canonical .strict).nodes, n.weight.lt Binary64.zero = true →
        ∀ id ∈ d.missingEnds, ofText id ≠ n.id) ∧
      ∀ s ∈ d.subgraphs, ∀ t, s.canonical? d.fixArity.hasNode = some t →
        ∀ m ∈ t.members, ∃ k ∈ s.members, ofText k = m ∧ (d.hasNode k = true ∨ k ∈ d.ends) := by
  constructor
  · intro h
    refine ⟨fun n hn hnegative id hid hname => ?_, fun s hs t ht => ?_⟩
    · rcases h.nodes n hn with ⟨m, hm, hmid, -, -, hweight, -⟩
      have hlight := lt_zero_eq_false_of_mem_nodes_fixArity hm hid (hname.trans hmid.symm)
      rw [hweight, hnegative] at hlight
      exact Bool.noConfusion hlight
    · have hmembers := h.members
      rw [subgraphs_fixArity] at hmembers
      refine (exists_canonical?_spelled_iff ht).1 ?_
      exact exists_of_sublistForall₂_filterMap (fun _ _ => canonical?_spelled_eq_none) hmembers
        s hs t ht
  · rintro ⟨hlight, hspelled⟩
    have hkept : ∀ n ∈ (d.canonical .strict).nodes, n ∈ d.fixArity.nodes := fun n hn =>
      mem_nodes_fixArity hn (hlight n hn)
    have hmembers : List.SublistForall₂ Subgraph.Within
        (d.subgraphs.filterMap (Subgraph.canonical? d.fixArity.hasNode)) d.fixArity.subgraphs := by
      rw [subgraphs_fixArity]
      exact sublistForall₂_filterMap fun s hs t ht =>
        (exists_canonical?_spelled_iff ht).2 (hspelled s hs t ht)
    refine ⟨fun n hn => ⟨n, hkept n hn, rfl, rfl, rfl, rfl, rfl, rfl⟩, fun m hm hid => ?_,
      IsTrans.trans _ _ _ (subgraphs_canonical_within .strict d) hmembers, hmembers⟩
    rcases List.mem_map.1 (hasNode_iff.1 hid) with ⟨n, hn, hname⟩
    -- The names of the repaired diagram are distinct.
    have hids := (isCanonical_canonical .strict d.patched).ids
    rwa [← List.inj_on_of_nodup_map hids (hkept n hn) hm hname]

/-- A node of negative weight, and an edge that ends at another spelling of its
    name. -/
def outweighed : Diagram :=
  { nodes := [{ id := "n_1".toList, label := "A".toList, weight := (Binary64.ofNat 1).neg }]
    edges := [{ source := "1".toList, target := "n_1".toList }] }

/-- Two nodes, and a subgraph that lists the first in another spelling. -/
def respelled : Diagram :=
  { nodes := [{ id := "n_1".toList }, { id := "b".toList }]
    subgraphs := [⟨"S".toList, ["1".toList, "b".toList]⟩] }

/-- The node gives way to its placeholder, and the subgraph is left with one member
    and dropped. -/
theorem not_isExtendedBy_fixArity :
    (outweighed.canonical .strict).nodes.map Node.label = ["A".toList] ∧
      outweighed.fixArity.nodes.map Node.label = ["1".toList] ∧
      ¬ outweighed.IsExtendedBy outweighed.fixArity ∧
      (respelled.canonical .strict).subgraphs = [⟨"S".toList, ["n_1".toList, "b".toList]⟩] ∧
      respelled.fixArity.subgraphs = [] ∧
      ¬ respelled.IsExtendedBy respelled.fixArity := by
  have hlabel : (outweighed.canonical .strict).nodes.map Node.label = ["A".toList] := by
    decide +kernel
  have hplaceholder : outweighed.fixArity.nodes.map Node.label = ["1".toList] := by
    decide +kernel
  have hsubgraph : (respelled.canonical .strict).subgraphs
      = [⟨"S".toList, ["n_1".toList, "b".toList]⟩] := by
    decide +kernel
  have hnone : respelled.fixArity.subgraphs = [] := by
    decide +kernel
  refine ⟨hlabel, hplaceholder, fun h => ?_, hsubgraph, hnone, fun h => ?_⟩
  · -- A node with the label that the first diagram had is nowhere to be found.
    have hmem : "A".toList ∈ (outweighed.canonical .strict).nodes.map Node.label :=
      hlabel ▸ List.mem_singleton_self _
    rcases List.mem_map.1 hmem with ⟨n, hn, hA⟩
    rcases h.nodes n hn with ⟨m, hm, -, hsame, -⟩
    have hmem' := List.mem_map_of_mem (f := Node.label) hm
    rw [hplaceholder, hsame, hA] at hmem'
    exact absurd hmem' (by decide)
  · have hsubgraphs := h.subgraphs
    rw [hsubgraph, hnone] at hsubgraphs
    nomatch hsubgraphs

end Diagram

end Flowchart
