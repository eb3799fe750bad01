import Flowchart.Proofs.Retained
import Flowchart.Proofs.Structure

/-!
# What Merging Keeps

Nodes whose ids become one name are merged into the heaviest of them, and edges
that become the same are reduced to the first. `Node.keepHeaviest` does the former
one node at a time, and what is there gives way to what comes. Here both are said
of the whole list at once. The node that is kept is heavier than all before it and
no lighter than any after it, and the edge that is kept is one whose ends and
label occur nowhere before it.

The loop is related to that by induction from the end of the list. A new node is
compared with the one that was kept so far, and that is as good as comparing it
with all of them. This would fail for weights that are no numbers, which are
neither heavier nor lighter than anything, and there are none of those after
normalization.

Which node is kept depends on the order of the list only where weights agree. If
they do not, then merging a list and merging a permutation of it leave the same
nodes. Sorting takes away the rest, since merged nodes have distinct ids.

## Main definitions

* `Node.IsChosen`: The first of the heaviest nodes with its id.
* `Diagram.Keeps`: An edge that stays.
* `Diagram.Merges`: What canonical form makes of nodes and edges.

## Theorems

* `Node.isChosen_concat_iff`, `Node.mem_keepHeaviest_iff`: What one more node does
  to the choice, and to what was kept.
* `Node.mem_foldl_keepHeaviest_iff`: What merging leaves is what is chosen.
* `Node.isChosen_iff_of_perm`: When the order does not matter to the choice.
* `Diagram.edges_canonical_eq`: The edges that stay.
* `Diagram.merges_canonical`: Nothing is lost and nothing made up.
* `Diagram.canonical_eq_of_perm`: When canonical form does not depend on the order
  of nodes.
-/

namespace Flowchart

open Identifier

/-! ### Weights -/

namespace Binary64

theorem lt_iff {x y : Binary64} :
    x.lt y = true ↔ x.isNaN = false ∧ y.isNaN = false ∧ x.value < y.value := by
  rw [lt, Bool.and_eq_true, Bool.and_eq_true, Bool.not_eq_true', Bool.not_eq_true',
    decide_eq_true_eq, and_assoc]

theorem isNaN_normalized (x : Binary64) : x.normalized.isNaN = false := by
  have hfinite := isFinite_normalized x
  simp only [isFinite, isNaN, decide_eq_true_eq, decide_eq_false_iff_not] at hfinite ⊢
  omega

/-- What is not greater than a lesser number is less as well. -/
theorem lt_of_not_lt_of_lt {x y z : Binary64} (hx : x.isNaN = false) (hyx : y.lt x = false)
    (hyz : y.lt z = true) : x.lt z = true := by
  rw [Bool.eq_false_iff, ne_eq, lt_iff] at hyx
  rw [lt_iff] at hyz ⊢
  rcases hyz with ⟨hy, hz, hlt⟩
  have hle : ¬ y.value < x.value := fun h => hyx ⟨hy, hx, h⟩
  exact ⟨hx, hz, by omega⟩

/-- Of two normalized numbers that differ one is less than the other. -/
theorem lt_or_lt_of_ne {x y : Binary64} (h : x.normalized ≠ y.normalized) :
    x.normalized.lt y.normalized = true ∨ y.normalized.lt x.normalized = true := by
  rw [← key_lt_key_iff, ← key_lt_key_iff]
  have hkey : x.normalized.key ≠ y.normalized.key := fun heq => h (key_injective heq)
  omega

end Binary64

namespace Node

/-! ### The heaviest node of every id -/

/-- The first of the heaviest nodes with its id. -/
def IsChosen (l : List Node) (n : Node) : Prop :=
  ∃ before after, l = before ++ n :: after ∧
    (∀ k ∈ before, k.id = n.id → k.weight.lt n.weight = true) ∧
    ∀ k ∈ after, k.id = n.id → n.weight.lt k.weight = false

variable {l : List Node} {m n : Node}

theorem IsChosen.mem (h : IsChosen l m) : m ∈ l := by
  rcases h with ⟨before, after, rfl, -⟩
  exact List.mem_append_right _ List.mem_cons_self

/-- No node of the same id is heavier. -/
theorem IsChosen.lt_eq_false (h : IsChosen l m) {k : Node} (hk : k ∈ l) (hid : k.id = m.id) :
    m.weight.lt k.weight = false := by
  rcases h with ⟨before, after, rfl, hbefore, hafter⟩
  rw [Bool.eq_false_iff, ne_eq, Binary64.lt_iff]
  -- Those before the chosen node are lighter, and those after it no heavier.
  rcases List.mem_append.1 hk with hk | hk
  · have hlt := Binary64.lt_iff.1 (hbefore k hk hid)
    omega
  · rcases List.mem_cons.1 hk with rfl | hk
    · omega
    · rw [← Binary64.lt_iff, hafter k hk hid]
      exact Bool.false_ne_true

/-- With one more node at the end, what was chosen stays so unless that node is
    heavier. The node itself is chosen if it is heavier than all before it. -/
theorem isChosen_concat_iff :
    IsChosen (l ++ [n]) m ↔
      IsChosen l m ∧ ¬ (m.id = n.id ∧ m.weight.lt n.weight = true) ∨
        m = n ∧ ∀ k ∈ l, k.id = n.id → k.weight.lt n.weight = true := by
  constructor
  · rintro ⟨before, after, heq, hbefore, hafter⟩
    -- The chosen node is the new one, or the new one is among those after it.
    rcases List.eq_nil_or_concat' after with rfl | ⟨after, x, rfl⟩
    · rcases List.append_inj' heq rfl with ⟨rfl, hn⟩
      rw [List.cons.injEq] at hn
      rw [hn.1]
      exact Or.inr ⟨rfl, hbefore⟩
    · rw [← List.cons_append, ← List.append_assoc] at heq
      rcases List.append_inj' heq rfl with ⟨rfl, hn⟩
      rw [List.cons.injEq] at hn
      rw [hn.1]
      refine Or.inl ⟨⟨before, after, rfl, hbefore, fun k hk => ?_⟩, fun hlt => ?_⟩
      · exact hafter k (List.mem_append_left _ hk)
      · have hlast := hafter x (List.mem_append_right _ (List.mem_singleton_self x)) hlt.1.symm
        rw [hlt.2] at hlast
        exact Bool.noConfusion hlast
  · rintro (⟨⟨before, after, rfl, hbefore, hafter⟩, hlt⟩ | ⟨rfl, hbefore⟩)
    · refine ⟨before, after ++ [n], by rw [List.append_assoc, List.cons_append], hbefore,
        fun k hk hid => ?_⟩
      rcases List.mem_append.1 hk with hk | hk
      · exact hafter k hk hid
      · rw [List.mem_singleton.1 hk] at hid ⊢
        exact Bool.eq_false_iff.2 fun h => hlt ⟨hid.symm, h⟩
    · exact ⟨l, [], rfl, hbefore, List.forall_mem_nil _⟩

/-- Putting a node in does the same to the nodes that are there. -/
theorem mem_keepHeaviest_iff (h : (l.map Node.id).Nodup) :
    m ∈ keepHeaviest l n ↔
      m ∈ l ∧ ¬ (m.id = n.id ∧ m.weight.lt n.weight = true) ∨
        m = n ∧ ∀ k ∈ l, k.id = n.id → k.weight.lt n.weight = true := by
  induction l with
  | nil => simp [keepHeaviest]
  | cons k l ih =>
    rw [List.map_cons, List.nodup_cons] at h
    rw [keepHeaviest, List.forall_mem_cons, List.mem_cons]
    by_cases hid : k.id = n.id
    · -- The other nodes have other ids, so all depends on this one.
      have hother : ∀ j ∈ l, j.id ≠ n.id := fun j hj heq =>
        h.1 (by rw [hid, ← heq]; exact List.mem_map_of_mem hj)
      rw [if_pos hid, List.mem_cons]
      by_cases hlt : k.weight.lt n.weight = true
      · rw [if_pos hlt]
        constructor
        · rintro (rfl | hm)
          · exact Or.inr ⟨rfl, fun _ => hlt, fun j hj heq => absurd heq (hother j hj)⟩
          · exact Or.inl ⟨Or.inr hm, fun heq => hother m hm heq.1⟩
        · rintro (⟨rfl | hm, hnot⟩ | ⟨rfl, -⟩)
          · exact absurd ⟨hid, hlt⟩ hnot
          · exact Or.inr hm
          · exact Or.inl rfl
      · rw [if_neg hlt]
        constructor
        · rintro (rfl | hm)
          · exact Or.inl ⟨Or.inl rfl, fun heq => hlt heq.2⟩
          · exact Or.inl ⟨Or.inr hm, fun heq => hother m hm heq.1⟩
        · rintro (⟨hm, -⟩ | ⟨-, hk, -⟩)
          · exact hm
          · exact absurd (hk hid) hlt
    · rw [if_neg hid, List.mem_cons, ih h.2]
      constructor
      · rintro (rfl | ⟨hm, hnot⟩ | ⟨rfl, hall⟩)
        · exact Or.inl ⟨Or.inl rfl, fun heq => hid heq.1⟩
        · exact Or.inl ⟨Or.inr hm, hnot⟩
        · exact Or.inr ⟨rfl, fun heq => absurd heq hid, hall⟩
      · rintro (⟨rfl | hm, hnot⟩ | ⟨rfl, -, hall⟩)
        · exact Or.inl rfl
        · exact Or.inr (Or.inl ⟨hm, hnot⟩)
        · exact Or.inr (Or.inr ⟨rfl, hall⟩)

/-- The nodes that merging leaves are the chosen ones. -/
theorem mem_foldl_keepHeaviest_iff (h : ∀ n ∈ l, n.weight.isNaN = false) :
    m ∈ l.foldl keepHeaviest [] ↔ IsChosen l m := by
  induction l using List.reverseRecOn generalizing m with
  | nil =>
    refine iff_of_false List.not_mem_nil ?_
    rintro ⟨before, after, heq, -⟩
    exact List.append_ne_nil_of_right_ne_nil before (List.cons_ne_nil m after) heq.symm
  | append_singleton l n ih =>
    have hl : ∀ n ∈ l, n.weight.isNaN = false := fun k hk => h k (List.mem_append_left _ hk)
    have hnil : (([] : List Node).map Node.id).Nodup := List.nodup_nil
    have hdistinct := nodup_foldl_keepHeaviest hnil l
    -- The node is heavier than all before it if it is heavier than those chosen of them.
    have hall : (∀ k ∈ l.foldl keepHeaviest [], k.id = n.id → k.weight.lt n.weight = true) ↔
        ∀ k ∈ l, k.id = n.id → k.weight.lt n.weight = true := by
      refine ⟨fun hchosen k hk hid => ?_, fun hbefore k hk => hbefore k ((ih hl).1 hk).mem⟩
      have hkept : k.id ∈ (l.foldl keepHeaviest []).map Node.id :=
        mem_map_id_foldl_keepHeaviest.2 (Or.inr (List.mem_map_of_mem hk))
      rcases List.mem_map.1 hkept with ⟨c, hc, hcid⟩
      exact Binary64.lt_of_not_lt_of_lt (hl k hk) (((ih hl).1 hc).lt_eq_false hk hcid.symm)
        (hchosen c hc (hcid.trans hid))
    rw [List.foldl_concat, mem_keepHeaviest_iff hdistinct, isChosen_concat_iff, ih hl, hall]

/-- What is chosen among canonical nodes comes of a node in their place. -/
theorem IsChosen.of_map_canonical {r : LabelRules} (h : IsChosen (l.map (canonical r)) m) :
    ∃ before n after, l = before ++ n :: after ∧ m = n.canonical r ∧
      (∀ k ∈ before, ofText k.id = ofText n.id →
        k.weight.normalized.lt n.weight.normalized = true) ∧
      ∀ k ∈ after, ofText k.id = ofText n.id →
        n.weight.normalized.lt k.weight.normalized = false := by
  rcases h with ⟨front, back, heq, hfront, hback⟩
  rcases List.map_eq_append_iff.1 heq with ⟨before, rest, rfl, rfl, hrest⟩
  rcases List.map_eq_cons_iff.1 hrest with ⟨n, after, rfl, rfl, rfl⟩
  exact ⟨before, n, after, rfl, rfl, fun k hk => hfront _ (List.mem_map_of_mem hk),
    fun k hk => hback _ (List.mem_map_of_mem hk)⟩

/-- If nodes of one id differ in weight, then the chosen ones are the heaviest,
    wherever they stand. -/
theorem isChosen_iff_of_pairwise (hnormal : ∀ n ∈ l, n.weight.normalized = n.weight)
    (h : l.Pairwise fun m n => m.id = n.id → m.weight ≠ n.weight) :
    IsChosen l m ↔ m ∈ l ∧ ∀ k ∈ l, k.id = m.id → m.weight.lt k.weight = false := by
  refine ⟨fun hm => ⟨hm.mem, fun k hk hid => hm.lt_eq_false hk hid⟩, ?_⟩
  rintro ⟨hm, hheaviest⟩
  rcases List.append_of_mem hm with ⟨before, after, rfl⟩
  refine ⟨before, after, rfl, fun k hk hid => ?_, fun k hk hid => ?_⟩
  · -- A node before it is no heavier by assumption. It has to be lighter, which holds
    -- since the weights differ and numbers are compared in canonical form.
    have hne : k.weight ≠ m.weight :=
      (List.pairwise_append.1 h).2.2 k hk m List.mem_cons_self hid
    have hkl : k ∈ before ++ m :: after := List.mem_append_left _ hk
    rw [← hnormal k hkl, ← hnormal m hm] at hne ⊢
    refine (Binary64.lt_or_lt_of_ne hne).resolve_right fun hlt => ?_
    rw [hnormal k hkl, hnormal m hm, hheaviest k hkl hid] at hlt
    exact Bool.noConfusion hlt
  · exact hheaviest k (List.mem_append_right _ (List.mem_cons_of_mem m hk)) hid

/-- So such nodes can be listed in any order. -/
theorem isChosen_iff_of_perm {l' : List Node} (hperm : l'.Perm l)
    (hnormal : ∀ n ∈ l, n.weight.normalized = n.weight)
    (h : l.Pairwise fun m n => m.id = n.id → m.weight ≠ n.weight) :
    IsChosen l' m ↔ IsChosen l m := by
  have hnormal' : ∀ n ∈ l', n.weight.normalized = n.weight :=
    fun n hn => hnormal n (hperm.mem_iff.1 hn)
  have h' : l'.Pairwise fun m n => m.id = n.id → m.weight ≠ n.weight :=
    hperm.symm.pairwise h fun hne hid heq => hne hid.symm heq.symm
  rw [isChosen_iff_of_pairwise hnormal h, isChosen_iff_of_pairwise hnormal' h', hperm.mem_iff]
  exact and_congr_right fun _ => forall_congr' fun k => imp_congr_left hperm.mem_iff

end Node

namespace Diagram

variable {p : LabelPolicy} {d : Diagram}

/-- The merged nodes are those chosen among the canonical ones. -/
theorem mem_mergedNodes_iff {m : Node} :
    m ∈ d.mergedNodes p ↔ Node.IsChosen (d.nodes.map (Node.canonical (.ofPolicy p))) m := by
  refine Node.mem_foldl_keepHeaviest_iff fun n hn => ?_
  rcases List.mem_map.1 hn with ⟨k, -, rfl⟩
  exact Binary64.isNaN_normalized k.weight

/-! ### Nothing is lost or made up -/

/-- An edge at some place of the list stays: its ends are names of nodes, and no
    edge before it has the same ends and label once they are cleaned. -/
def Keeps (d : Diagram) (e : Edge) (i : Nat) : Prop :=
  ofText e.source ∈ d.names ∧ ofText e.target ∈ d.names ∧
    ∀ f ∈ d.edges.take i, f.canonical.signature ≠ e.canonical.signature

instance (d : Diagram) (e : Edge) (i : Nat) : Decidable (d.Keeps e i) :=
  inferInstanceAs (Decidable (_ ∧ _ ∧ _))

/-- The edges that stay, in their order. -/
theorem edges_canonical_eq (p : LabelPolicy) (d : Diagram) :
    (d.canonical p).edges =
      (d.edges.zipIdx.filter fun x => d.Keeps x.1 x.2).map fun x => x.1.canonical := by
  -- Edges of one signature have the same ends, so first occurrences can be taken
  -- before the edges without ends are dropped.
  have hends : ∀ e f : Edge, e.signature = f.signature →
      ((d.canonical p).hasNode e.source && (d.canonical p).hasNode e.target)
        = ((d.canonical p).hasNode f.source && (d.canonical p).hasNode f.target) := by
    intro e f h
    rw [Edge.signature, Edge.signature, Prod.mk.injEq, Prod.mk.injEq] at h
    rw [h.1, h.2.1]
  rw [edges_canonical, firsts_filter hends, firsts_eq_map_filter_zipIdx, List.zipIdx_map,
    List.filter_map, List.filter_map, List.filter_map, List.filter_filter, List.map_map]
  refine congrArg _ (List.filter_congr fun x _ => ?_)
  rw [Bool.eq_iff_iff, decide_eq_true_eq, Keeps, ← mem_names_iff_hasNode (p := p),
    ← mem_names_iff_hasNode (p := p), ← and_assoc, ← Bool.and_eq_true]
  refine Bool.and_eq_true_iff.trans (and_congr Iff.rfl ?_)
  rw [Function.comp_apply, Prod.map_snd, id_eq, ← List.map_take, List.all_map, List.all_eq_true]
  exact forall₂_congr fun f _ => decide_eq_true_iff

/-- What canonical form makes of a diagram: a node for every name, which is the
    canonical form of the first of the heaviest nodes that get the name, and those
    edges that stay. -/
structure Merges (p : LabelPolicy) (d c : Diagram) : Prop where
  names : ∀ id, id ∈ c.nodes.map Node.id ↔ ∃ n ∈ d.nodes, ofText n.id = id
  distinct : (c.nodes.map Node.id).Nodup
  heaviest : ∀ m ∈ c.nodes, ∃ before n after, d.nodes = before ++ n :: after ∧
    m = n.canonical (.ofPolicy p) ∧
    (∀ k ∈ before, ofText k.id = ofText n.id →
      k.weight.normalized.lt n.weight.normalized = true) ∧
    ∀ k ∈ after, ofText k.id = ofText n.id → n.weight.normalized.lt k.weight.normalized = false
  edges : c.edges = (d.edges.zipIdx.filter fun x => d.Keeps x.1 x.2).map fun x => x.1.canonical

/-- Canonical form loses nothing but what is merged, and makes up nothing. -/
theorem merges_canonical (p : LabelPolicy) (d : Diagram) : d.Merges p (d.canonical p) where
  names id := by rw [← hasNode_iff, hasNode_canonical_iff]
  distinct := (isCanonical_canonical p d).ids
  heaviest m hm := by
    have hmerged := (nodes_canonical_perm p d).mem_iff.1 hm
    exact (mem_mergedNodes_iff.1 hmerged).of_map_canonical
  edges := edges_canonical_eq p d

/-! ### The order of nodes -/

/-- Canonical form depends on which nodes are left after merging, and on nothing
    else about the nodes. -/
theorem canonical_eq_of_perm_mergedNodes {nodes : List Node}
    (h : (({ d with nodes } : Diagram).mergedNodes p).Perm (d.mergedNodes p)) :
    ({ d with nodes } : Diagram).canonical p = d.canonical p := by
  have hsort : (({ d with nodes } : Diagram).mergedNodes p).mergeSort Node.precedes
      = (d.mergedNodes p).mergeSort Node.precedes := by
    have hd := nodes_canonical_perm p d
    have hnodes := (nodes_canonical_perm p { d with nodes }).trans h
    -- Sorting settles the order of distinct names, so permuted nodes are sorted alike.
    refine List.Perm.eq_of_pairwise (fun m n hm hn hmn hnm => ?_)
      (List.pairwise_mergeSort Node.precedes_trans Node.precedes_total _)
      (List.pairwise_mergeSort Node.precedes_trans Node.precedes_total _) (hnodes.trans hd.symm)
    exact List.inj_on_of_nodup_map (nodup_map_id_mergedNodes p d) (hnodes.mem_iff.1 hm)
      (hd.mem_iff.1 hn) (Node.id_eq_of_precedes hmn hnm)
  have hnode : ∀ id, (({ d with nodes } : Diagram).mergedNodes p).any (·.id = id)
      = (d.mergedNodes p).any (·.id = id) := fun id => h.any_eq
  unfold canonical
  dsimp only
  simp only [hsort, hnode]

/-- Nodes may be listed in any order, as long as those that get one name differ
    in weight. -/
theorem canonical_eq_of_perm (p : LabelPolicy) {d : Diagram} {nodes : List Node}
    (hperm : nodes.Perm d.nodes)
    (hweights : d.nodes.Pairwise fun m n =>
      ofText m.id = ofText n.id → m.weight.normalized ≠ n.weight.normalized) :
    ({ d with nodes } : Diagram).canonical p = d.canonical p := by
  have hnormal : ∀ n ∈ d.nodes.map (Node.canonical (.ofPolicy p)),
      n.weight.normalized = n.weight := by
    intro n hn
    rcases List.mem_map.1 hn with ⟨k, -, rfl⟩
    exact Node.normalized_normalized k.weight
  have hdiffer : (d.nodes.map (Node.canonical (.ofPolicy p))).Pairwise fun m n =>
      m.id = n.id → m.weight ≠ n.weight := List.pairwise_map.2 hweights
  -- Merged nodes have distinct names, so it is enough that the same nodes are chosen.
  refine canonical_eq_of_perm_mergedNodes ?_
  rw [List.perm_ext_iff_of_nodup (nodup_map_id_mergedNodes p _).of_map
    (nodup_map_id_mergedNodes p d).of_map]
  intro m
  rw [mem_mergedNodes_iff, mem_mergedNodes_iff]
  exact Node.isChosen_iff_of_perm (hperm.map _) hnormal hdiffer

/-- Three nodes, of which the first and the last get one name but differ in
    weight. -/
def rivals : Diagram :=
  { nodes := [{ id := "1".toList, label := "A".toList, weight := .ofNat 1 },
      { id := "b".toList, label := "B".toList, weight := .ofNat 1 },
      { id := "n_1".toList, label := "C".toList, weight := .ofNat 2 }] }

/-- Listed backwards, they make the same diagram. -/
theorem canonical_reverse_rivals :
    rivals.nodes.reverse.Perm rivals.nodes ∧
      (rivals.nodes.Pairwise fun m n =>
        ofText m.id = ofText n.id → m.weight.normalized ≠ n.weight.normalized) ∧
      ({ rivals with nodes := rivals.nodes.reverse } : Diagram).canonical .strict
        = rivals.canonical .strict := by
  have hweights : rivals.nodes.Pairwise fun m n =>
      ofText m.id = ofText n.id → m.weight.normalized ≠ n.weight.normalized := by
    decide +kernel
  exact ⟨rivals.nodes.reverse_perm, hweights,
    canonical_eq_of_perm .strict rivals.nodes.reverse_perm hweights⟩

end Diagram

end Flowchart
