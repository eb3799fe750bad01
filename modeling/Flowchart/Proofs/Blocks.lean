import Flowchart.Proofs.Repairs
import Flowchart.Proofs.Settled

/-!
# Blocks Taken Away

The block repair takes away the smallest block of a diagram and brings what is
left into canonical form. On a diagram that is settled the second half does
nothing: a block less leaves nothing to be cleaned, dropped or put in order. So
what the block repair does to settled diagrams is known in full, and the result
is settled again.

How many blocks a diagram has is then a measure of how often that can be done.
No repair increases it, the block repair of a settled diagram decreases it by
one, and where it is zero there is nothing left to take away.

## Main definitions

* `Diagram.groups`: The distinct groups of a diagram.
* `Diagram.blockCount`: How many subgraphs and groups a diagram has.
* `Diagram.withoutBlock`: A diagram without its smallest block.

## Theorems

* `Diagram.IsCanonical.withoutBlock`: One block less leaves a canonical diagram
  canonical.
* `Diagram.IsCanonical.fixBlocks_eq`: All that the block repair does to a settled
  diagram.
* `Diagram.blockCount_withoutBlock`, `Diagram.withoutBlock_of_blockCount_eq_zero`: How
  many blocks there are afterwards.
* `RepairKind.blockCount_apply_le`: No repair adds a block.
-/

namespace Flowchart

namespace Diagram

open Identifier Label

/-! ### The smallest -/

section FirstLeast

variable {α : Type} {le : α → α → Bool}

theorem mem_of_firstLeast {l : List α} {a : α} (h : firstLeast le l = some a) : a ∈ l := by
  induction l generalizing a with
  | nil => exact absurd h (by simp only [firstLeast, reduceCtorEq, not_false_eq_true])
  | cons b l ih =>
    -- The head is the least item if the tail has none or only a larger one. Otherwise
    -- it is the least item of the tail.
    rw [firstLeast] at h
    split at h
    · rw [← Option.some.inj h]
      exact List.mem_cons_self
    · rename_i c hc
      split at h
      · rw [← Option.some.inj h]
        exact List.mem_cons_self
      · rw [← Option.some.inj h]
        exact List.mem_cons_of_mem b (ih hc)

/-- There is a smallest item unless there is none at all. -/
theorem firstLeast_eq_none_iff {l : List α} : firstLeast le l = none ↔ l = [] := by
  cases l with
  | nil => exact iff_of_true rfl rfl
  | cons a l =>
    refine iff_of_false (fun h => ?_) (List.cons_ne_nil a l)
    rw [firstLeast] at h
    split at h
    · exact absurd h (by simp only [reduceCtorEq, not_false_eq_true])
    · split at h
      · exact absurd h (by simp only [reduceCtorEq, not_false_eq_true])
      · exact absurd h (by simp only [reduceCtorEq, not_false_eq_true])

end FirstLeast

theorem smallestSubgraph?_lt {d : Diagram} {i : Nat} (h : d.smallestSubgraph? = some i) :
    i < d.subgraphs.length := by
  rcases Option.map_eq_some_iff.1 h with ⟨⟨s, j⟩, hs, rfl⟩
  exact (List.mem_zipIdx' (mem_of_firstLeast hs)).1

theorem smallestSubgraph?_eq_none_iff {d : Diagram} :
    d.smallestSubgraph? = none ↔ d.subgraphs = [] := by
  rw [smallestSubgraph?, Option.map_eq_none_iff, firstLeast_eq_none_iff, List.zipIdx_eq_nil_iff]

/-- The distinct groups, in the order in which they first occur. -/
def groups (d : Diagram) : List Text := firsts id (d.nodes.filterMap Node.group)

theorem nodup_groups (d : Diagram) : d.groups.Nodup := nodup_firsts_id _

theorem mem_groups {d : Diagram} {g : Text} : g ∈ d.groups ↔ ∃ n ∈ d.nodes, n.group = some g := by
  rw [groups, mem_firsts_id, List.mem_filterMap]

theorem smallestGroup?_mem {d : Diagram} {g : Text} (h : d.smallestGroup? = some g) :
    g ∈ d.groups := by
  rcases Option.map_eq_some_iff.1 h with ⟨x, hx, rfl⟩
  rcases List.mem_map.1 (mem_of_firstLeast hx) with ⟨g, hg, rfl⟩
  exact hg

theorem smallestGroup?_eq_none_iff {d : Diagram} : d.smallestGroup? = none ↔ d.groups = [] := by
  rw [smallestGroup?, Option.map_eq_none_iff, firstLeast_eq_none_iff, groupSizes]
  exact List.map_eq_nil_iff

end Diagram

/-! ### A node that leaves its group -/

namespace Node

/-- The node without its group, if it is in the one given. -/
def leaving (g : Text) (n : Node) : Node := if n.group = some g then { n with group := none } else n

/-- Nothing but the group of a node changes. -/
theorem leaving_eq (g : Text) (n : Node) :
    n.leaving g = { n with group := n.group.filter (· ≠ g) } := by
  unfold leaving
  split
  · rename_i hgroup
    rw [hgroup, Option.filter_some_neg (by simp)]
  · rename_i hgroup
    -- The node is in no group, or in another one, which the filter keeps.
    rcases hg : n.group with _ | h
    · rw [Option.filter_none, ← hg]
    · have hne : h ≠ g := fun heq => hgroup (by rw [hg, heq])
      rw [Option.filter_some_pos (by simp [hne]), ← hg]

@[simp]
theorem id_leaving (g : Text) (n : Node) : (n.leaving g).id = n.id := by
  rw [leaving_eq]

@[simp]
theorem weight_leaving (g : Text) (n : Node) : (n.leaving g).weight = n.weight := by
  rw [leaving_eq]

@[simp]
theorem group_leaving (g : Text) (n : Node) :
    (n.leaving g).group = n.group.filter (· ≠ g) := by
  rw [leaving_eq]

theorem precedes_leaving (g : Text) (m n : Node) :
    (m.leaving g).precedes (n.leaving g) = m.precedes n := by
  rw [precedes, precedes, id_leaving, id_leaving, weight_leaving, weight_leaving]

theorem texts_leaving_subset (g : Text) (n : Node) : (n.leaving g).texts ⊆ n.texts := by
  rw [leaving_eq, texts, texts]
  refine List.append_subset.2 ⟨List.append_subset.2 ⟨?_, ?_⟩, List.subset_append_right _ _⟩
  · exact fun t ht => List.mem_append_left _ (List.mem_append_left _ ht)
  · -- Only the texts of the group are fewer.
    intro t ht
    have hgroup := Option.filter_eq_some_iff.1 (Option.mem_toList.1 ht)
    exact List.mem_append_left _ (List.mem_append_right _ (Option.mem_toList.2 hgroup.1))

/-- A canonical node stays one. -/
theorem IsCanonical.leaving {p : LabelPolicy} {n : Node} (h : n.IsCanonical p) (g : Text) :
    (n.leaving g).IsCanonical p := by
  rw [leaving_eq]
  refine ⟨h.name, h.drawn, h.few, h.safe, h.label, h.lines, h.weight, fun k hk => ?_, h.bridge⟩
  exact h.group k (Option.filter_eq_some_iff.1 hk).1

end Node

namespace Diagram

open Label

/-! ### One block less -/

/-- The diagram without its smallest subgraph, or without its smallest group if
    there are no subgraphs. -/
def withoutBlock (d : Diagram) : Diagram :=
  match d.smallestSubgraph? with
  | some i => { d with subgraphs := d.subgraphs.eraseIdx i }
  | none => match d.smallestGroup? with
    | some g => { d with nodes := d.nodes.map (Node.leaving g) }
    | none => d

theorem fixBlocks_eq (d : Diagram) : d.fixBlocks = d.withoutBlock.canonical .strict := rfl

/-- There are three cases: a subgraph is taken away, a group is, or there are
    neither. -/
@[elab_as_elim]
theorem withoutBlock_cases {d : Diagram} {motive : Diagram → Prop}
    (subgraph : ∀ i, i < d.subgraphs.length →
      motive { d with subgraphs := d.subgraphs.eraseIdx i })
    (group : ∀ g ∈ d.groups, d.subgraphs = [] →
      motive { d with nodes := d.nodes.map (Node.leaving g) })
    (neither : d.subgraphs = [] → d.groups = [] → motive d) : motive d.withoutBlock := by
  unfold withoutBlock
  split
  · rename_i i hi
    exact subgraph i (smallestSubgraph?_lt hi)
  · rename_i hnone
    -- Groups are looked at only when no subgraph is left.
    have hsubgraphs := smallestSubgraph?_eq_none_iff.1 hnone
    split
    · rename_i g hg
      exact group g (smallestGroup?_mem hg) hsubgraphs
    · rename_i hgroups
      exact neither hsubgraphs (smallestGroup?_eq_none_iff.1 hgroups)

theorem hasNode_map_leaving (d : Diagram) (g : Text) :
    ({ d with nodes := d.nodes.map (Node.leaving g) } : Diagram).hasNode = d.hasNode := by
  funext id
  rw [hasNode, hasNode, List.any_map]
  refine List.any_congr rfl fun n => ?_
  rw [Function.comp_apply, Node.id_leaving]

/-- Without one of its blocks a canonical diagram is still canonical. -/
theorem IsCanonical.withoutBlock {p : LabelPolicy} {d : Diagram} (h : d.IsCanonical p) :
    d.withoutBlock.IsCanonical p := by
  refine withoutBlock_cases (fun i _ => ?_) (fun g _ hsubgraphs => ?_) fun _ _ => h
  · -- What is asked of subgraphs is asked of each on its own.
    exact ⟨h.nodes, h.ids, h.order, h.edges, h.signatures,
      fun s hs => h.subgraphs s (List.mem_of_mem_eraseIdx hs)⟩
  · -- Nodes keep their names and their order, so everything that refers to a node
    -- still does.
    have hids : (d.nodes.map (Node.leaving g)).map Node.id = d.nodes.map Node.id := by
      rw [List.map_map]
      exact List.map_congr_left fun n _ => n.id_leaving g
    refine ⟨fun m hm => ?_, hids ▸ h.ids, ?_, ?_, h.signatures, ?_⟩
    · rcases List.mem_map.1 hm with ⟨n, hn, rfl⟩
      exact (h.nodes n hn).leaving g
    · rw [List.pairwise_map]
      exact h.order.imp fun hmn => by rwa [Node.precedes_leaving]
    · rw [hasNode_map_leaving]
      exact h.edges
    · rw [hasNode_map_leaving]
      exact h.subgraphs

/-- And it has no texts that it did not have before. -/
theorem texts_withoutBlock_subset (d : Diagram) : d.withoutBlock.texts ⊆ d.texts := by
  refine withoutBlock_cases (fun i _ => ?_) (fun g _ _ => ?_) fun _ _ => List.Subset.refl _
  · rw [texts, texts]
    refine List.append_subset.2 ⟨List.subset_append_left _ _, ?_⟩
    refine List.Subset.trans (List.map_subset _ ?_) (List.subset_append_right _ _)
    exact (List.eraseIdx_sublist _ _).subset
  · rw [texts, texts, List.flatMap_map]
    refine List.append_subset.2 ⟨List.append_subset.2 ⟨fun t ht => ?_, ?_⟩,
      List.subset_append_right _ _⟩
    · rcases List.mem_flatMap.1 ht with ⟨n, hn, ht⟩
      exact List.mem_append_left _ (List.mem_append_left _
        (List.mem_flatMap.2 ⟨n, hn, n.texts_leaving_subset g ht⟩))
    · exact fun t ht => List.mem_append_left _ (List.mem_append_right _ ht)

/-- A settled diagram without one of its blocks is settled. -/
theorem IsCanonical.isSettled_withoutBlock {p : LabelPolicy} {d : Diagram} (h : d.IsCanonical p)
    (hsettled : d.IsSettled p) : d.withoutBlock.IsSettled p :=
  h.withoutBlock.isSettled_iff.2 fun t ht =>
    h.isSettled_iff.1 hsettled t (texts_withoutBlock_subset d ht)

/-- The block repair of a settled diagram takes away a block and does nothing
    else. -/
theorem IsCanonical.fixBlocks_eq {d : Diagram} (h : d.IsCanonical .strict)
    (hsettled : d.IsSettled .strict) : d.fixBlocks = d.withoutBlock :=
  h.isSettled_withoutBlock hsettled

/-! ### How many blocks there are -/

/-- How many blocks a diagram has, subgraphs and groups together. -/
def blockCount (d : Diagram) : Nat := d.subgraphs.length + d.groups.length

/-- The groups that are left when the nodes of one leave it. -/
theorem groups_map_leaving (d : Diagram) (g : Text) :
    ({ d with nodes := d.nodes.map (Node.leaving g) } : Diagram).groups
      = d.groups.filter (· ≠ g) := by
  have hother : ∀ a b : Text, id a = id b → decide (a ≠ g) = decide (b ≠ g) :=
    fun a b h => congrArg (fun k => decide (k ≠ g)) h
  rw [groups, groups, ← firsts_filter hother, List.filterMap_map, List.filter_filterMap]
  refine congrArg _ (List.filterMap_congr fun n _ => ?_)
  rw [Function.comp_apply, Node.group_leaving]

/-- Its smallest block taken away, a diagram has one less. -/
theorem blockCount_withoutBlock {d : Diagram} (h : 0 < d.blockCount) :
    d.withoutBlock.blockCount + 1 = d.blockCount := by
  refine withoutBlock_cases (fun i hi => ?_) (fun g hg _ => ?_) fun hsubgraphs hgroups => ?_
  · have hgroups : ({ d with subgraphs := d.subgraphs.eraseIdx i } : Diagram).groups = d.groups :=
      rfl
    -- A subgraph goes on its own, since groups belong to the nodes.
    have hlength := List.length_eraseIdx_add_one hi
    rw [blockCount, blockCount, hgroups]
    dsimp only
    omega
  · -- All nodes of the group leave at once, and it occurs once among the groups.
    have hlength := length_filter_ne_of_mem d.nodup_groups hg
    rw [blockCount, blockCount, groups_map_leaving]
    dsimp only
    omega
  · -- Without subgraphs and groups there is nothing to count.
    rw [blockCount, hsubgraphs, hgroups] at h
    exact absurd h (by decide)

/-- Without blocks there is nothing to take away. -/
theorem withoutBlock_of_blockCount_eq_zero {d : Diagram} (h : d.blockCount = 0) :
    d.withoutBlock = d := by
  rw [blockCount, Nat.add_eq_zero_iff, List.length_eq_zero_iff, List.length_eq_zero_iff] at h
  unfold withoutBlock
  rw [smallestSubgraph?_eq_none_iff.2 h.1]
  dsimp only
  rw [smallestGroup?_eq_none_iff.2 h.2]

theorem blockCount_withoutBlock_le (d : Diagram) : d.withoutBlock.blockCount ≤ d.blockCount := by
  rcases Nat.eq_zero_or_pos d.blockCount with hzero | hpos
  · rw [withoutBlock_of_blockCount_eq_zero hzero]
  · exact Nat.le_of_succ_le (blockCount_withoutBlock hpos).le

/-- A group of a canonical diagram is one of the diagram that has been cleaned. -/
theorem groups_canonical_subset (p : LabelPolicy) (d : Diagram) :
    (d.canonical p).groups ⊆ d.groups.map (clean .strict) := by
  intro g hg
  rcases mem_groups.1 hg with ⟨n, hn, hgroup⟩
  rcases exists_of_mem_nodes_canonical hn with ⟨m, hm, rfl⟩
  -- A canonical node is in the cleaned group of its node, unless nothing is left of
  -- the name.
  have hclean : (m.group.map (clean .strict)).filter (· ≠ []) = some g := hgroup
  rcases Option.map_eq_some_iff.1 (Option.filter_eq_some_iff.1 hclean).1 with ⟨h, hh, rfl⟩
  exact List.mem_map_of_mem (mem_groups.2 ⟨m, hm, hh⟩)

/-- Canonical form adds no block. -/
theorem blockCount_canonical_le (p : LabelPolicy) (d : Diagram) :
    (d.canonical p).blockCount ≤ d.blockCount := by
  have hgroups := (List.subperm_of_subset (nodup_groups _) (groups_canonical_subset p d)).length_le
  rw [List.length_map] at hgroups
  exact Nat.add_le_add (List.length_filterMap_le _ _) hgroups

/-- Neither do the nodes that the arity repair adds. -/
theorem groups_append_placeholders (d : Diagram) (ids : List Text) :
    ({ d with nodes := d.nodes ++ ids.map placeholder } : Diagram).groups = d.groups := by
  have hnone : (ids.map placeholder).filterMap Node.group = [] := by
    rw [List.filterMap_map]
    exact List.filterMap_eq_nil_iff.2 fun _ _ => rfl
  rw [groups, List.filterMap_append, hnone, List.append_nil]
  rfl

end Diagram

/-- No repair adds a block. -/
theorem RepairKind.blockCount_apply_le (k : RepairKind) (d : Diagram) :
    (k.apply d).blockCount ≤ d.blockCount := by
  cases k with
  | token => exact Diagram.blockCount_canonical_le .strict d
  | arity =>
    -- Placeholders are in no group, and subgraphs are only spelled differently.
    refine (Diagram.blockCount_canonical_le .strict _).trans ?_
    have hgroups := d.groups_append_placeholders d.missingEnds
    exact Nat.add_le_add (List.length_map _).le (congrArg List.length hgroups).le
  | block => exact (Diagram.blockCount_canonical_le .strict _).trans d.blockCount_withoutBlock_le

end Flowchart
