import Flowchart.Proofs.Canonical
import Flowchart.Repair
import Mathlib.Data.List.Perm.Subperm

/-!
# What Repairs Leave Alone

A repair patches a diagram and brings the result into canonical form. The patch
is small: no edge is touched, and of the three repairs only the arity repair adds
nodes, one for every id that edges end at and no node has.

So a repair may make a diagram larger, but never larger than its edges call for.
The extent of a diagram is the number of its nodes and of those missing ids
together. Canonical form drops every edge that ends nowhere and may merge nodes,
so nothing is missing afterwards and the nodes are no more than before. Hence no
repair increases the extent, in whichever order repairs are taken.

## Main definitions

* `RepairKind.IsPatch`: A diagram is patched before it is brought into canonical
  form.
* `Diagram.extent`: How many nodes there are once no end is missing.

## Theorems

* `Diagram.length_nodes_canonical_le`, `Diagram.length_edges_canonical_le`:
  Canonical form adds nothing.
* `Diagram.IsCanonical.missingEnds_eq`: In canonical form no end is missing.
* `RepairKind.exists_isPatch`: Every repair is a patch in canonical form.
* `RepairKind.eq_apply_of_mem`: What repairs are chosen by.
* `RepairKind.extent_apply_le`: No repair increases the extent.
-/

namespace Flowchart

namespace Diagram

/-! ### The size of a canonical form -/

/-- Nodes are merged, and none is added. -/
theorem length_nodes_canonical_le (p : LabelPolicy) (d : Diagram) :
    (d.canonical p).nodes.length ≤ d.nodes.length := by
  have hsubset : (d.mergedNodes p).map Node.id
      ⊆ (d.nodes.map (Node.canonical (.ofPolicy p))).map Node.id := by
    intro id hid
    rcases Node.mem_map_id_foldl_keepHeaviest.1 hid with hnil | hmap
    · exact absurd hnil List.not_mem_nil
    · exact hmap
  -- Merged nodes have distinct names, so there are no more of them than names.
  have hlength := (List.subperm_of_subset (nodup_map_id_mergedNodes p d) hsubset).length_le
  rw [List.length_map, List.length_map, List.length_map] at hlength
  rw [(nodes_canonical_perm p d).length_eq]
  exact hlength

/-- Edges are dropped, and none is added. -/
theorem length_edges_canonical_le (p : LabelPolicy) (d : Diagram) :
    (d.canonical p).edges.length ≤ d.edges.length := by
  have hmapped : (d.edges.map Edge.canonical).length = d.edges.length := List.length_map _
  rw [← hmapped]
  exact (firsts_sublist _).length_le.trans (List.length_filter_le _ _)

/-! ### Missing ends -/

theorem mem_missingEnds {d : Diagram} {id : Text} :
    id ∈ d.missingEnds ↔ id ∈ d.ends ∧ d.hasNode id = false := by
  rw [missingEnds, mem_firsts_id, List.mem_filter, Bool.not_eq_true']

theorem nodup_missingEnds (d : Diagram) : d.missingEnds.Nodup := nodup_firsts_id _

/-- Which ends are missing does not depend on anything but nodes and edges. -/
theorem missingEnds_congr {c d : Diagram} (hnodes : c.nodes = d.nodes) (hedges : c.edges = d.edges) :
    c.missingEnds = d.missingEnds := by
  unfold missingEnds ends hasNode
  rw [hnodes, hedges]

/-- Canonical edges have nodes at both ends. -/
theorem IsCanonical.missingEnds_eq {p : LabelPolicy} {d : Diagram} (h : d.IsCanonical p) :
    d.missingEnds = [] := by
  refine List.eq_nil_iff_forall_not_mem.2 fun id hid => ?_
  rw [mem_missingEnds] at hid
  rcases List.mem_flatMap.1 hid.1 with ⟨e, he, hend⟩
  have hcanonical := h.edges e he
  -- A missing end is not a node, and an end of a canonical edge is.
  have hnode : d.hasNode id = true := by
    rcases List.mem_cons.1 hend with rfl | hend
    · exact hcanonical.source.2
    · rw [List.mem_singleton.1 hend]
      exact hcanonical.target.2
  rw [hnode] at hid
  exact Bool.noConfusion hid.2

theorem missingEnds_canonical (p : LabelPolicy) (d : Diagram) : (d.canonical p).missingEnds = [] :=
  (isCanonical_canonical p d).missingEnds_eq

/-- How many nodes there are once every edge has nodes to end at. -/
def extent (d : Diagram) : Nat := d.nodes.length + d.missingEnds.length

/-- In canonical form the extent is the number of nodes. -/
theorem extent_canonical_le (p : LabelPolicy) (d : Diagram) :
    (d.canonical p).extent ≤ d.nodes.length := by
  rw [extent, missingEnds_canonical, List.length_nil, Nat.add_zero]
  exact length_nodes_canonical_le p d

end Diagram

/-! ### Patches -/

namespace RepairKind

/-- A diagram is patched for a repair: it keeps its edges, and only the arity
    repair adds nodes, one for every missing end. -/
structure IsPatch (k : RepairKind) (d patched : Diagram) : Prop where
  direction : patched.direction = d.direction
  edges : patched.edges = d.edges
  nodes : patched.nodes.length = d.nodes.length + if k = .arity then d.missingEnds.length else 0

/-- Every repair is a patch in canonical form. -/
theorem exists_isPatch (k : RepairKind) (d : Diagram) :
    ∃ patched, k.IsPatch d patched ∧ k.apply d = patched.canonical .strict := by
  cases k with
  | token => exact ⟨d, ⟨rfl, rfl, rfl⟩, rfl⟩
  | arity =>
    refine ⟨_, ?_, rfl⟩
    refine ⟨rfl, rfl, ?_⟩
    rw [List.length_append, List.length_map, if_pos rfl]
  | block =>
    refine ⟨_, ?_, rfl⟩
    split
    · exact ⟨rfl, rfl, rfl⟩
    · split
      · exact ⟨rfl, rfl, List.length_map _⟩
      · exact ⟨rfl, rfl, rfl⟩

/-- So its result is canonical. -/
theorem isCanonical_apply (k : RepairKind) (d : Diagram) : (k.apply d).IsCanonical .strict := by
  rcases k.exists_isPatch d with ⟨patched, -, heq⟩
  rw [heq]
  exact Diagram.isCanonical_canonical .strict patched

/-- The results that a repair is chosen by are those of the repairs. -/
theorem eq_apply_of_mem {kinds : List RepairKind} {k : RepairKind} {d e : Diagram}
    (h : (k, e) ∈ kinds.map fun k => (k, k.apply d)) : e = k.apply d := by
  rcases List.mem_map.1 h with ⟨k', -, heq⟩
  rw [Prod.mk.injEq] at heq
  rw [← heq.2, heq.1]

/-- Repairs other than the arity repair add no node. -/
theorem length_nodes_apply_le {k : RepairKind} (hk : k ≠ .arity) (d : Diagram) :
    (k.apply d).nodes.length ≤ d.nodes.length := by
  rcases k.exists_isPatch d with ⟨patched, hpatch, heq⟩
  have hnodes := hpatch.nodes
  rw [if_neg hk] at hnodes
  rw [heq, ← Nat.add_zero d.nodes.length, ← hnodes]
  exact Diagram.length_nodes_canonical_le .strict patched

/-- No repair increases the extent. -/
theorem extent_apply_le (k : RepairKind) (d : Diagram) : (k.apply d).extent ≤ d.extent := by
  rcases k.exists_isPatch d with ⟨patched, hpatch, heq⟩
  have hextent := Diagram.extent_canonical_le .strict patched
  have hadded : (if k = .arity then d.missingEnds.length else 0) ≤ d.missingEnds.length := by
    split
    · exact Nat.le_refl _
    · exact Nat.zero_le _
  -- An added placeholder is one missing end less, so it does not show in the extent.
  have hnodes := hpatch.nodes
  rw [heq, Diagram.extent.eq_def d]
  omega

end RepairKind

end Flowchart
