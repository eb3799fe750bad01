import Flowchart.Partition.Pack
import Flowchart.Proofs.Canonical
import Mathlib.Algebra.Order.BigOperators.Group.List
import Mathlib.Algebra.Order.Ring.Nat

/-!
# Conservation of Edges

A diagram that is split keeps its nodes, each in one unit, and its edges were
meant to be kept likewise: those within a unit by the unit and the others beside
the units. This module says when they are.

Cutting loses nothing. Every node falls into one unit, so an edge has both its
ends in one unit or in two, and it goes to that unit or among the edges between
units. What loses edges is that a unit is brought into canonical form once more
after it was cut. Two edges between the same nodes whose labels differ only by
an entity become the same edge then, and the second is dropped. A canonical
label may hold an entity, since taking out angle brackets brings one together.

## Main definitions

* `Pack.IsCut`: A pack is cut from a diagram along a map from ids to units.
* `Pack.Conserves`: A pack has every edge of a diagram in its place.

## Theorems

* `exists_isCut_split`: Every pack is cut from the canonical form of its diagram.
* `Pack.IsCut.edgeCount_add_length_eq_iff`: When as many edges are left as there
  were.
* `Pack.IsCut.conserves_iff`: When all edges are left as they were.
* `conserves_split_iff`: Both for the pack of any diagram.
-/

namespace Flowchart

/-! ### Sums over a list -/

/-- Predicates of which no two hold of one item count as many items together as
    their disjunction. -/
theorem sum_countP_of_disjoint {α β : Type} {holds : β → α → Bool} {l : List α} {units : List β}
    (h : units.Pairwise fun u v => ∀ a ∈ l, holds u a = true → holds v a = false) :
    (units.map fun u => l.countP (holds u)).sum = l.countP fun a => units.any (holds · a) := by
  induction units with
  | nil =>
    simp only [List.map_nil, List.sum_nil, List.any_nil, List.countP_false, Function.const_apply]
  | cons u units ih =>
    rw [List.pairwise_cons] at h
    have hrest := ih h.2
    have hsplit := List.countP_eq_countP_filter_add l
      (fun a => (u :: units).any (holds · a)) (holds u)
    have hin : (l.filter (holds u)).countP (fun a => (u :: units).any (holds · a))
        = l.countP (holds u) := by
      rw [List.countP_filter]
      refine List.countP_congr fun a _ => ?_
      rw [List.any_cons]
      cases holds u a <;> simp
    have hout : (l.filter fun a => !holds u a).countP (fun a => (u :: units).any (holds · a))
        = l.countP fun a => units.any (holds · a) := by
      rw [List.countP_filter]
      refine List.countP_congr fun a ha => ?_
      rw [List.any_cons]
      by_cases hu : holds u a = true
      · -- What the first predicate holds of, no other does.
        have hnone : units.any (holds · a) = false := by
          rw [List.any_eq_false]
          intro v hv hva
          rw [h.1 v hv a ha hu] at hva
          exact absurd hva (by decide)
        rw [hu, hnone]
        decide
      · rw [Bool.not_eq_true] at hu
        rw [hu, Bool.false_or, Bool.not_false, Bool.and_true]
    rw [List.map_cons, List.sum_cons, hrest, hsplit, hin, hout]

/-- A sum of smaller terms is as large only if no term is smaller. -/
theorem sum_map_eq_iff_of_le {α : Type} {f g : α → Nat} {l : List α} (h : ∀ a ∈ l, f a ≤ g a) :
    (l.map f).sum = (l.map g).sum ↔ ∀ a ∈ l, f a = g a := by
  constructor
  · intro heq a ha
    by_contra hne
    have hlt : (l.map f).sum < (l.map g).sum :=
      List.sum_lt_sum f g h ⟨a, ha, Nat.lt_of_le_of_ne (h a ha) hne⟩
    omega
  · intro hall
    rw [List.map_congr_left hall]

namespace Partition

open Identifier

/-! ### Cuts -/

/-- A unit has both ends of an edge. -/
def Piece.holds (u : Piece) (e : Edge) : Bool :=
  u.diagram.hasNode e.source && u.diagram.hasNode e.target

/-- A pack is cut from a diagram: every node falls into a unit, and every unit
    has its nodes and the edges between them, brought into canonical form. -/
structure Pack.IsCut (q : Pack) (c : Diagram) (unit : Text → Nat) : Prop where
  indices : q.pieces.map Piece.index = List.range q.pieces.length
  unit_lt : ∀ id, c.hasNode id = true → unit id < q.pieces.length
  nodes : ∀ u ∈ q.pieces, ∀ id,
    u.diagram.hasNode id = (c.hasNode id && decide (unit id = u.index))
  edges : ∀ u ∈ q.pieces, u.diagram.edges =
    firsts Edge.signature ((c.edges.filter u.holds).map Edge.canonical)
  cross : q.crossEdges = (c.edges.filter fun e => unit e.source ≠ unit e.target).map fun e =>
    ⟨e.source, e.target, unit e.source, unit e.target⟩

section Piece

variable {p : LabelPolicy} {i : Nat} {subgraphs : List Subgraph} {d : Diagram}

theorem hasNode_piece (h : ∀ n ∈ d.nodes, IsName n.id) :
    (piece p i subgraphs d).diagram.hasNode = d.hasNode :=
  Diagram.hasNode_canonical_of_isName (d := { d with subgraphs := _ }) h

theorem edges_piece (hn : ∀ n ∈ d.nodes, IsName n.id)
    (he : ∀ e ∈ d.edges, e.IsCanonical d.hasNode) :
    (piece p i subgraphs d).diagram.edges
      = firsts Edge.signature (d.edges.map Edge.canonical) :=
  Diagram.edges_canonical_of_isName (d := { d with subgraphs := _ }) hn he

end Piece

/-! ### One unit -/

theorem isCut_whole {p : LabelPolicy} {c : Diagram} (hc : c.IsCanonical p) (mode : Mode)
    (limits : Limits) :
    (Pack.mk mode limits [] [piece p 0 c.subgraphs c]).IsCut c fun _ => 0 := by
  have hnodes : (piece p 0 c.subgraphs c).diagram.hasNode = c.hasNode :=
    hasNode_piece fun n hn => (hc.nodes n hn).name
  refine {
    indices := rfl
    unit_lt := fun id _ => Nat.zero_lt_one
    nodes := fun u hu id => ?_
    edges := fun u hu => ?_
    cross := ?_ }
  · rw [List.mem_singleton.1 hu, hnodes]
    have hindex : (0 = (piece p 0 c.subgraphs c).index) := rfl
    rw [decide_eq_true hindex, Bool.and_true]
  · rw [List.mem_singleton.1 hu, edges_piece (fun n hn => (hc.nodes n hn).name) hc.edges]
    -- The only unit has the ends of every edge.
    have hall : c.edges.filter (piece p 0 c.subgraphs c).holds = c.edges := by
      refine List.filter_eq_self.2 fun e he => ?_
      rw [Piece.holds, hnodes, (hc.edges e he).source.2, (hc.edges e he).target.2, Bool.and_self]
    rw [hall]
  · have hnone : c.edges.filter (fun _ : Edge => decide ((0 : Nat) ≠ 0)) = [] :=
      List.filter_eq_nil_iff.2 fun e _ => by decide
    rw [hnone, List.map_nil]

/-! ### Several units -/

section Runs

variable {p : LabelPolicy} {c : Diagram} {runLength : Nat} {given : List (Text × Bridge)}

theorem id_withBridge (n : Node) : (withBridge given n).id = n.id := by
  unfold withBridge
  split <;> rfl

theorem map_id_part (i : Nat) :
    (part runLength given c i).nodes.map Node.id
      = (c.nodes.filter fun n => unitOf runLength c n.id = i).map Node.id := by
  have hid : Node.id ∘ withBridge given = Node.id := funext id_withBridge
  have hnodes : (part runLength given c i).nodes
      = (c.nodes.filter fun n => unitOf runLength c n.id = i).map (withBridge given) := rfl
  rw [hnodes, List.map_map, hid]

theorem hasNode_part (i : Nat) (id : Text) :
    (part runLength given c i).hasNode id
      = (c.hasNode id && decide (unitOf runLength c id = i)) := by
  rw [Bool.eq_iff_iff, Diagram.hasNode_iff, map_id_part, Bool.and_eq_true, Diagram.hasNode_iff,
    decide_eq_true_eq, List.mem_map, List.mem_map]
  constructor
  · rintro ⟨n, hn, rfl⟩
    rw [List.mem_filter, decide_eq_true_eq] at hn
    exact ⟨⟨n, hn.1, rfl⟩, hn.2⟩
  · rintro ⟨⟨n, hn, rfl⟩, hunit⟩
    exact ⟨n, List.mem_filter.2 ⟨hn, decide_eq_true hunit⟩, rfl⟩

theorem isName_part (hc : c.IsCanonical p) {i : Nat} :
    ∀ n ∈ (part runLength given c i).nodes, IsName n.id := by
  intro n hn
  have hid : n.id ∈ (part runLength given c i).nodes.map Node.id := List.mem_map_of_mem hn
  rw [map_id_part, List.mem_map] at hid
  rcases hid with ⟨m, hm, heq⟩
  rw [← heq]
  exact (hc.nodes m (List.mem_of_mem_filter hm)).name

theorem hasNode_piece_part (hc : c.IsCanonical p) (i : Nat) (id : Text) :
    (piece p i c.subgraphs (part runLength given c i)).diagram.hasNode id
      = (c.hasNode id && decide (unitOf runLength c id = i)) := by
  rw [hasNode_piece (isName_part hc), hasNode_part]

/-- The edges of a part are those of which the unit made of it has both ends. -/
theorem edges_part (hc : c.IsCanonical p) (i : Nat) :
    (part runLength given c i).edges
      = c.edges.filter (piece p i c.subgraphs (part runLength given c i)).holds := by
  have hedges : (part runLength given c i).edges = c.edges.filter fun e =>
      decide (unitOf runLength c e.source = i) && decide (unitOf runLength c e.target = i) := rfl
  rw [hedges]
  refine List.filter_congr fun e he => ?_
  rw [Piece.holds, hasNode_piece_part hc, hasNode_piece_part hc, (hc.edges e he).source.2,
    (hc.edges e he).target.2, Bool.true_and, Bool.true_and]

theorem isCanonical_of_mem_part (hc : c.IsCanonical p) {i : Nat} :
    ∀ e ∈ (part runLength given c i).edges,
      e.IsCanonical (part runLength given c i).hasNode := by
  intro e he
  rw [edges_part hc, List.mem_filter, Piece.holds, hasNode_piece (isName_part hc),
    Bool.and_eq_true] at he
  have hedge := hc.edges e he.1
  exact ⟨⟨hedge.source.1, he.2.1⟩, ⟨hedge.target.1, he.2.2⟩, hedge.label⟩

/-- The runs that are needed are those that begin before the end. -/
theorem lt_ceilDiv_iff {n r i : Nat} (hr : 0 < r) : i < ceilDiv n r ↔ i * r < n := by
  rw [ceilDiv, ← Nat.succ_le_iff, Nat.le_div_iff_mul_le hr, Nat.succ_mul]
  omega

theorem unitOf_lt (hr : 0 < runLength) {id : Text} (h : c.hasNode id = true) :
    unitOf runLength c id < ceilDiv c.nodes.length runLength := by
  refine (lt_ceilDiv_iff hr).2 ((Nat.div_mul_le_self _ _).trans_lt (List.findIdx_lt_length.2 ?_))
  rwa [Diagram.hasNode, List.any_eq_true] at h

theorem isCut_runs (hc : c.IsCanonical p) (hr : 0 < runLength) (mode : Mode) (limits : Limits) :
    (Pack.mk mode limits (crossEdges runLength c)
      ((List.range (ceilDiv c.nodes.length runLength)).map fun i =>
        piece p i c.subgraphs (part runLength given c i))).IsCut c (unitOf runLength c) := by
  refine {
    indices := ?_
    unit_lt := fun id hid => ?_
    nodes := fun u hu id => ?_
    edges := fun u hu => ?_
    cross := ?_ }
  · rw [List.map_map, List.length_map, List.length_range]
    exact List.map_id _
  · rw [List.length_map, List.length_range]
    exact unitOf_lt hr hid
  · rcases List.mem_map.1 hu with ⟨i, -, rfl⟩
    exact hasNode_piece_part hc i id
  · rcases List.mem_map.1 hu with ⟨i, -, rfl⟩
    -- An edge is in a unit with both of its ends, and between units it is a cross edge.
    rw [edges_piece (isName_part hc) (isCanonical_of_mem_part hc), edges_part hc]
  · rw [crossEdges, List.filter_map]
    rfl

end Runs

/-- Every pack is cut from the canonical form of its diagram. -/
theorem exists_isCut_split (o : Options) (p : LabelPolicy) (d : Diagram) :
    ∃ unit, (split o p d).IsCut (d.canonical p) unit := by
  have hc := Diagram.isCanonical_canonical p d
  unfold split
  dsimp only
  split
  · exact ⟨_, isCut_whole hc o.mode o.limits⟩
  · exact ⟨_, isCut_runs hc (Nat.le_max_right _ 1) o.mode o.limits⟩

/-! ### Conservation -/

/-- Every edge of a diagram is in its place in a pack, and there only. -/
structure Pack.Conserves (q : Pack) (c : Diagram) : Prop where
  /-- A unit has the edges between its nodes, just as they were. -/
  inside : ∀ u ∈ q.pieces, u.diagram.edges = c.edges.filter u.holds
  /-- No edge lies within two units. -/
  once : q.pieces.Pairwise fun u v => ∀ e ∈ c.edges, u.holds e = true → v.holds e = false
  /-- The edges that lie within none are kept beside the units, each once. -/
  between : (q.crossEdges.map fun x => (x.source, x.target)) =
    (c.edges.filter fun e => !q.pieces.any (·.holds e)).map fun e => (e.source, e.target)
  total : q.edgeCount + q.crossEdges.length = c.edges.length

namespace Pack

theorem edgeCount_eq (q : Pack) :
    q.edgeCount = (q.pieces.map fun u => u.diagram.edges.length).sum := by
  rw [List.sum_eq_foldr, List.foldr_map]
  rfl

namespace IsCut

variable {q : Pack} {c : Diagram} {unit : Text → Nat}

theorem pairwise_index (h : q.IsCut c unit) :
    q.pieces.Pairwise fun u v => u.index ≠ v.index := by
  have hnodup : (q.pieces.map Piece.index).Nodup := by
    rw [h.indices]
    exact List.nodup_range
  exact List.pairwise_map.1 hnodup

/-- Units share no node, hence no edge. -/
theorem disjoint (h : q.IsCut c unit) :
    q.pieces.Pairwise fun u v => ∀ e ∈ c.edges, u.holds e = true → v.holds e = false := by
  refine h.pairwise_index.imp_of_mem fun {u v} hu hv hindex e _ hue => ?_
  rw [Piece.holds, Bool.and_eq_true, h.nodes u hu, Bool.and_eq_true, decide_eq_true_eq] at hue
  have hv : v.diagram.hasNode e.source = false := by
    rw [h.nodes v hv, decide_eq_false fun heq => hindex (hue.1.2.symm.trans heq), Bool.and_false]
  rw [Piece.holds, hv, Bool.false_and]

/-- An edge lies within a unit exactly if both its ends fall into one. -/
theorem any_holds_iff {p : LabelPolicy} (h : q.IsCut c unit) (hc : c.IsCanonical p) {e : Edge}
    (he : e ∈ c.edges) :
    q.pieces.any (·.holds e) = true ↔ unit e.source = unit e.target := by
  have hends := hc.edges e he
  rw [List.any_eq_true]
  constructor
  · rintro ⟨u, hu, hue⟩
    rw [Piece.holds, h.nodes u hu, h.nodes u hu, Bool.and_eq_true, Bool.and_eq_true,
      Bool.and_eq_true, decide_eq_true_eq, decide_eq_true_eq] at hue
    exact hue.1.2.trans hue.2.2.symm
  · intro heq
    -- The unit that the source falls into is there, and it has both ends.
    have hmem : unit e.source ∈ q.pieces.map Piece.index := by
      rw [h.indices, List.mem_range]
      exact h.unit_lt _ hends.source.2
    rcases List.mem_map.1 hmem with ⟨u, hu, hindex⟩
    refine ⟨u, hu, ?_⟩
    rw [Piece.holds, h.nodes u hu, h.nodes u hu, hends.source.2, hends.target.2, ← heq, hindex,
      decide_eq_true rfl, Bool.and_self, Bool.and_self]

theorem cross_eq {p : LabelPolicy} (h : q.IsCut c unit) (hc : c.IsCanonical p) :
    q.crossEdges = (c.edges.filter fun e => !q.pieces.any (·.holds e)).map fun e =>
      ⟨e.source, e.target, unit e.source, unit e.target⟩ := by
  rw [h.cross]
  refine congrArg _ (List.filter_congr fun e he => ?_)
  rw [Bool.eq_iff_iff, decide_eq_true_eq, Bool.not_eq_true', ← Bool.not_eq_true,
    h.any_holds_iff hc he]

/-- A unit is left with no more edges than fell into it. -/
theorem length_edges_le (h : q.IsCut c unit) :
    ∀ u ∈ q.pieces, u.diagram.edges.length ≤ c.edges.countP u.holds := by
  intro u hu
  have hfirsts : u.diagram.edges.Sublist ((c.edges.filter u.holds).map Edge.canonical) := by
    rw [h.edges u hu]
    exact firsts_sublist _
  have hlength := hfirsts.length_le
  rwa [List.length_map, ← List.countP_eq_length_filter] at hlength

/-- As many edges are left as there were exactly if no two that fell into one
    unit became the same. -/
theorem edgeCount_add_length_eq_iff {p : LabelPolicy} (h : q.IsCut c unit)
    (hc : c.IsCanonical p) :
    q.edgeCount + q.crossEdges.length = c.edges.length ↔
      ∀ u ∈ q.pieces, ((c.edges.filter u.holds).map fun e => e.canonical.signature).Nodup := by
  -- Before anything is dropped, the numbers agree.
  have hcut : (q.pieces.map fun u => c.edges.countP u.holds).sum + q.crossEdges.length
      = c.edges.length := by
    -- An edge that no unit has is one between units.
    rw [sum_countP_of_disjoint h.disjoint, h.cross_eq hc, List.length_map,
      ← List.countP_eq_length_filter]
    rw [List.length_eq_countP_add_countP (fun e => q.pieces.any (·.holds e))]
    refine congrArg _ (List.countP_congr fun e _ => ?_)
    rw [Bool.not_eq_true', decide_eq_true_eq, Bool.not_eq_true]
  have hsame : q.edgeCount + q.crossEdges.length = c.edges.length ↔
      (q.pieces.map fun u => u.diagram.edges.length).sum
        = (q.pieces.map fun u => c.edges.countP u.holds).sum := by
    rw [edgeCount_eq]
    omega
  rw [hsame, sum_map_eq_iff_of_le h.length_edges_le]
  refine forall₂_congr fun u hu => ?_
  have hfirsts := length_firsts_eq_iff Edge.signature
    (l := (c.edges.filter u.holds).map Edge.canonical)
  rwa [List.length_map, ← List.countP_eq_length_filter, ← h.edges u hu, List.map_map] at hfirsts

/-- All edges are left as they were exactly if none that fell into a unit has an
    entity in its label. -/
theorem conserves_iff {p : LabelPolicy} (h : q.IsCut c unit) (hc : c.IsCanonical p) :
    q.Conserves c ↔ ∀ u ∈ q.pieces, ∀ e ∈ c.edges, u.holds e = true →
      ∀ t ∈ e.label.toList, ¬ Markup.HasEntity t := by
  have hsignatures : ∀ u : Piece, ((c.edges.filter u.holds).map Edge.signature).Nodup := fun u =>
    hc.signatures.sublist (List.filter_sublist.map _)
  have hinside : ∀ u ∈ q.pieces, u.diagram.edges = c.edges.filter u.holds ↔
      ∀ e ∈ c.edges, u.holds e = true → ∀ t ∈ e.label.toList, ¬ Markup.HasEntity t := by
    intro u hu
    rw [h.edges u hu, Edge.firsts_map_canonical_eq_iff (hsignatures u)]
    constructor
    · intro hself e he hue
      exact (hc.edges e he).canonical_eq_iff.1 (hself e (List.mem_filter.2 ⟨he, hue⟩))
    · intro hlabels e he
      rcases List.mem_filter.1 he with ⟨he, hue⟩
      exact (hc.edges e he).canonical_eq_iff.2 (hlabels e he hue)
  constructor
  · intro hq u hu
    exact (hinside u hu).1 (hq.inside u hu)
  · intro hlabels
    have hkept : ∀ u ∈ q.pieces, u.diagram.edges = c.edges.filter u.holds := fun u hu =>
      (hinside u hu).2 (hlabels u hu)
    refine ⟨hkept, h.disjoint, ?_, (h.edgeCount_add_length_eq_iff hc).2 fun u hu => ?_⟩
    · rw [h.cross_eq hc, List.map_map]
      rfl
    · -- An edge that stays as it was keeps its signature.
      have hself : (c.edges.filter u.holds).map (fun e => e.canonical.signature)
          = (c.edges.filter u.holds).map Edge.signature := by
        refine List.map_congr_left fun e he => congrArg Edge.signature ?_
        rcases List.mem_filter.1 he with ⟨he, hue⟩
        exact (hc.edges e he).canonical_eq_iff.2 (hlabels u hu e he hue)
      rw [hself]
      exact hsignatures u

end IsCut

end Pack

/-- All edges of the canonical form are in their places in its pack exactly if
    none within a unit has an entity in its label, and as many are left as there
    were exactly if no two within a unit are told apart by an entity alone. -/
theorem conserves_split_iff (o : Options) (p : LabelPolicy) (d : Diagram) :
    ((split o p d).Conserves (d.canonical p) ↔
      ∀ u ∈ (split o p d).pieces, ∀ e ∈ (d.canonical p).edges, u.holds e = true →
        ∀ t ∈ e.label.toList, ¬ Markup.HasEntity t) ∧
    ((split o p d).edgeCount + (split o p d).crossEdges.length = (d.canonical p).edges.length ↔
      ∀ u ∈ (split o p d).pieces,
        (((d.canonical p).edges.filter u.holds).map fun e => e.canonical.signature).Nodup) := by
  rcases exists_isCut_split o p d with ⟨unit, hcut⟩
  have hc := Diagram.isCanonical_canonical p d
  exact ⟨hcut.conserves_iff hc, hcut.edgeCount_add_length_eq_iff hc⟩

/-- Three nodes, the first two joined by two edges. One of these has an entity for
    its label once angle brackets are taken out. -/
def parallel : Diagram :=
  { nodes := [{ id := "a".toList }, { id := "b".toList }, { id := "c".toList }]
    edges := [⟨"a".toList, "b".toList, none, none, []⟩,
      ⟨"a".toList, "b".toList, some "&am<p;".toList, none, []⟩,
      ⟨"b".toList, "c".toList, none, none, []⟩] }

/-- One of the two edges is lost, whether there is one unit or two. -/
theorem edgeCount_add_length_lt :
    (split (.byCount 1) .strict parallel).edgeCount
          + (split (.byCount 1) .strict parallel).crossEdges.length
        < (parallel.canonical .strict).edges.length ∧
      (split (.byCount 2) .strict parallel).edgeCount
          + (split (.byCount 2) .strict parallel).crossEdges.length
        < (parallel.canonical .strict).edges.length := by
  -- The nodes come in their order, so sorting them does nothing.
  have hsorted : (parallel.mergedNodes .strict).Pairwise (Node.precedes · ·) := by
    decide +kernel
  have hbase : parallel.canonical .strict =
      { parallel.canonical .strict with nodes := parallel.mergedNodes .strict } :=
    congrArg (fun nodes => { parallel.canonical .strict with nodes })
      (List.mergeSort_of_pairwise hsorted)
  unfold split
  rw [hbase]
  decide +kernel

end Partition

end Flowchart
