import Flowchart.Proofs.Conservation

/-!
# Division of the Nodes

A pack divides the nodes of the canonical form among its units. The units are no
more than were asked for, and read one after the other they have the ids of the
canonical form in their order. All of them but the last are of one size, and the
edges between units say where their two ends really are.

The order would be lost if bringing a unit into canonical form moved its nodes.
It does not. A run of the canonical form is in order already, under names that
are all different, and a bridge that a node has been given changes neither its
id nor its weight. So a unit has the ids of its run, and the rest is a matter of
rounding: runs of the length that several units call for are no more than these.

## Main definitions

* `Partition.Pack.home`: The unit that holds an id.
* `Partition.Pack.Divides`: A pack divides the nodes of a diagram.

## Theorems

* `Partition.filter_div_eq`: Items in one place after the other fall into runs.
* `Partition.nodes_piece`: A unit has the nodes of its part.
* `Partition.map_id_piece_part`: A unit has the ids of its run.
* `Partition.divides_split`: Every pack divides the nodes of the canonical form
  of its diagram.
-/

namespace Flowchart

namespace Partition

open Identifier

/-! ### Runs of a list -/

section Runs

variable {α : Type} {place : α → Nat} {l : List α} {r : Nat}

/-- Items that are each in their place fall into runs when places are rounded
    down. -/
theorem filter_div_eq (hr : 0 < r) (hplace : ∀ j (h : j < l.length), place l[j] = j) (i : Nat) :
    l.filter (fun a => place a / r = i) = (l.drop (i * r)).take r := by
  have hdiv : ∀ j, j / r = i ↔ i * r ≤ j ∧ j < i * r + r := by
    intro j
    rw [Nat.div_eq_iff hr]
    omega
  -- The places before the run, those in it and those after.
  have hbefore : (l.take (i * r)).filter (fun a => place a / r = i) = [] := by
    refine List.filter_eq_nil_iff.2 fun a ha => ?_
    rcases List.mem_take_iff_getElem.1 ha with ⟨j, hj, rfl⟩
    rw [decide_eq_true_eq, hplace, hdiv]
    omega
  have hrun : ((l.drop (i * r)).take r).filter (fun a => place a / r = i)
      = (l.drop (i * r)).take r := by
    refine List.filter_eq_self.2 fun a ha => ?_
    rcases List.mem_take_iff_getElem.1 ha with ⟨j, hj, rfl⟩
    rw [List.getElem_drop, decide_eq_true_eq, hplace, hdiv]
    omega
  have hafter : ((l.drop (i * r)).drop r).filter (fun a => place a / r = i) = [] := by
    refine List.filter_eq_nil_iff.2 fun a ha => ?_
    rcases List.mem_drop_iff_getElem.1 ha with ⟨j, hj, rfl⟩
    rw [List.getElem_drop, decide_eq_true_eq, hplace, hdiv]
    omega
  calc l.filter (fun a => place a / r = i)
      = (l.take (i * r) ++ ((l.drop (i * r)).take r ++ (l.drop (i * r)).drop r)).filter
          (fun a => place a / r = i) := by rw [List.take_append_drop, List.take_append_drop]
    _ = (l.drop (i * r)).take r := by
        rw [List.filter_append, List.filter_append, hbefore, hrun, hafter, List.nil_append,
          List.append_nil]

/-- Runs one after the other are the list they were cut from. -/
theorem flatMap_take_drop (l : List α) (r m : Nat) :
    ((List.range m).flatMap fun i => (l.drop (i * r)).take r) = l.take (m * r) := by
  induction m with
  | zero => rw [Nat.zero_mul, List.take_zero, List.range_zero, List.flatMap_nil]
  | succ m ih =>
    rw [List.range_succ, List.flatMap_append, ih, List.flatMap_singleton, Nat.succ_mul,
      List.take_add]

end Runs

/-! ### Rounding up -/

/-- As many runs as are needed hold everything. -/
theorem le_ceilDiv_mul {n r : Nat} (hr : 0 < r) : n ≤ ceilDiv n r * r :=
  Nat.le_of_not_lt fun h => Nat.lt_irrefl _ ((lt_ceilDiv_iff hr).2 h)

/-- No more runs are needed than there is room in. -/
theorem ceilDiv_le {n r k : Nat} (hr : 0 < r) (h : n ≤ k * r) : ceilDiv n r ≤ k :=
  Nat.le_of_not_lt fun hlt => Nat.not_lt_of_le h ((lt_ceilDiv_iff hr).1 hlt)

theorem Options.one_le_parts (o : Options) (nodes edges : Nat) (density : Binary64) :
    1 ≤ o.parts nodes edges density := by
  unfold parts
  split
  · exact Nat.le_refl 1
  · exact Nat.le_max_right _ 1
  · split
    · have hmax : 1 ≤ maxAutoParts := by decide
      exact Nat.le_min.2 ⟨Nat.le_max_left 1 _, hmax⟩
    · exact Nat.le_refl 1

/-! ### The nodes of a unit -/

section Units

variable {p : LabelPolicy} {c : Diagram} {runLength : Nat} {given : List (Text × Bridge)}

/-- A node of a canonical diagram is found at its place. -/
theorem findIdx_getElem (hc : c.IsCanonical p) (j : Nat) (h : j < c.nodes.length) :
    c.nodes.findIdx (·.id = c.nodes[j].id) = j := by
  rw [List.findIdx_eq h, decide_eq_true_eq]
  refine ⟨rfl, fun i hij => ?_⟩
  rw [decide_eq_false_iff_not]
  -- No node before it has its id.
  have hdistinct : c.nodes.Pairwise fun m n => m.id ≠ n.id := List.pairwise_map.1 hc.ids
  exact List.pairwise_iff_getElem.1 hdistinct i j (Nat.lt_trans hij h) h hij

theorem filter_unitOf_eq (hc : c.IsCanonical p) (hr : 0 < runLength) (i : Nat) :
    c.nodes.filter (fun n => unitOf runLength c n.id = i)
      = (c.nodes.drop (i * runLength)).take runLength :=
  filter_div_eq hr (findIdx_getElem hc) i

theorem weight_withBridge (n : Node) : (withBridge given n).weight = n.weight := by
  unfold withBridge
  split <;> rfl

/-- A bridge changes nothing that the place of a node depends on. -/
theorem isPlaced_withBridge {n : Node} (h : n.IsPlaced) : (withBridge given n).IsPlaced := by
  refine ⟨?_, ?_⟩
  · rw [id_withBridge]
    exact h.name
  · rw [weight_withBridge]
    exact h.weight

theorem precedes_withBridge (m n : Node) :
    (withBridge given m).precedes (withBridge given n) = m.precedes n := by
  rw [Node.precedes, Node.precedes, id_withBridge, id_withBridge, weight_withBridge,
    weight_withBridge]

theorem isOrdered_part (hc : c.IsCanonical p) (i : Nat) :
    (part runLength given c i).IsOrdered := by
  have hnodes : (part runLength given c i).nodes
      = (c.nodes.filter fun n => unitOf runLength c n.id = i).map (withBridge given) := rfl
  refine { nodes := fun n hn => ?_, ids := ?_, order := ?_ }
  · rw [hnodes, List.mem_map] at hn
    rcases hn with ⟨m, hm, rfl⟩
    exact isPlaced_withBridge (hc.nodes m (List.mem_of_mem_filter hm)).isPlaced
  · rw [map_id_part]
    exact hc.ids.sublist (List.filter_sublist.map _)
  · rw [hnodes, List.pairwise_map]
    refine (hc.order.sublist List.filter_sublist).imp fun hmn => ?_
    rwa [precedes_withBridge]

/-- A unit has the nodes of the part it is made of, each in canonical form. -/
theorem nodes_piece {d : Diagram} {i : Nat} {subgraphs : List Subgraph} (h : d.IsOrdered) :
    (piece p i subgraphs d).diagram.nodes = d.nodes.map (Node.canonical (.ofPolicy p)) :=
  Diagram.IsOrdered.nodes_canonical (d := { d with subgraphs := _ }) ⟨h.nodes, h.ids, h.order⟩ p

theorem map_id_piece {d : Diagram} {i : Nat} {subgraphs : List Subgraph} (h : d.IsOrdered) :
    (piece p i subgraphs d).diagram.nodes.map Node.id = d.nodes.map Node.id := by
  rw [nodes_piece h, h.map_id_canonical]

/-- A unit has the ids of its run. -/
theorem map_id_piece_part (hc : c.IsCanonical p) (hr : 0 < runLength) (i : Nat) :
    (piece p i c.subgraphs (part runLength given c i)).diagram.nodes.map Node.id
      = ((c.nodes.map Node.id).drop (i * runLength)).take runLength := by
  rw [map_id_piece (isOrdered_part hc i), map_id_part, filter_unitOf_eq hc hr, List.map_take,
    List.map_drop]

theorem length_nodes_piece (hc : c.IsCanonical p) {i : Nat} {subgraphs : List Subgraph} :
    (piece p i subgraphs c).diagram.nodes.length = c.nodes.length := by
  rw [nodes_piece hc.isOrdered, List.length_map]

/-- A unit is as long as a run, unless the nodes end before that. -/
theorem length_nodes_piece_part (hc : c.IsCanonical p) (hr : 0 < runLength) (i : Nat) :
    (piece p i c.subgraphs (part runLength given c i)).diagram.nodes.length
      = min runLength (c.nodes.length - i * runLength) := by
  rw [← List.length_map Node.id, map_id_piece_part hc hr, List.length_take, List.length_drop,
    List.length_map]

end Units

/-! ### Homes -/

/-- The number of the first unit that holds an id. -/
def Pack.home (q : Pack) (id : Text) : Nat := q.pieces.findIdx (·.diagram.hasNode id)

namespace Pack.IsCut

variable {q : Pack} {c : Diagram} {unit : Text → Nat}

/-- A unit stands at its index. -/
theorem index_getElem (h : q.IsCut c unit) (i : Nat) (hi : i < q.pieces.length) :
    q.pieces[i].index = i := by
  have hget : (q.pieces.map Piece.index)[i]? = (List.range q.pieces.length)[i]? := by
    rw [h.indices]
  rw [List.getElem?_map, List.getElem?_eq_getElem hi, List.getElem?_range hi, Option.map_some,
    Option.some.injEq] at hget
  exact hget

/-- A node is found in the unit that it fell into. -/
theorem home_eq (h : q.IsCut c unit) {id : Text} (hid : c.hasNode id = true) :
    q.home id = unit id := by
  have holds : ∀ i (hi : i < q.pieces.length),
      q.pieces[i].diagram.hasNode id = decide (unit id = i) := by
    intro i hi
    rw [h.nodes _ (List.getElem_mem hi), hid, Bool.true_and, h.index_getElem i hi]
  rw [home, List.findIdx_eq (h.unit_lt id hid)]
  refine ⟨?_, fun i hi => ?_⟩
  · rw [holds, decide_eq_true_eq]
  · rw [holds, decide_eq_false_iff_not]
    omega

/-- A pack is cut along the homes of the nodes, however it was cut. -/
theorem isCut_home {p : LabelPolicy} (h : q.IsCut c unit) (hc : c.IsCanonical p) :
    q.IsCut c q.home where
  indices := h.indices
  unit_lt id hid := by
    rw [h.home_eq hid]
    exact h.unit_lt id hid
  nodes u hu id := by
    rw [h.nodes u hu]
    by_cases hid : c.hasNode id = true
    · rw [h.home_eq hid]
    · rw [Bool.not_eq_true] at hid
      rw [hid, Bool.false_and, Bool.false_and]
  edges := h.edges
  cross := by
    -- Edges end at nodes, and for nodes the two ways to say where they are agree.
    have hends : ∀ e ∈ c.edges, q.home e.source = unit e.source ∧ q.home e.target = unit e.target :=
      fun e he => ⟨h.home_eq (hc.edges e he).source.2, h.home_eq (hc.edges e he).target.2⟩
    have hfilter : (c.edges.filter fun e => q.home e.source ≠ q.home e.target)
        = c.edges.filter fun e => unit e.source ≠ unit e.target := by
      refine List.filter_congr fun e he => ?_
      rw [(hends e he).1, (hends e he).2]
    rw [h.cross, hfilter]
    refine List.map_congr_left fun e he => ?_
    rw [(hends e (List.mem_of_mem_filter he)).1, (hends e (List.mem_of_mem_filter he)).2]

end Pack.IsCut

/-! ### Division -/

/-- A pack divides the nodes of a diagram, each in its home, among at most so many
    units. -/
structure Pack.Divides (q : Pack) (c : Diagram) (most : Nat) : Prop extends q.IsCut c q.home where
  few : q.pieces.length ≤ most
  /-- The units have the ids in order, one unit after the other. -/
  order : (q.pieces.flatMap fun u => u.diagram.nodes.map Node.id) = c.nodes.map Node.id
  inhabited : c.nodes ≠ [] → ∀ u ∈ q.pieces, u.diagram.nodes ≠ []
  /-- All units but the last are of one size, and the last is not larger. -/
  even : ∃ size, (∀ u ∈ q.pieces.dropLast, u.diagram.nodes.length = size) ∧
    ∀ u ∈ q.pieces, u.diagram.nodes.length ≤ size
  /-- The number of units that is written is that of the units that are. -/
  count : (q.toJson.field? "meta".toList).bind (Json.field? "k".toList)
    = some (.ofNat q.pieces.length)

theorem count_toJson (q : Pack) :
    (q.toJson.field? "meta".toList).bind (Json.field? "k".toList)
      = some (.ofNat q.pieces.length) := rfl

section Divides

variable {p : LabelPolicy} {c : Diagram}

theorem divides_whole (hc : c.IsCanonical p) (mode : Mode) (limits : Limits) {most : Nat}
    (hmost : 1 ≤ most) :
    (Pack.mk mode limits [] [piece p 0 c.subgraphs c]).Divides c most := by
  have hids : (piece p 0 c.subgraphs c).diagram.nodes.map Node.id = c.nodes.map Node.id :=
    map_id_piece hc.isOrdered
  refine {
    toIsCut := (isCut_whole hc mode limits).isCut_home hc
    few := hmost
    order := ?_
    inhabited := fun hne u hu => ?_
    even := ⟨c.nodes.length, fun u hu => absurd hu List.not_mem_nil, fun u hu => ?_⟩
    count := count_toJson _ }
  · rw [List.flatMap_singleton, hids]
  · rw [List.mem_singleton.1 hu, ← List.length_pos_iff, length_nodes_piece hc]
    exact List.length_pos_iff.2 hne
  · rw [List.mem_singleton.1 hu, length_nodes_piece hc]

theorem divides_runs (hc : c.IsCanonical p) {runLength : Nat} (hr : 0 < runLength) (mode : Mode)
    (limits : Limits) {given : List (Text × Bridge)} {most : Nat}
    (hmost : c.nodes.length ≤ most * runLength) :
    (Pack.mk mode limits (crossEdges runLength c)
      ((List.range (ceilDiv c.nodes.length runLength)).map fun i =>
        piece p i c.subgraphs (part runLength given c i))).Divides c most := by
  have hids : ∀ i, (piece p i c.subgraphs (part runLength given c i)).diagram.nodes.map Node.id
      = ((c.nodes.map Node.id).drop (i * runLength)).take runLength :=
    fun i => map_id_piece_part hc hr i
  refine {
    toIsCut := (isCut_runs hc hr mode limits).isCut_home hc
    few := ?_
    order := ?_
    inhabited := fun _ u hu => ?_
    even := ⟨runLength, fun u hu => ?_, fun u hu => ?_⟩
    count := count_toJson _ }
  · rw [List.length_map, List.length_range]
    exact ceilDiv_le hr hmost
  · have hall : (c.nodes.map Node.id).length ≤ ceilDiv c.nodes.length runLength * runLength := by
      rw [List.length_map]
      exact le_ceilDiv_mul hr
    rw [List.flatMap_map, List.flatMap_congr fun i _ => hids i, flatMap_take_drop,
      List.take_of_length_le hall]
  · rcases List.mem_map.1 hu with ⟨i, hi, rfl⟩
    have hstart := (lt_ceilDiv_iff hr).1 (List.mem_range.1 hi)
    rw [← List.length_pos_iff, length_nodes_piece_part hc hr]
    omega
  · -- The run after this one begins before the end, so this one is full.
    rw [← List.map_dropLast] at hu
    rcases List.mem_map.1 hu with ⟨i, hi, rfl⟩
    rw [List.dropLast_eq_take, List.length_range, List.take_range, List.mem_range] at hi
    have hnext : i + 1 < ceilDiv c.nodes.length runLength := by omega
    have hstart := (lt_ceilDiv_iff hr).1 hnext
    rw [Nat.succ_mul] at hstart
    rw [length_nodes_piece_part hc hr]
    omega
  · rcases List.mem_map.1 hu with ⟨i, -, rfl⟩
    rw [length_nodes_piece_part hc hr]
    exact Nat.min_le_left _ _

end Divides

/-- The pack of any diagram divides the nodes of its canonical form among no more
    units than were asked for, and no more than there are nodes. -/
theorem divides_split (o : Options) (p : LabelPolicy) (d : Diagram) :
    (split o p d).Divides (d.canonical p)
      (min (o.parts (d.canonical p).nodes.length (d.canonical p).edges.length
        (d.canonical p).density) (max (d.canonical p).nodes.length 1)) := by
  have hc := Diagram.isCanonical_canonical p d
  unfold split
  dsimp only
  split
  · exact divides_whole hc o.mode o.limits
      (Nat.le_min.2 ⟨o.one_le_parts _ _ _, Nat.le_max_right _ 1⟩)
  · rename_i hseveral
    have hall := le_ceilDiv_mul (n := (d.canonical p).nodes.length)
      (Nat.lt_trans Nat.zero_lt_one (Nat.lt_of_not_le hseveral))
    -- Runs are as long as so many units call for.
    refine divides_runs hc (Nat.le_max_right _ 1) o.mode o.limits (hall.trans ?_)
    rw [Nat.mul_comm]
    exact Nat.mul_le_mul_left _ (Nat.le_max_left _ 1)

end Partition

end Flowchart
