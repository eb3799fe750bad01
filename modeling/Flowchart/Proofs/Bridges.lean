import Flowchart.Diagram.Text
import Flowchart.Proofs.Division

/-!
# Bridges Between Units

A node that an edge between units leaves carries a bridge, which is to lead to
the unit at the other end of the first such edge, as long as there are bridges
to give. This module says where the bridges of a pack lead.

Bringing a unit into canonical form may change the label of a bridge but not
where it leads, so a node keeps what it was given. What it was given is found
among the edges between units, and these name units of the pack and never the
same one twice. So the bridges that a pack gives are sound.

A diagram may come with bridges of its own, though, from whoever wrote it, and
nothing takes them away. A node that is given none keeps the one it came with,
and so does every node of a diagram that is not split. Where such a bridge leads
is up to the author. `leadsAway_split_iff` says that these are the only bridges
that can lead nowhere or back to the unit they are in.

## Main definitions

* `Node.leadsTo?`: The unit that the bridge of a node leads to.
* `Partition.Pack.bridged`: The ids of the nodes that get a bridge.
* `Partition.Pack.exit?`: The first edge between units that leaves a node.
* `Partition.Pack.LeadsAway`: All bridges lead from one unit to another.

## Theorems

* `Node.leadsTo?_canonical`: Canonical form does not change where a bridge leads.
* `Partition.leadsTo?_split`: Where the bridges of a pack lead.
* `Partition.Pack.IsCut.exit?_spec`: Edges between units lead to other units.
* `Partition.bridges_split`: Which nodes have a bridge in the pack of a diagram
  that came with none, and where it leads.
* `Partition.leadsAway_split_iff`: When all bridges lead from one unit to another.
-/

namespace Flowchart

/-! ### Where a bridge leads -/

namespace Node

/-- The unit that the bridge of a node leads to, if it has one. -/
def leadsTo? (n : Node) : Option Nat := n.bridge.map Bridge.toDiagram

/-- Canonical form does not change where a bridge leads. -/
theorem leadsTo?_canonical (r : LabelRules) (n : Node) : (n.canonical r).leadsTo? = n.leadsTo? := by
  have hbridge : (n.canonical r).bridge
      = n.bridge.map (cleanBridge (Identifier.ofText n.id) (n.canonical r).label) := rfl
  rw [leadsTo?, leadsTo?, hbridge, Option.map_map]
  rfl

theorem isSome_leadsTo? (n : Node) : n.leadsTo?.isSome = n.bridge.isSome :=
  Option.isSome_map

end Node

namespace Partition

/-! ### Which nodes are given a bridge -/

namespace Pack

/-- The ids of the nodes that get a bridge: those that edges between units leave,
    in the order of these edges and as many as there are bridges to give. -/
def bridged (q : Pack) : List Text :=
  (firsts id (q.crossEdges.map CrossEdge.source)).take q.limits.maxBridges

/-- The first edge between units that leaves a node. -/
def exit? (q : Pack) (id : Text) : Option CrossEdge := q.crossEdges.find? (·.source = id)

theorem mem_map_source_of_mem_bridged {q : Pack} {id : Text} (h : id ∈ q.bridged) :
    id ∈ q.crossEdges.map CrossEdge.source := mem_firsts_id.1 (List.mem_of_mem_take h)

theorem exists_exit? {q : Pack} {id : Text} (h : id ∈ q.bridged) : ∃ x, q.exit? id = some x :=
  exists_find?_of_mem_map (mem_map_source_of_mem_bridged h)

end Pack

/-- A node is given a bridge if it is among the first that edges between units leave,
    and the bridge leads where the first edge does that leaves the node. -/
theorem find?_bridges (most : Nat) (d : Diagram) (cross : List CrossEdge) (t : Text) :
    (bridges most d cross).find? (·.1 = t) =
      if t ∈ (firsts id (cross.map CrossEdge.source)).take most then
        (cross.find? (·.source = t)).map fun x =>
          (x.source, ⟨x.toDiagram, drawnLabel d x.target⟩)
      else none := by
  have hfind : (bridges most d cross).find? (·.1 = t) =
      (((firsts CrossEdge.source cross).take most).find? (·.source = t)).map fun x =>
        (x.source, ⟨x.toDiagram, drawnLabel d x.target⟩) := by
    rw [bridges, List.find?_map]
    rfl
  rw [hfind, ← map_firsts, ← List.map_take]
  split
  · rename_i hfew
    rcases exists_find?_of_mem_map hfew with ⟨x, hx⟩
    -- Whoever is found in front is the first one altogether.
    have hfirst := (List.take_prefix most (firsts CrossEdge.source cross)).find?_eq_some hx
    rw [find?_firsts] at hfirst
    rw [hx, hfirst]
  · rename_i hmany
    rw [List.find?_eq_none.2 fun x hx => ?_, Option.map_none]
    rw [decide_eq_true_eq]
    exact fun hsource => hmany (List.mem_map.2 ⟨x, hx, hsource⟩)

theorem leadsTo?_withBridge (most : Nat) (d : Diagram) (cross : List CrossEdge) (n : Node) :
    (withBridge (bridges most d cross) n).leadsTo? =
      if n.id ∈ (firsts id (cross.map CrossEdge.source)).take most then
        (cross.find? (·.source = n.id)).map CrossEdge.toDiagram
      else n.leadsTo? := by
  rw [withBridge, find?_bridges]
  by_cases hfew : n.id ∈ (firsts id (cross.map CrossEdge.source)).take most
  · rw [if_pos hfew, if_pos hfew]
    rcases exists_find?_of_mem_map (mem_firsts_id.1 (List.mem_of_mem_take hfew)) with ⟨x, hx⟩
    rw [hx]
    rfl
  · rw [if_neg hfew, if_neg hfew]

/-! ### Where the bridges of a pack lead -/

section Units

variable {p : LabelPolicy} {c : Diagram} {runLength : Nat} {n : Node}

/-- A node of the only unit leads where it led before. -/
theorem leadsTo?_whole (hc : c.IsCanonical p) {i : Nat} {subgraphs : List Subgraph}
    (hn : n ∈ (piece p i subgraphs c).diagram.nodes) :
    ∃ m ∈ c.nodes, m.id = n.id ∧ n.leadsTo? = m.leadsTo? := by
  rw [nodes_piece hc.isOrdered] at hn
  rcases List.mem_map.1 hn with ⟨m, hm, rfl⟩
  exact ⟨m, hm, (Identifier.ofText_of_isName (hc.nodes m hm).name).symm,
    Node.leadsTo?_canonical _ m⟩

/-- A node of one of several units leads where it does with the bridge it was given. -/
theorem leadsTo?_part (hc : c.IsCanonical p) {given : List (Text × Bridge)} {i : Nat}
    {subgraphs : List Subgraph}
    (hn : n ∈ (piece p i subgraphs (part runLength given c i)).diagram.nodes) :
    ∃ m ∈ c.nodes, m.id = n.id ∧ n.leadsTo? = (withBridge given m).leadsTo? := by
  rw [nodes_piece (isOrdered_part hc i)] at hn
  rcases List.mem_map.1 hn with ⟨k, hk, rfl⟩
  rcases List.mem_map.1 hk with ⟨m, hm, rfl⟩
  have hmem := List.mem_of_mem_filter hm
  refine ⟨m, hmem, ?_, Node.leadsTo?_canonical _ _⟩
  have hid : ((withBridge given m).canonical (.ofPolicy p)).id
      = Identifier.ofText (withBridge given m).id := rfl
  rw [hid, id_withBridge, Identifier.ofText_of_isName (hc.nodes m hmem).name]

end Units

/-- A node of a pack leads where the first edge between units does that leaves it, if
    it is one that gets a bridge, and otherwise where it led before. -/
theorem leadsTo?_split (o : Options) (p : LabelPolicy) (d : Diagram) :
    ∀ u ∈ (split o p d).pieces, ∀ n ∈ u.diagram.nodes, ∃ m ∈ (d.canonical p).nodes,
      m.id = n.id ∧ n.leadsTo? =
        if n.id ∈ (split o p d).bridged then
          ((split o p d).exit? n.id).map CrossEdge.toDiagram
        else m.leadsTo? := by
  have hc := Diagram.isCanonical_canonical p d
  unfold split
  dsimp only
  split
  · intro u hu n hn
    rw [List.mem_singleton.1 hu] at hn
    rcases leadsTo?_whole hc hn with ⟨m, hm, hid, hleads⟩
    refine ⟨m, hm, hid, ?_⟩
    -- Without edges between units no node is given a bridge.
    rw [hleads, if_neg]
    exact fun hgiven => List.not_mem_nil (Pack.mem_map_source_of_mem_bridged hgiven)
  · intro u hu n hn
    rcases List.mem_map.1 hu with ⟨i, -, rfl⟩
    rcases leadsTo?_part hc hn with ⟨m, hm, hid, hleads⟩
    refine ⟨m, hm, hid, ?_⟩
    rw [hleads, leadsTo?_withBridge, hid]
    rfl

/-! ### Edges between units -/

namespace Pack.IsCut

variable {q : Pack} {c : Diagram} {unit : Text → Nat} {p : LabelPolicy}

/-- A node of a unit fell into that unit. -/
theorem unit_eq (h : q.IsCut c unit) {u : Piece} (hu : u ∈ q.pieces) {n : Node}
    (hn : n ∈ u.diagram.nodes) : c.hasNode n.id = true ∧ unit n.id = u.index := by
  have hmem : u.diagram.hasNode n.id = true :=
    Diagram.hasNode_iff.2 (List.mem_map_of_mem hn)
  rwa [h.nodes u hu, Bool.and_eq_true, decide_eq_true_eq] at hmem

/-- Every node is in the unit that it fell into. -/
theorem exists_getElem? (h : q.IsCut c unit) {t : Text} (ht : c.hasNode t = true) :
    ∃ v, q.pieces[unit t]? = some v ∧ v.diagram.hasNode t = true := by
  have hlt := h.unit_lt t ht
  refine ⟨q.pieces[unit t], List.getElem?_eq_getElem hlt, ?_⟩
  rw [h.nodes _ (List.getElem_mem hlt), ht, h.index_getElem _ hlt, decide_eq_true rfl,
    Bool.and_self]

/-- The first edge between units that leaves a node of a unit leads to another unit,
    which has its other end. -/
theorem exit?_spec (h : q.IsCut c unit) (hc : c.IsCanonical p) {u : Piece} (hu : u ∈ q.pieces)
    {n : Node} (hn : n ∈ u.diagram.nodes) {x : CrossEdge} (hx : q.exit? n.id = some x) :
    x.toDiagram ≠ u.index ∧
      ∃ v, q.pieces[x.toDiagram]? = some v ∧ v.diagram.hasNode x.target = true := by
  have hsource := List.find?_some hx
  rw [decide_eq_true_eq] at hsource
  have hmem := List.mem_of_find?_eq_some hx
  rw [h.cross, List.mem_map] at hmem
  rcases hmem with ⟨e, he, rfl⟩
  rw [List.mem_filter, decide_eq_true_eq] at he
  refine ⟨fun heq => he.2 ?_, h.exists_getElem? (hc.edges e he.1).target.2⟩
  calc unit e.source = unit n.id := congrArg unit hsource
    _ = u.index := (h.unit_eq hu hn).2
    _ = unit e.target := heq.symm

/-- A node that gets a bridge is one of the diagram. -/
theorem hasNode_of_mem_bridged (h : q.IsCut c unit) (hc : c.IsCanonical p) {t : Text}
    (ht : t ∈ q.bridged) : c.hasNode t = true := by
  have hmem := mem_map_source_of_mem_bridged ht
  rw [h.cross, List.map_map, List.mem_map] at hmem
  rcases hmem with ⟨e, he, rfl⟩
  exact (hc.edges e (List.mem_of_mem_filter he)).source.2

end Pack.IsCut

theorem limits_split (o : Options) (p : LabelPolicy) (d : Diagram) :
    (split o p d).limits = o.limits := by
  unfold split
  dsimp only
  split <;> rfl

/-! ### Diagrams without bridges of their own -/

namespace Pack

theorem nodup_bridged (q : Pack) : q.bridged.Nodup :=
  (nodup_firsts_id _).sublist (List.take_sublist _ _)

theorem length_bridged_le (q : Pack) : q.bridged.length ≤ q.limits.maxBridges :=
  List.length_take_le _ _

/-- If the nodes that get a bridge are those that have one, then there are as many
    bridges. -/
theorem Divides.countP_bridge {q : Pack} {c : Diagram} {most : Nat} {p : LabelPolicy}
    (h : q.Divides c most) (hc : c.IsCanonical p)
    (hbridge : ∀ u ∈ q.pieces, ∀ n ∈ u.diagram.nodes, n.bridge.isSome = true ↔ n.id ∈ q.bridged) :
    (q.pieces.flatMap (·.diagram.nodes)).countP (·.bridge.isSome) = q.bridged.length := by
  have hids : (q.pieces.flatMap (·.diagram.nodes)).map Node.id = c.nodes.map Node.id := by
    rw [List.map_flatMap]
    exact h.order
  refine countP_eq_length_of_nodup (hids ▸ hc.ids) q.nodup_bridged (fun t ht => ?_)
    fun n hn => ?_
  · -- A node that gets a bridge is one of the diagram, and so it is in some unit.
    rw [hids]
    exact Diagram.hasNode_iff.1 (h.toIsCut.hasNode_of_mem_bridged hc ht)
  · rcases List.mem_flatMap.1 hn with ⟨u, hu, hmem⟩
    exact hbridge u hu n hmem

end Pack

/-- Canonical form adds no bridge. -/
theorem leadsTo?_canonical_eq_none {p : LabelPolicy} {d : Diagram}
    (h : ∀ n ∈ d.nodes, n.bridge = none) {m : Node} (hm : m ∈ (d.canonical p).nodes) :
    m.leadsTo? = none := by
  rcases Diagram.exists_of_mem_nodes_canonical hm with ⟨n, hn, rfl⟩
  rw [Node.leadsTo?_canonical, Node.leadsTo?, h n hn, Option.map_none]

/-- In the pack of a diagram that came without bridges, the nodes with a bridge are the
    first that edges between units leave, as many as there are bridges to give. Each
    bridge leads where the first edge does that leaves its node, to another unit that
    has the other end of this edge. -/
theorem bridges_split (o : Options) (p : LabelPolicy) {d : Diagram}
    (h : ∀ n ∈ d.nodes, n.bridge = none) :
    (∀ u ∈ (split o p d).pieces, ∀ n ∈ u.diagram.nodes,
      (n.bridge.isSome = true ↔ n.id ∈ (split o p d).bridged) ∧
      ∀ i ∈ n.leadsTo?, ∃ x, (split o p d).exit? n.id = some x ∧ i = x.toDiagram ∧
        i ≠ u.index ∧
        ∃ v, (split o p d).pieces[i]? = some v ∧ v.diagram.hasNode x.target = true) ∧
    ((split o p d).pieces.flatMap (·.diagram.nodes)).countP (·.bridge.isSome)
      = (split o p d).bridged.length ∧
    (split o p d).bridged.length ≤ o.limits.maxBridges := by
  have hc := Diagram.isCanonical_canonical p d
  have hdivides := divides_split o p d
  -- Where no bridge was brought along, only those that were given are left.
  have hleads : ∀ u ∈ (split o p d).pieces, ∀ n ∈ u.diagram.nodes, n.leadsTo? =
      if n.id ∈ (split o p d).bridged then
        ((split o p d).exit? n.id).map CrossEdge.toDiagram
      else none := by
    intro u hu n hn
    rcases leadsTo?_split o p d u hu n hn with ⟨m, hm, -, heq⟩
    rw [heq, leadsTo?_canonical_eq_none h hm]
  have hbridge : ∀ u ∈ (split o p d).pieces, ∀ n ∈ u.diagram.nodes,
      n.bridge.isSome = true ↔ n.id ∈ (split o p d).bridged := by
    intro u hu n hn
    rw [← Node.isSome_leadsTo?, hleads u hu n hn]
    by_cases hgiven : n.id ∈ (split o p d).bridged
    · rcases Pack.exists_exit? hgiven with ⟨x, hx⟩
      rw [if_pos hgiven, hx]
      exact iff_of_true rfl hgiven
    · rw [if_neg hgiven]
      exact iff_of_false (by decide) hgiven
  refine ⟨fun u hu n hn => ⟨hbridge u hu n hn, fun i hi => ?_⟩, hdivides.countP_bridge hc hbridge,
    limits_split o p d ▸ Pack.length_bridged_le _⟩
  rw [hleads u hu n hn] at hi
  split at hi
  · rcases Option.mem_map.1 hi with ⟨x, hx, rfl⟩
    exact ⟨x, hx, rfl, hdivides.toIsCut.exit?_spec hc hu hn hx⟩
  · exact absurd hi (Option.not_mem_none i)

/-- Three nodes in a row. -/
def row : Diagram :=
  { nodes := [{ id := "a".toList }, { id := "b".toList }, { id := "c".toList }]
    edges := [⟨"a".toList, "b".toList, none, none, []⟩, ⟨"b".toList, "c".toList, none, none, []⟩] }

/-- Three units and one bridge to give. -/
def sparing : Options := { Options.byCount 3 with limits := { maxBridges := 1 } }

/-- Two nodes are left by an edge between units, and the first of them gets the
    bridge. -/
theorem bridges_split_row :
    (∀ n ∈ row.nodes, n.bridge = none) ∧
      (∀ u ∈ (split sparing .strict row).pieces, ∀ n ∈ u.diagram.nodes,
        n.bridge.isSome = true ↔ n.id = "a".toList) ∧
      ((split sparing .strict row).pieces.flatMap (·.diagram.nodes)).countP (·.bridge.isSome)
        = 1 := by
  have h : ∀ n ∈ row.nodes, n.bridge = none := by decide +kernel
  -- The nodes come in their order, so sorting them does nothing.
  have hbase := Diagram.canonical_eq_of_pairwise (p := .strict) (d := row) (by decide +kernel)
  have hbridged : (split sparing .strict row).bridged = ["a".toList] := by
    unfold split
    rw [hbase]
    decide +kernel
  rcases bridges_split sparing .strict h with ⟨hnodes, hcount, -⟩
  rw [hbridged] at hcount
  refine ⟨h, fun u hu n hn => ?_, hcount⟩
  rw [(hnodes u hu n hn).1, hbridged, List.mem_singleton]

/-! ### Bridges that a diagram came with -/

/-- Every bridge of a pack leads from the unit of its node to another unit of the
    pack. -/
def Pack.LeadsAway (q : Pack) : Prop :=
  ∀ u ∈ q.pieces, ∀ n ∈ u.diagram.nodes, ∀ i ∈ n.leadsTo?, i < q.pieces.length ∧ i ≠ u.index

instance (q : Pack) : Decidable q.LeadsAway :=
  inferInstanceAs (Decidable (∀ u ∈ q.pieces, ∀ n ∈ u.diagram.nodes, ∀ i ∈ n.leadsTo?,
    i < q.pieces.length ∧ i ≠ u.index))

/-- All bridges of the pack of a diagram lead from one unit to another exactly if those
    do that the diagram came with, on nodes that are not given another. -/
theorem leadsAway_split_iff (o : Options) (p : LabelPolicy) (d : Diagram) :
    (split o p d).LeadsAway ↔
      ∀ m ∈ (d.canonical p).nodes, m.id ∉ (split o p d).bridged → ∀ i ∈ m.leadsTo?,
        i < (split o p d).pieces.length ∧ i ≠ (split o p d).home m.id := by
  have hc := Diagram.isCanonical_canonical p d
  have hcut := (divides_split o p d).toIsCut
  constructor
  · intro h m hm hkept i hi
    have hnode : (d.canonical p).hasNode m.id = true :=
      Diagram.hasNode_iff.2 (List.mem_map_of_mem hm)
    -- The node is found in its home, as it came.
    rcases hcut.exists_getElem? hnode with ⟨v, hv, hmem⟩
    rcases List.mem_map.1 (Diagram.hasNode_iff.1 hmem) with ⟨n, hn, hid⟩
    have hv' := List.mem_of_getElem? hv
    rcases leadsTo?_split o p d v hv' n hn with ⟨m', hm', hid', heq⟩
    rw [hid, if_neg hkept, List.inj_on_of_nodup_map hc.ids hm' hm (hid'.trans hid)] at heq
    have haway := h v hv' n hn i (heq ▸ hi)
    rwa [← (hcut.unit_eq hv' hn).2, hid] at haway
  · intro h u hu n hn i hi
    rcases leadsTo?_split o p d u hu n hn with ⟨m, hm, hid, heq⟩
    rw [heq] at hi
    split at hi
    · rcases Option.mem_map.1 hi with ⟨x, hx, rfl⟩
      rcases hcut.exit?_spec hc hu hn hx with ⟨hne, v, hv, -⟩
      exact ⟨(List.getElem?_eq_some_iff.1 hv).1, hne⟩
    · rename_i hkept
      rw [← hid] at hkept
      rw [← (hcut.unit_eq hu hn).2, ← hid]
      exact h m hm hkept i hi

/-- A node that came with a bridge into a unit that is not there. -/
def stray : Diagram :=
  { nodes := [{ id := "a".toList, bridge := some ⟨7, "B".toList⟩ }] }

/-- Two nodes, the second of which came with a bridge into the unit it will be in. -/
def homebound : Diagram :=
  { nodes := [{ id := "a".toList }, { id := "b".toList, bridge := some ⟨1, "A".toList⟩ }]
    edges := [⟨"a".toList, "b".toList, none, none, []⟩] }

/-- A diagram that was read may come with a bridge that leads nowhere, and the only
    unit says so in print, or with one that leads back to its own unit. -/
theorem not_leadsAway_split :
    Diagram.parse? stray.print = .ok stray ∧ ¬ (split {} .strict stray).LeadsAway ∧
      (∀ u ∈ (split {} .strict stray).pieces,
        "%% bridge a -> diagram 7: B".toList ∈ Text.lines (u.diagram.text {})) ∧
      Diagram.parse? homebound.print = .ok homebound ∧
      ¬ (split (.byCount 2) .strict homebound).LeadsAway := by
  have hbase := Diagram.canonical_eq_of_pairwise (p := .strict) (d := homebound) (by decide +kernel)
  refine ⟨by decide +kernel, by decide +kernel, by decide +kernel, by decide +kernel, ?_⟩
  unfold split
  rw [hbase]
  decide +kernel

end Partition

end Flowchart
