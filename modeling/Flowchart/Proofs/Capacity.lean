import Flowchart.Proofs.Division
import Mathlib.Algebra.Group.Action.Defs

/-!
# The Size of Units

How many nodes a unit may have. Nodes are cut into runs of the length that a
number of units calls for, rounded up, so no unit has more nodes than that.

If the number of units is found from the limits, then a unit was meant to have
no more nodes than the limit on nodes allows. The number is the largest of three
quotients, which is then held between one and six and capped by the number of
nodes. None of this makes it smaller than the nodes call for, as long as six
units are enough for them: the other quotients can only add units, the upper
bound is not reached, and with one unit for every node there is room for all of
them. Rounding up once more does no harm, since the limit is whole. If six units
are not enough, then some unit is larger than the limit.

## Main definitions

* `Partition.Options.asked`: The number of units that a diagram is to be split
  into.

## Theorems

* `Partition.length_nodes_split_le`: A unit is no longer than a run.
* `Partition.le_mul_asked`: The units that limits call for have room for all
  nodes.
* `Partition.length_nodes_le_maxNodes_iff`: When all units are within the limit.
-/

namespace Flowchart

namespace Partition

/-! ### Runs -/

namespace Options

/-- The number of units that a canonical diagram is to be split into: the number of
    parts, but no more than there are nodes. -/
def asked (o : Options) (c : Diagram) : Nat :=
  min (o.parts c.nodes.length c.edges.length c.density) (max c.nodes.length 1)

theorem one_le_asked (o : Options) (c : Diagram) : 1 ≤ o.asked c :=
  Nat.le_min.2 ⟨o.one_le_parts _ _ _, Nat.le_max_right _ 1⟩

end Options

/-- A unit has no more nodes than the number of units calls for. -/
theorem length_nodes_split_le (o : Options) (p : LabelPolicy) (d : Diagram) :
    ∀ u ∈ (split o p d).pieces, u.diagram.nodes.length ≤
      max (ceilDiv (d.canonical p).nodes.length (o.asked (d.canonical p))) 1 := by
  have hc := Diagram.isCanonical_canonical p d
  unfold split
  dsimp only
  split
  · rename_i hone
    -- One unit has all the nodes, which is what one unit calls for.
    have hasked : o.asked (d.canonical p) = 1 := Nat.le_antisymm hone (o.one_le_asked _)
    intro u hu
    rw [List.mem_singleton.1 hu, length_nodes_piece hc, hasked, ceilDiv, Nat.div_one]
    omega
  · intro u hu
    rcases List.mem_map.1 hu with ⟨i, -, rfl⟩
    rw [length_nodes_piece_part hc (Nat.le_max_right _ 1)]
    exact Nat.min_le_left _ _

/-! ### Limits -/

section Auto

variable (limits : Limits) (count : Option Nat)

/-- There are at most six parts if their number is found from the limits. -/
theorem parts_auto_le (nodes edges : Nat) (density : Binary64) :
    (Options.mk .auto limits count).parts nodes edges density ≤ 6 := by
  unfold Options.parts
  dsimp only
  split
  · exact Nat.min_le_right _ _
  · decide

variable {limits count}

/-- If six parts of the largest size that is allowed have room for all nodes, then so
    have the parts that the limits call for. -/
theorem le_parts_mul {nodes edges : Nat} {density : Binary64}
    (h : ceilDiv nodes (max limits.maxNodes 1) ≤ 6) :
    nodes ≤ (Options.mk .auto limits count).parts nodes edges density
      * max limits.maxNodes 1 := by
  unfold Options.parts
  dsimp only
  split
  · refine (le_ceilDiv_mul (Nat.le_max_right _ 1)).trans
      (Nat.mul_le_mul_right _ (Nat.le_min.2 ⟨?_, h⟩))
    -- What the nodes call for is one of the three quotients.
    exact (Nat.le_max_left _ _).trans ((Nat.le_max_left _ _).trans (Nat.le_max_right 1 _))
  · -- If no limit is passed, then one part has room.
    rename_i hover
    rw [Options.isOver, Bool.or_eq_true, Bool.or_eq_true, decide_eq_true_eq, not_or, not_or] at hover
    have hwithin : nodes ≤ limits.maxNodes := Nat.le_of_not_lt hover.1.1
    omega

/-- So have the units that are asked for, even if they are no more than the nodes. -/
theorem le_mul_asked {c : Diagram}
    (h : ceilDiv c.nodes.length (max limits.maxNodes 1) ≤ 6) :
    c.nodes.length ≤ max limits.maxNodes 1 * (Options.mk .auto limits count).asked c := by
  have hparts : c.nodes.length ≤ (Options.mk .auto limits count).parts c.nodes.length
      c.edges.length c.density * max limits.maxNodes 1 := le_parts_mul h
  unfold Options.asked
  rcases Nat.le_total ((Options.mk .auto limits count).parts c.nodes.length c.edges.length
      c.density) (max c.nodes.length 1) with hle | hle
  · rwa [Nat.min_eq_left hle, Nat.mul_comm]
  · rw [Nat.min_eq_right hle]
    have hone : max c.nodes.length 1 ≤ max limits.maxNodes 1 * max c.nodes.length 1 :=
      Nat.le_mul_of_pos_left _ (Nat.le_max_right _ 1)
    omega

end Auto

/-- Units that all keep to a size have no more nodes together than their number
    allows. -/
theorem Pack.Divides.length_nodes_le {q : Pack} {c : Diagram} {most size : Nat}
    (h : q.Divides c most) (hsize : ∀ u ∈ q.pieces, u.diagram.nodes.length ≤ size) :
    c.nodes.length ≤ most * size := by
  rw [← List.length_map Node.id, ← h.order, List.length_flatMap]
  refine (List.sum_le_card_nsmul _ size fun k hk => ?_).trans ?_
  · rcases List.mem_map.1 hk with ⟨u, hu, rfl⟩
    rw [List.length_map]
    exact hsize u hu
  · rw [List.length_map, smul_eq_mul]
    exact Nat.mul_le_mul_right _ h.few

/-- If the number of units is found from the limits, then no unit has more nodes than
    the limit allows, or one if it allows none, exactly if six units are enough for
    that. Neither the edges nor the density matter. -/
theorem length_nodes_le_maxNodes_iff (limits : Limits) (count : Option Nat) (p : LabelPolicy)
    (d : Diagram) :
    (∀ u ∈ (split ⟨.auto, limits, count⟩ p d).pieces,
      u.diagram.nodes.length ≤ max limits.maxNodes 1) ↔
    ceilDiv (d.canonical p).nodes.length (max limits.maxNodes 1) ≤ 6 := by
  constructor
  · intro h
    have hall := (divides_split ⟨.auto, limits, count⟩ p d).length_nodes_le h
    refine ceilDiv_le (Nat.le_max_right _ 1) (hall.trans (Nat.mul_le_mul_right _ ?_))
    exact (Nat.min_le_left _ _).trans (parts_auto_le limits count _ _ _)
  · intro h u hu
    refine (length_nodes_split_le _ p d u hu).trans (Nat.max_le.2 ⟨?_, Nat.le_max_right _ 1⟩)
    exact ceilDiv_le (Options.one_le_asked _ _) (le_mul_asked h)

end Partition

end Flowchart
