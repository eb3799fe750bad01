import Flowchart.Proofs.Capacity

/-!
# The Number of Units

How many units a pack has, to the unit. A number of units is asked for, the nodes
are cut into runs of the length that this number calls for, and there are as many
units as runs of that length are needed. Both steps round up, and the second need
not undo the first: four nodes for three units make runs of two, and two such runs
are enough.

So a pack may have fewer units than were asked for. It has exactly as many if all
runs but one do not hold all the nodes. With the number of nodes divided by that of
units this is a condition on the quotient and the remainder. Without a remainder
there is no rounding. Otherwise each run is longer than the quotient by one. All
runs but the last take up one more for each of them then, and it depends on whether
quotient and remainder, which would be left for the last, outweigh that.

## Theorems

* `Partition.ceilDiv_ceilDiv_eq_iff`: When rounding up twice gives back the number
  that was divided by.
* `Partition.length_pieces_split`: How many units there are, whatever the options.
* `Partition.length_split_byCount_eq_iff`: When there are as many as were asked
  for.
-/

namespace Flowchart

namespace Partition

/-! ### Rounding up twice -/

theorem ceilDiv_pos {n r : Nat} (hr : 0 < r) (hn : 0 < n) : 0 < ceilDiv n r := by
  rw [lt_ceilDiv_iff hr, Nat.zero_mul]
  exact hn

/-- A quotient rounded up is the quotient, or one more if there is a remainder. -/
theorem ceilDiv_eq {n k : Nat} (hk : 0 < k) :
    ceilDiv n k = n / k + if n % k = 0 then 0 else 1 := by
  have hdivmod := Nat.div_add_mod n k
  have hmod := Nat.mod_lt n hk
  rw [ceilDiv, Nat.div_eq_iff hk, Nat.add_mul, Nat.mul_comm (n / k) k]
  split
  · omega
  · omega

/-- Rounded up twice, a number divided by its quotient by `k` is `k` again if there
    was nothing to round, or if the remainder makes up for it. -/
theorem ceilDiv_ceilDiv_eq_iff {n k : Nat} (hk : 0 < k) (hkn : k ≤ n) :
    ceilDiv n (ceilDiv n k) = k ↔ k ∣ n ∨ k ≤ n / k + n % k := by
  have hrun : 0 < ceilDiv n k := ceilDiv_pos hk (hk.trans_le hkn)
  have hle : ceilDiv n (ceilDiv n k) ≤ k := by
    refine ceilDiv_le hrun ?_
    rw [Nat.mul_comm]
    exact le_ceilDiv_mul hk
  -- There are no more than `k`, so all that is asked is whether the last one is needed.
  have hlast : ceilDiv n (ceilDiv n k) = k ↔ (k - 1) * ceilDiv n k < n := by
    rw [← lt_ceilDiv_iff hrun]
    omega
  have hdivmod : k * (n / k) + n % k = n := Nat.div_add_mod n k
  have hquotient : 0 < n / k := Nat.div_pos hkn hk
  have hpred : (k - 1) * (n / k) + n / k = k * (n / k) := by
    rw [← Nat.succ_mul, Nat.succ_eq_add_one, Nat.sub_add_cancel hk]
  rw [hlast, ceilDiv_eq hk, Nat.dvd_iff_mod_eq_zero]
  by_cases hmod : n % k = 0
  · rw [if_pos hmod, Nat.add_zero]
    exact iff_of_true (by omega) (Or.inl hmod)
  · rw [if_neg hmod, Nat.mul_add, Nat.mul_one, or_iff_right hmod]
    omega

/-! ### The units of a pack -/

/-- A pack has as many units as runs are needed, of the length that the number of
    units asked for calls for. A diagram without nodes counts as one of one node. -/
theorem length_pieces_split (o : Options) (p : LabelPolicy) (d : Diagram) :
    (split o p d).pieces.length =
      ceilDiv (max (d.canonical p).nodes.length 1)
        (ceilDiv (max (d.canonical p).nodes.length 1) (o.asked (d.canonical p))) := by
  have hasked := o.one_le_asked (d.canonical p)
  have hcap : o.asked (d.canonical p) ≤ max (d.canonical p).nodes.length 1 := Nat.min_le_right _ _
  unfold split
  dsimp only
  split
  · rename_i hone
    have heq : o.asked (d.canonical p) = 1 := Nat.le_antisymm hone hasked
    have hpos : 0 < max (d.canonical p).nodes.length 1 := Nat.le_max_right _ 1
    rw [heq, ceilDiv_eq Nat.zero_lt_one, Nat.div_one, Nat.mod_one, if_pos rfl, Nat.add_zero,
      ceilDiv_eq hpos, Nat.div_self hpos, Nat.mod_self, if_pos rfl]
    rfl
  · rename_i hseveral
    -- Several units are asked for only if there are several nodes.
    have hmany : 1 < o.asked (d.canonical p) := Nat.lt_of_not_le hseveral
    have hnodes : max (d.canonical p).nodes.length 1 = (d.canonical p).nodes.length := by omega
    have hrun : max (ceilDiv (d.canonical p).nodes.length (o.asked (d.canonical p))) 1
        = ceilDiv (d.canonical p).nodes.length (o.asked (d.canonical p)) :=
      Nat.max_eq_left (ceilDiv_pos hasked (by omega))
    have hasked' : min (o.parts (d.canonical p).nodes.length (d.canonical p).edges.length
        (d.canonical p).density) (max (d.canonical p).nodes.length 1) = o.asked (d.canonical p) :=
      rfl
    rw [hasked', hrun, List.length_map, List.length_range, hnodes]

/-- A number of units that is asked for outright is capped by the number of nodes
    alone. -/
theorem asked_byCount (limits : Limits) {c : Diagram} {k : Nat} (hk : 1 ≤ k)
    (hkn : k ≤ c.nodes.length) : (Options.mk .byCount limits (some k)).asked c = k := by
  have hparts : (Options.mk .byCount limits (some k)).parts c.nodes.length c.edges.length c.density
      = max k 1 := rfl
  rw [Options.asked, hparts]
  omega

/-- Asked for some number of units, and for no more than it has nodes, a diagram is
    split into exactly so many just if this number divides that of the nodes, or if
    quotient and remainder together are no less than it. -/
theorem length_split_byCount_eq_iff {limits : Limits} {p : LabelPolicy} {d : Diagram} {k : Nat}
    (hk : 1 ≤ k) (hkn : k ≤ (d.canonical p).nodes.length) :
    (split ⟨.byCount, limits, some k⟩ p d).pieces.length = k ↔
      k ∣ (d.canonical p).nodes.length ∨
        k ≤ (d.canonical p).nodes.length / k + (d.canonical p).nodes.length % k := by
  rw [length_pieces_split, asked_byCount limits hk hkn, Nat.max_eq_left (hk.trans hkn)]
  exact ceilDiv_ceilDiv_eq_iff hk hkn

/-- Some number of nodes, and no edges. -/
def loose (n : Nat) : Diagram :=
  { nodes := (List.range n).map fun i => { id := List.replicate (i + 1) 'a' } }

/-- Five nodes can be split into three units, since there are two runs of two and
    one that is shorter. -/
theorem length_split_byCount_loose_five :
    1 ≤ 3 ∧ 3 ≤ ((loose 5).canonical .strict).nodes.length ∧
      (split ⟨.byCount, {}, some 3⟩ .strict (loose 5)).pieces.length = 3 := by
  have hnodes : ((loose 5).canonical .strict).nodes.length = 5 := by
    rw [(Diagram.nodes_canonical_perm .strict _).length_eq]
    decide +kernel
  have hk : 1 ≤ 3 := by decide
  have hkn : 3 ≤ ((loose 5).canonical .strict).nodes.length := by
    rw [hnodes]
    decide
  refine ⟨hk, hkn, (length_split_byCount_eq_iff hk hkn).2 ?_⟩
  rw [hnodes]
  decide

/-- Four nodes cannot. Two runs of two hold them all. -/
theorem length_split_byCount_loose_four :
    ((loose 4).canonical .strict).nodes.length = 4 ∧
      (split (.byCount 3) .strict (loose 4)).pieces.length = 2 := by
  have hnodes : ((loose 4).canonical .strict).nodes.length = 4 := by
    rw [(Diagram.nodes_canonical_perm .strict _).length_eq]
    decide +kernel
  refine ⟨hnodes, ?_⟩
  rw [length_pieces_split, Options.byCount, asked_byCount _ (by decide) (by omega), hnodes]
  decide

end Partition

end Flowchart
