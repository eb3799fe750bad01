import Flowchart.Proofs.Blocks
import Flowchart.Proofs.Structure
import Mathlib.Logic.Function.Iterate

/-!
# Repairs Come to an End

With all three repairs allowed, the first that changes the diagram is taken, then
the first that changes the result, and so on. That this ends is not plain, since
the repairs undo each other's work: the arity repair adds nodes and the block
repair changes nodes, and what they leave is cleaned anew.

The first repair leaves a canonical diagram, whichever it is. From there on the
arity repair has nothing to do, since a canonical diagram has no missing ends and
no unknown members, and ending in canonical form it does no more than the token
repair, which is tried before it. The token repair is taken while the diagram is
not settled, and that is at most twice. On a settled diagram only the block
repair is left. It keeps the diagram settled and takes away one block each time,
so it is taken as often as there are blocks.

A repeated diagram would be repaired in the same way again, so there is none on
the way to the end.

## Main definitions

* `RepairKind.mend`: A diagram after one more repair.
* `RepairKind.EndsWithin`: Some number of repairs is enough.

## Theorems

* `Diagram.IsCanonical.agrees_iff`: Canonical diagrams agree only if they are the
  same.
* `Diagram.IsCanonical.fixArity_eq`: The arity repair of a canonical diagram is
  the token repair.
* `Diagram.IsCanonical.repair?_of_not_isSettled`,
  `Diagram.IsCanonical.repair?_of_isSettled`: Which repair is next.
* `RepairKind.exists_iterate_mend_repair?_eq_none`: Mending ends, and comes by no
  diagram twice before.
-/

namespace Flowchart

/-- A normalized weight is not the negative zero. -/
theorem Binary64.unsignedZero_normalized (x : Binary64) :
    x.normalized.unsignedZero = x.normalized := by
  unfold unsignedZero normalized
  split
  · rename_i h
    rw [Bool.and_eq_true, Bool.not_eq_true'] at h
    rw [if_neg (Bool.not_eq_true _ ▸ h.2)]
  · rfl

namespace Diagram

/-! ### Repairs of a canonical diagram -/

variable {d e : Diagram}

theorem IsCanonical.unsignedZeros_eq {p : LabelPolicy} (h : d.IsCanonical p) :
    d.unsignedZeros = d := by
  have hnodes : d.nodes.map (fun n => { n with weight := n.weight.unsignedZero }) = d.nodes := by
    refine map_eq_self_iff.2 fun n hn => ?_
    have hweight : n.weight.unsignedZero = n.weight := by
      rw [← (h.nodes n hn).weight, Binary64.unsignedZero_normalized]
    rw [hweight]
  rw [unsignedZeros, hnodes]

/-- Canonical diagrams agree only if they are the same. -/
theorem IsCanonical.agrees_iff {p q : LabelPolicy} (hd : d.IsCanonical p) (he : e.IsCanonical q) :
    d.agrees e = true ↔ d = e := by
  rw [agrees, hd.unsignedZeros_eq, he.unsignedZeros_eq, decide_eq_true_iff]

/-- A canonical diagram has no missing ends and no unknown members, so the arity
    repair finds nothing to do before it cleans. -/
theorem IsCanonical.fixArity_eq (h : d.IsCanonical .strict) : d.fixArity = d.fixTokens := by
  have hmembers : ∀ s ∈ d.subgraphs, s.members.filter d.hasNode = s.members := fun s hs =>
    List.filter_eq_self.2 fun m hm => ((h.subgraphs s hs).members m hm).2
  have hsubgraphs : d.subgraphs.map (fun s => { s with members := s.members.filter d.hasNode })
      = d.subgraphs := map_eq_self_iff.2 fun s hs => by rw [hmembers s hs]
  rw [fixArity, h.missingEnds_eq, List.map_nil, List.append_nil]
  exact congrArg (fun l => canonical .strict { d with subgraphs := l }) hsubgraphs

/-- The repairs in turn. -/
theorem repair?_order (d : Diagram) :
    RepairKind.repair? RepairKind.order d =
      if d.fixTokens.agrees d then
        if d.fixArity.agrees d then
          if d.fixBlocks.agrees d then none else some (.block, d.fixBlocks)
        else some (.arity, d.fixArity)
      else some (.token, d.fixTokens) := by
  have hlist : RepairKind.repair? RepairKind.order d =
      [(RepairKind.token, d.fixTokens), (.arity, d.fixArity), (.block, d.fixBlocks)].find?
        fun x => !x.2.agrees d := rfl
  rw [hlist, List.find?_cons, List.find?_cons, List.find?_cons, List.find?_nil]
  cases d.fixTokens.agrees d <;> cases d.fixArity.agrees d <;> cases d.fixBlocks.agrees d <;> rfl

/-- As long as a canonical diagram is not settled, the token repair is next. -/
theorem IsCanonical.repair?_of_not_isSettled (h : d.IsCanonical .strict)
    (hsettled : ¬ d.IsSettled .strict) :
    RepairKind.repair? RepairKind.order d = some (.token, d.canonical .strict) := by
  have hagrees : ¬ d.fixTokens.agrees d = true := fun hagrees =>
    hsettled (((isCanonical_canonical .strict d).agrees_iff h).1 hagrees)
  rw [repair?_order, if_neg hagrees]
  rfl

/-- Once it is settled, the block repair is next, if there is a block. -/
theorem IsCanonical.repair?_of_isSettled (h : d.IsCanonical .strict)
    (hsettled : d.IsSettled .strict) :
    RepairKind.repair? RepairKind.order d =
      if d.blockCount = 0 then none else some (.block, d.withoutBlock) := by
  have hsame : d.agrees d = true := (h.agrees_iff h).2 rfl
  have htoken : d.fixTokens = d := hsettled
  -- The first two repairs leave a settled diagram as it is, and so they are passed
  -- over.
  rw [repair?_order, h.fixArity_eq, htoken, if_pos hsame, if_pos hsame, h.fixBlocks_eq hsettled]
  by_cases hblocks : d.blockCount = 0
  · rw [if_pos hblocks, withoutBlock_of_blockCount_eq_zero hblocks, if_pos hsame]
  · -- Without its smallest block it is another diagram, having fewer of them.
    have hless := blockCount_withoutBlock (Nat.pos_of_ne_zero hblocks)
    have hagrees : ¬ d.withoutBlock.agrees d = true := by
      intro hagrees
      have heq := congrArg blockCount ((h.withoutBlock.agrees_iff h).1 hagrees)
      omega
    rw [if_neg hblocks, if_neg hagrees]

end Diagram

namespace RepairKind

/-! ### One repair after another -/

/-- A diagram after the first repair that changes it, or as it is if there is
    none. -/
def mend (d : Diagram) : Diagram := ((repair? order d).map Prod.snd).getD d

variable {d e : Diagram} {k : RepairKind} {n : Nat}

theorem mend_of_repair? (h : repair? order d = some (k, e)) : mend d = e := by
  rw [mend, h]
  rfl

theorem iterate_mend_of_repair?_eq_none (h : repair? order d = none) (n : Nat) :
    mend^[n] d = d := by
  refine Function.iterate_fixed ?_ n
  rw [mend, h]
  rfl

/-- After no more than some number of repairs there is none left to take. -/
def EndsWithin (n : Nat) (d : Diagram) : Prop := ∃ m ≤ n, repair? order (mend^[m] d) = none

theorem endsWithin_zero (h : repair? order d = none) : EndsWithin 0 d := ⟨0, Nat.le_refl 0, h⟩

theorem EndsWithin.mono {m : Nat} (h : EndsWithin m d) (hmn : m ≤ n) : EndsWithin n d := by
  rcases h with ⟨i, hi, hend⟩
  exact ⟨i, hi.trans hmn, hend⟩

/-- A repair now and some afterwards. -/
theorem EndsWithin.of_repair? (hrepair : repair? order d = some (k, e)) (h : EndsWithin n e) :
    EndsWithin (n + 1) d := by
  rcases h with ⟨m, hm, hend⟩
  refine ⟨m + 1, Nat.succ_le_succ hm, ?_⟩
  rwa [Function.iterate_succ_apply, mend_of_repair? hrepair]

/-- A settled diagram loses its blocks one by one. -/
theorem endsWithin_of_isSettled (h : d.IsCanonical .strict) (hsettled : d.IsSettled .strict) :
    EndsWithin d.blockCount d := by
  induction hblocks : d.blockCount generalizing d with
  | zero =>
    refine endsWithin_zero ?_
    rw [h.repair?_of_isSettled hsettled, if_pos hblocks]
  | succ n ih =>
    have hne : d.blockCount ≠ 0 := by
      rw [hblocks]
      exact Nat.succ_ne_zero n
    -- The repaired diagram has one block less and is settled like this one.
    have hless := Diagram.blockCount_withoutBlock (Nat.pos_of_ne_zero hne)
    have hrepair := h.repair?_of_isSettled hsettled
    rw [if_neg hne] at hrepair
    exact .of_repair? hrepair (ih h.withoutBlock (h.isSettled_withoutBlock hsettled) (by omega))

/-- A canonical diagram is cleaned first, unless it is settled already. -/
theorem endsWithin_of_endsWithin_canonical (h : d.IsCanonical .strict)
    (hrest : EndsWithin (d.blockCount + n) (d.canonical .strict)) :
    EndsWithin (d.blockCount + (n + 1)) d := by
  by_cases hsettled : d.IsSettled .strict
  · exact (endsWithin_of_isSettled h hsettled).mono (Nat.le_add_right _ _)
  · exact .of_repair? (h.repair?_of_not_isSettled hsettled) hrest

/-- And that happens twice at most. -/
theorem endsWithin_of_isCanonical (h : d.IsCanonical .strict) :
    EndsWithin (d.blockCount + 2) d := by
  have honce := Diagram.isCanonical_canonical .strict d
  have htwice := Diagram.isCanonical_canonical .strict (d.canonical .strict)
  have hblocks := Diagram.blockCount_canonical_le .strict d
  have hfewer := Diagram.blockCount_canonical_le .strict (d.canonical .strict)
  refine endsWithin_of_endsWithin_canonical h ?_
  refine (endsWithin_of_endsWithin_canonical (n := 0) honce ?_).mono (by omega)
  exact (endsWithin_of_isSettled htwice h.isSettled_canonical_canonical).mono hfewer

/-- Whatever repair is taken first, it leaves a canonical diagram with no more
    blocks. -/
theorem endsWithin (d : Diagram) : EndsWithin (d.blockCount + 3) d := by
  rcases hrepair : repair? order d with _ | ⟨k, e⟩
  · exact (endsWithin_zero hrepair).mono (Nat.zero_le _)
  · have heq : e = k.apply d := eq_apply_of_mem (List.mem_of_find?_eq_some hrepair)
    subst heq
    have hblocks := k.blockCount_apply_le d
    exact .of_repair? hrepair ((endsWithin_of_isCanonical (k.isCanonical_apply d)).mono (by omega))

/-- A diagram that comes back has no repair. -/
theorem repair?_eq_none_of_iterate_mend_eq (hn : 0 < n) (h : mend^[n] d = d) :
    repair? order d = none := by
  rcases endsWithin d with ⟨m, -, hend⟩
  -- Going round as often as there are repairs to the end, the end is passed.
  have hround : mend^[n * m] d = d := by
    rw [Function.iterate_mul, Function.iterate_fixed h]
  have hpast : mend^[n * m] d = mend^[m] d := by
    rw [← Nat.sub_add_cancel (Nat.le_mul_of_pos_left m hn), Function.iterate_add_apply,
      iterate_mend_of_repair?_eq_none hend]
  rwa [← hpast, hround] at hend

/-- With all three repairs allowed, taking the first that changes the diagram again
    and again ends: at the latest when there have been three more repairs than the
    diagram has blocks, none of them changes it any more. Until then no diagram
    comes up twice. -/
theorem exists_iterate_mend_repair?_eq_none (d : Diagram) :
    (∃ n ≤ d.blockCount + 3, repair? order (mend^[n] d) = none) ∧
      ∀ m n, m < n → mend^[m] d = mend^[n] d → repair? order (mend^[m] d) = none := by
  refine ⟨endsWithin d, fun m n hmn heq => ?_⟩
  refine repair?_eq_none_of_iterate_mend_eq (Nat.sub_pos_of_lt hmn) ?_
  rw [← Function.iterate_add_apply, Nat.sub_add_cancel hmn.le, heq]

/-- So many may be needed: a node that takes three passes to settle and is in a
    group is repaired four times. -/
example :
    (repair? order (mend (mend (mend { nodes :=
      [{ id := Diagram.longId, label := "&am<p;".toList, group := some "g".toList }] })))).map
        Prod.fst = some .block := by
  decide +kernel

end RepairKind

end Flowchart
