import Flowchart.Proofs.Blocks
import Mathlib.Logic.Function.Iterate

/-!
# Diagrams Taken Apart

What the block repair does to a settled diagram when it is repeated. `Blocks` says
that each time one block goes and all else stays. Which block that is has been left
open there, and is settled here: among subgraphs the one with the fewest members, and
if there are no subgraphs left, the group with the fewest nodes. Titles and names
decide between blocks of one size, and of subgraphs that agree in title too the first
one goes.

Both choices are made by one search, `firstLeast`, which goes through a list from the
end and prefers what comes earlier unless it is larger. So the item that it finds
splits the list into items before it that are all larger, and items after it none of
which is smaller. That holds for any order that is transitive and total, and
comparing sizes first and names second is one.

A settled diagram stays settled without its smallest block, so the same can be said
of every step of the repetition. With as many steps as there are blocks none is left,
and then nothing changes any more.

## Main definitions

* `Smaller`: Sizes are compared first, then names.
* `Diagram.groupSize`: The number of nodes in a group.
* `Diagram.LosesSmallest`: The smallest block of a diagram is gone, and nothing
  else.

## Theorems

* `Diagram.firstLeast_split`: What the search for the smallest finds.
* `Diagram.losesSmallest_withoutBlock`: Which block is taken away.
* `Diagram.IsCanonical.iterate_fixBlocks`: What holds of every step.
* `Diagram.dismantled_iterate_fixBlocks`: A settled diagram loses its blocks one by
  one, the smallest first, and nothing else.
-/

namespace Flowchart

/-! ### Size and name -/

/-- One thing is smaller than another, or of the same size with a lesser name. -/
def Smaller (a b : Nat × Text) : Prop := a.1 < b.1 ∨ a.1 = b.1 ∧ a.2 < b.2

/-- One thing is not larger than another. -/
def sizeUpTo (a b : Nat × Text) : Bool := a.1 < b.1 || (a.1 == b.1 && Text.upTo a.2 b.2)

theorem sizeUpTo_iff {a b : Nat × Text} :
    sizeUpTo a b = true ↔ a.1 < b.1 ∨ a.1 = b.1 ∧ Text.upTo a.2 b.2 = true := by
  rw [sizeUpTo, Bool.or_eq_true, Bool.and_eq_true, decide_eq_true_eq, beq_iff_eq]

theorem sizeUpTo_eq_false_iff {a b : Nat × Text} : sizeUpTo a b = false ↔ Smaller b a := by
  have hup : ¬ Text.upTo a.2 b.2 = true ↔ b.2 < a.2 := by
    rw [Text.upTo, Bool.not_eq_true', decide_eq_false_iff_not, not_not]
  rw [← Bool.not_eq_true, sizeUpTo_iff, not_or, not_and, hup, Smaller]
  rcases Nat.lt_trichotomy a.1 b.1 with h | h | h
  · exact iff_of_false (fun hnot => hnot.1 h) (by omega)
  · rw [h, or_iff_right (Nat.lt_irrefl _), and_iff_right (Nat.lt_irrefl _), and_iff_right rfl]
    exact ⟨fun hlt => hlt rfl, fun hlt _ => hlt⟩
  · exact iff_of_true ⟨by omega, fun heq => by omega⟩ (Or.inl h)

theorem sizeUpTo_trans {a b c : Nat × Text} (hab : sizeUpTo a b = true)
    (hbc : sizeUpTo b c = true) : sizeUpTo a c = true := by
  rw [sizeUpTo_iff] at hab hbc ⊢
  rcases hab with hab | ⟨hab, hname⟩
  · exact Or.inl (by omega)
  · rcases hbc with hbc | ⟨hbc, hname'⟩
    · exact Or.inl (by omega)
    · exact Or.inr ⟨hab.trans hbc, Text.upTo_trans hname hname'⟩

theorem sizeUpTo_total (a b : Nat × Text) : sizeUpTo a b = true ∨ sizeUpTo b a = true := by
  rw [sizeUpTo_iff, sizeUpTo_iff]
  rcases Nat.lt_trichotomy a.1 b.1 with h | h | h
  · exact Or.inl (Or.inl h)
  · rcases Text.upTo_total a.2 b.2 with hname | hname
    · exact Or.inl (Or.inr ⟨h, hname⟩)
    · exact Or.inr (Or.inr ⟨h.symm, hname⟩)
  · exact Or.inr (Or.inl h)

/-- Of two things with different names one is the smaller. -/
theorem smaller_or_of_ne {m n : Nat} {s t : Text} (h : s ≠ t) :
    Smaller (m, s) (n, t) ∨ Smaller (n, t) (m, s) := by
  rcases Nat.lt_trichotomy m n with hsize | rfl | hsize
  · exact Or.inl (Or.inl hsize)
  · rcases Text.upTo_total s t with hname | hname
    · exact Or.inl (Or.inr ⟨rfl, (Text.upTo_iff.1 hname).resolve_right h⟩)
    · exact Or.inr (Or.inr ⟨rfl, (Text.upTo_iff.1 hname).resolve_right h.symm⟩)
  · exact Or.inr (Or.inl hsize)

namespace Diagram

/-! ### The search for the smallest -/

/-- The search finds an item that all before it are larger than, and that none after
    it is smaller than. -/
theorem firstLeast_split {α : Type} {le : α → α → Bool}
    (htrans : ∀ a b c, le a b = true → le b c = true → le a c = true)
    (htotal : ∀ a b, le a b = true ∨ le b a = true) {l : List α} {a : α}
    (h : firstLeast le l = some a) :
    ∃ before after, l = before ++ a :: after ∧ (∀ b ∈ before, le b a = false) ∧
      ∀ b ∈ after, le a b = true := by
  induction l generalizing a with
  | nil => nomatch h
  | cons b l ih =>
    rw [firstLeast] at h
    split at h
    · rename_i hnone
      rw [firstLeast_eq_none_iff.1 hnone, ← Option.some.inj h]
      exact ⟨[], [], rfl, List.forall_mem_nil _, List.forall_mem_nil _⟩
    · rename_i c hc
      rcases ih hc with ⟨before, after, rfl, hbefore, hafter⟩
      split at h
      · -- The first item is no larger than the smallest of the others.
        rename_i hbc
        rw [← Option.some.inj h]
        refine ⟨[], before ++ c :: after, rfl, List.forall_mem_nil _, fun d hd => ?_⟩
        rcases List.mem_append.1 hd with hd | hd
        · have hcd : le c d = true := (htotal c d).resolve_right (by simp [hbefore d hd])
          exact htrans b c d hbc hcd
        · rcases List.mem_cons.1 hd with rfl | hd
          · exact hbc
          · exact htrans b c d hbc (hafter d hd)
      · rename_i hbc
        rw [← Option.some.inj h]
        refine ⟨b :: before, after, rfl, List.forall_mem_cons.2 ⟨?_, hbefore⟩, hafter⟩
        rwa [Bool.not_eq_true] at hbc

/-- The same of a search by size and name. -/
theorem firstLeast_sizeUpTo {α : Type} (key : α → Nat × Text) {l : List α} {a : α}
    (h : firstLeast (fun a b => sizeUpTo (key a) (key b)) l = some a) :
    ∃ before after, l = before ++ a :: after ∧ (∀ b ∈ before, Smaller (key a) (key b)) ∧
      ∀ b ∈ after, ¬ Smaller (key b) (key a) := by
  rcases firstLeast_split (fun a b c => sizeUpTo_trans (a := key a) (b := key b) (c := key c))
    (fun a b => sizeUpTo_total (key a) (key b)) h with ⟨before, after, hsplit, hbefore, hafter⟩
  refine ⟨before, after, hsplit, fun b hb => sizeUpTo_eq_false_iff.1 (hbefore b hb),
    fun b hb => ?_⟩
  rw [← sizeUpTo_eq_false_iff, hafter b hb, Bool.true_eq_false]
  exact not_false

/-! ### The smallest block -/

/-- The number of nodes in a group. -/
def groupSize (d : Diagram) (g : Text) : Nat := d.nodes.countP (·.group = some g)

/-- The smallest block of a diagram is gone, and nothing else has changed. -/
inductive LosesSmallest (d : Diagram) : Diagram → Prop
  /-- One of the subgraphs is taken out. Those before it are larger, and none after it
      is smaller. -/
  | subgraph {before after : List Subgraph} {s : Subgraph}
      (split : d.subgraphs = before ++ s :: after)
      (first : ∀ t ∈ before, Smaller (s.members.length, s.title) (t.members.length, t.title))
      (least : ∀ t ∈ after, ¬ Smaller (t.members.length, t.title) (s.members.length, s.title)) :
      LosesSmallest d { d with subgraphs := before ++ after }
  /-- There are no subgraphs, and the nodes of a group leave it. All other groups are
      larger. -/
  | group {g : Text} (none : d.subgraphs = []) (mem : g ∈ d.groups)
      (least : ∀ h ∈ d.groups, h ≠ g → Smaller (d.groupSize g, g) (d.groupSize h, h)) :
      LosesSmallest d { d with nodes := d.nodes.map (Node.leaving g) }

variable {d : Diagram}

theorem smallestSubgraph?_split {i : Nat} (h : d.smallestSubgraph? = some i) :
    ∃ before s after, d.subgraphs = before ++ s :: after ∧ i = before.length ∧
      (∀ t ∈ before, Smaller (s.members.length, s.title) (t.members.length, t.title)) ∧
      ∀ t ∈ after, ¬ Smaller (t.members.length, t.title) (s.members.length, s.title) := by
  rcases Option.map_eq_some_iff.1 h with ⟨⟨s, j⟩, hs, rfl⟩
  rcases firstLeast_sizeUpTo (fun x : Subgraph × Nat => (x.1.members.length, x.1.title)) hs
    with ⟨before, after, hsplit, hfirst, hleast⟩
  have hplace : d.subgraphs.zipIdx[before.length]? = some (s, j) := by
    rw [hsplit, List.getElem?_append_right (Nat.le_refl _), Nat.sub_self]
    rfl
  have hsubgraphs : d.subgraphs = before.map Prod.fst ++ s :: after.map Prod.fst := by
    rw [← List.zipIdx_map_fst 0 d.subgraphs, hsplit, List.map_append]
    rfl
  refine ⟨before.map Prod.fst, s, after.map Prod.fst, hsubgraphs, ?_,
    List.forall_mem_map.2 hfirst, List.forall_mem_map.2 hleast⟩
  -- An item stands at the place that it is numbered with.
  rw [List.getElem?_zipIdx, Option.map_eq_some_iff] at hplace
  rcases hplace with ⟨t, -, heq⟩
  rw [Prod.mk.injEq, Nat.zero_add] at heq
  rw [List.length_map]
  exact heq.2.symm

theorem mem_groupSizes {x : Text × Nat} :
    x ∈ d.groupSizes ↔ x.1 ∈ d.groups ∧ x.2 = d.groupSize x.1 := by
  -- The number that is counted among the groups is that of the nodes in the group.
  have hcount : ∀ g, (d.nodes.filterMap Node.group).count g = d.groupSize g := by
    intro g
    rw [List.count_filterMap, groupSize]
    exact List.countP_congr fun n _ => by rw [beq_iff_eq, decide_eq_true_eq]
  have hsizes : d.groupSizes = d.groups.map fun g => (g, d.groupSize g) :=
    List.map_congr_left fun g _ => by rw [hcount]
  rw [hsizes, List.mem_map]
  constructor
  · rintro ⟨g, hg, rfl⟩
    exact ⟨hg, rfl⟩
  · rintro ⟨hg, hsize⟩
    exact ⟨x.1, hg, by rw [← hsize]⟩

theorem smallestGroup?_least {g : Text} (h : d.smallestGroup? = some g) :
    ∀ h ∈ d.groups, h ≠ g → Smaller (d.groupSize g, g) (d.groupSize h, h) := by
  rcases Option.map_eq_some_iff.1 h with ⟨x, hx, rfl⟩
  rcases firstLeast_sizeUpTo (fun x : Text × Nat => (x.2, x.1)) hx with
    ⟨before, after, hsplit, hfirst, hleast⟩
  intro k hk hne
  have hmem : (k, d.groupSize k) ∈ d.groupSizes := mem_groupSizes.2 ⟨hk, rfl⟩
  have hsize := (mem_groupSizes.1 (mem_of_firstLeast hx)).2
  rw [hsplit, List.mem_append, List.mem_cons] at hmem
  rw [← hsize]
  rcases hmem with hmem | hmem | hmem
  · exact hfirst _ hmem
  · rw [← hmem] at hne
    exact absurd rfl hne
  · -- Of different groups one comes before the other.
    exact (smaller_or_of_ne hne).resolve_left (hleast _ hmem)

/-- The block that is taken away is the smallest one. -/
theorem losesSmallest_withoutBlock (h : 0 < d.blockCount) : d.LosesSmallest d.withoutBlock := by
  unfold withoutBlock
  split
  · rename_i i hi
    rcases smallestSubgraph?_split hi with ⟨before, s, after, hsplit, rfl, hfirst, hleast⟩
    -- The position is that of the first smallest subgraph, so taking it out leaves what
    -- is before and after it.
    have herase : d.subgraphs.eraseIdx before.length = before ++ after := by
      rw [hsplit, List.eraseIdx_append_of_length_le (Nat.le_refl _), Nat.sub_self,
        List.eraseIdx_cons_zero]
    rw [herase]
    exact .subgraph hsplit hfirst hleast
  · rename_i hnone
    have hsubgraphs := smallestSubgraph?_eq_none_iff.1 hnone
    split
    · rename_i g hg
      exact .group hsubgraphs (smallestGroup?_mem hg) (smallestGroup?_least hg)
    · rename_i hgroups
      rw [blockCount, hsubgraphs, smallestGroup?_eq_none_iff.1 hgroups] at h
      exact absurd h (Nat.lt_irrefl 0)

/-! ### One block after the other -/

/-- Repeating the block repair keeps a diagram settled and takes away a block each
    time, as long as there is one. -/
theorem IsCanonical.iterate_fixBlocks (h : d.IsCanonical .strict) (hsettled : d.IsSettled .strict)
    (i : Nat) :
    (fixBlocks^[i] d).IsCanonical .strict ∧ (fixBlocks^[i] d).IsSettled .strict ∧
      (fixBlocks^[i] d).blockCount = d.blockCount - i := by
  induction i with
  | zero => exact ⟨h, hsettled, rfl⟩
  | succ i ih =>
    rcases ih with ⟨hcanonical, hstill, hblocks⟩
    rw [Function.iterate_succ_apply', hcanonical.fixBlocks_eq hstill]
    refine ⟨hcanonical.withoutBlock, hcanonical.isSettled_withoutBlock hstill, ?_⟩
    -- Without a block the repair does nothing, and subtraction stops at zero as well.
    rcases Nat.eq_zero_or_pos (fixBlocks^[i] d).blockCount with hzero | hpos
    · rw [withoutBlock_of_blockCount_eq_zero hzero]
      omega
    · have hless := blockCount_withoutBlock hpos
      omega

/-- A diagram that is its own canonical form loses one block with each block repair,
    the smallest there is, and nothing else. After as many repairs as it has subgraphs
    and groups there are none, and from then on the repair does nothing. -/
theorem dismantled_iterate_fixBlocks (h : d.canonical .strict = d) :
    (∀ i < d.subgraphs.length + d.groups.length,
      (fixBlocks^[i] d).LosesSmallest (fixBlocks^[i + 1] d)) ∧
    ∀ i, d.subgraphs.length + d.groups.length ≤ i →
      (fixBlocks^[i] d).subgraphs = [] ∧ (∀ n ∈ (fixBlocks^[i] d).nodes, n.group = none) ∧
        (fixBlocks^[i] d).fixBlocks = fixBlocks^[i] d := by
  have hd : d.IsCanonical .strict := h ▸ isCanonical_canonical .strict d
  have hcount : d.blockCount = d.subgraphs.length + d.groups.length := rfl
  refine ⟨fun i hi => ?_, fun i hi => ?_⟩
  · rcases hd.iterate_fixBlocks h i with ⟨hcanonical, hsettled, hblocks⟩
    rw [Function.iterate_succ_apply', hcanonical.fixBlocks_eq hsettled]
    exact losesSmallest_withoutBlock (by omega)
  · rcases hd.iterate_fixBlocks h i with ⟨hcanonical, hsettled, hblocks⟩
    have hzero : (fixBlocks^[i] d).blockCount = 0 := by omega
    rw [hcanonical.fixBlocks_eq hsettled, withoutBlock_of_blockCount_eq_zero hzero]
    rw [blockCount, Nat.add_eq_zero_iff, List.length_eq_zero_iff, List.length_eq_zero_iff] at hzero
    refine ⟨hzero.1, fun n hn => ?_, rfl⟩
    rw [Option.eq_none_iff_forall_ne_some]
    intro g hg
    have hmem := mem_groups.2 ⟨n, hn, hg⟩
    rw [hzero.2] at hmem
    exact List.not_mem_nil hmem

/-- Three nodes in two groups and two subgraphs. -/
def clustered : Diagram :=
  { nodes := [{ id := "a".toList, label := "A".toList, group := some "g".toList },
      { id := "b".toList, label := "B".toList, group := some "h".toList },
      { id := "c".toList, label := "C".toList, group := some "g".toList }]
    subgraphs := [⟨"S".toList, ["a".toList, "b".toList]⟩, ⟨"R".toList, ["b".toList, "c".toList]⟩] }

/-- It is taken apart in four steps. -/
theorem dismantled_iterate_fixBlocks_clustered :
    clustered.canonical .strict = clustered ∧
      (∀ i < 4, (fixBlocks^[i] clustered).LosesSmallest (fixBlocks^[i + 1] clustered)) ∧
      (fixBlocks^[4] clustered).subgraphs = [] ∧
      (∀ n ∈ (fixBlocks^[4] clustered).nodes, n.group = none) ∧
      (fixBlocks^[4] clustered).fixBlocks = fixBlocks^[4] clustered := by
  have hsettled : clustered.canonical .strict = clustered := by
    rw [canonical_eq_of_pairwise (by decide +kernel)]
    decide +kernel
  have hblocks : clustered.subgraphs.length + clustered.groups.length = 4 := by decide
  rcases dismantled_iterate_fixBlocks hsettled with ⟨hsteps, hend⟩
  rw [hblocks] at hsteps hend
  exact ⟨hsettled, hsteps, hend 4 (Nat.le_refl 4)⟩

end Diagram

end Flowchart
