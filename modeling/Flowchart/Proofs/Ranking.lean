import Flowchart.Proofs.Pruning

/-!
# Which Edges Are Kept

Pruning takes away the edges of nodes that go, and of the edges that are left it
keeps as many as the budget allows, those first that say most. This module says
which ones these are, for any diagram, whether or not its ids are distinct.

What goes is an id, with all nodes that have it. So an edge is lost with its
nodes exactly if one of its ends was the id of a node and is so no longer, and
the result alone shows which ids these are. An end that never had a node is not
lost, and its edges stay.

An edge is ranked by what it says and by how many edges met at its source before
anything was taken away. Many edges have one rank, and two edges may be the same
altogether, so the edges are told apart by their places in the diagram. Sorting
does not change the order of edges that tie (`filter_mergeSort_of_tie`), which
makes the order by rank and then by place the one that edges are kept in.

## Main definitions

* `Diagram.loses`: An id that nodes had and no longer have.
* `Edge.isLabelled`, `Edge.saysMore`: What edges are compared by.
* `Budget.spares`: An edge with no end that is lost.
* `Budget.goesFirst`: The order in which edges are kept.

## Theorems

* `filter_mergeSort_of_tie`: Sorting keeps the order of items that tie.
* `pairwise_mergeSort_fst`: So places stay in order among them.
* `Budget.rank_lt_iff`: What it means to have the higher rank.
* `Budget.loses_enforce`: The ids that are lost are those that are pruned.
* `Budget.ranks_enforce`: Which edges and members are left.
-/

namespace Flowchart

/-! ### Sorting and places -/

section Sorting

variable {α : Type} {le : α → α → Bool}

/-- Items that tie come out of sorting in the order in which they went in. -/
theorem filter_mergeSort_of_tie (htrans : ∀ a b c, le a b = true → le b c = true → le a c = true)
    (htotal : ∀ a b, (le a b || le b a) = true) {p : α → Bool} {l : List α}
    (htie : ∀ a b, p a = true → p b = true → le a b = true) :
    (l.mergeSort le).filter p = l.filter p := by
  have hpairwise : (l.filter p).Pairwise (le · ·) := by
    rw [List.pairwise_filter]
    exact List.pairwise_of_forall fun a b ha hb => htie a b ha hb
  have hsorted : (l.filter p).Sublist (l.mergeSort le) :=
    List.sublist_mergeSort htrans htotal hpairwise List.filter_sublist
  -- They are all among the sorted items that tie, and these are no more.
  have hkept : (l.filter p).Sublist ((l.mergeSort le).filter p) := by
    simpa only [List.filter_filter, Bool.and_self] using hsorted.filter p
  have hlength := ((List.mergeSort_perm l le).filter p).length_eq
  exact (hkept.eq_of_length hlength.symm).symm

/-- Items with their places, sorted by the items alone, are in the order of their
    places where items tie. -/
theorem pairwise_mergeSort_fst (htrans : ∀ a b c, le a b = true → le b c = true → le a c = true)
    (htotal : ∀ a b, (le a b || le b a) = true) {l : List (α × Nat)}
    (hplaces : l.Pairwise fun x y => x.2 < y.2) :
    (l.mergeSort fun x y => le x.1 y.1).Pairwise fun x y =>
      le x.1 y.1 = true ∧ (le y.1 x.1 = true → x.2 < y.2) := by
  have htrans' : ∀ x y z : α × Nat, le x.1 y.1 = true → le y.1 z.1 = true → le x.1 z.1 = true :=
    fun x y z => htrans x.1 y.1 z.1
  have htotal' : ∀ x y : α × Nat, (le x.1 y.1 || le y.1 x.1) = true :=
    fun x y => htotal x.1 y.1
  have hsorted : (l.mergeSort fun x y => le x.1 y.1).Pairwise fun x y => le x.1 y.1 = true :=
    List.pairwise_mergeSort htrans' htotal' l
  refine List.pairwise_iff_forall_sublist.2 fun {x y} hxy => ?_
  have hle : le x.1 y.1 = true := List.pairwise_iff_forall_sublist.1 hsorted hxy
  refine ⟨hle, fun hge => ?_⟩
  -- The items that tie with the first one are where they were before.
  have hties : (l.mergeSort fun x y => le x.1 y.1).filter (fun z => le x.1 z.1 && le z.1 x.1) =
      l.filter fun z => le x.1 z.1 && le z.1 x.1 :=
    filter_mergeSort_of_tie htrans' htotal' fun a b ha hb => by
      rw [Bool.and_eq_true] at ha hb
      exact htrans _ _ _ ha.2 hb.1
  have hrefl : le x.1 x.1 = true := by simpa using htotal x.1 x.1
  have hpair := hxy.filter fun z => le x.1 z.1 && le z.1 x.1
  rw [hties, List.filter_cons_of_pos (by rw [hrefl]; rfl),
    List.filter_cons_of_pos (by rw [hle, hge]; rfl), List.filter_nil] at hpair
  exact List.pairwise_iff_forall_sublist.1 (hplaces.sublist List.filter_sublist) hpair

theorem pairwise_zipIdx (l : List α) : l.zipIdx.Pairwise fun x y => x.2 < y.2 := by
  have hrange : (l.zipIdx.map Prod.snd).Pairwise (· < ·) := by
    rw [List.zipIdx_map_snd]
    exact List.pairwise_lt_range'
  exact List.pairwise_map.1 hrange

end Sorting

/-! ### What edges are compared by -/

namespace Edge

/-- The edge has a label that is not empty. -/
def isLabelled (e : Edge) : Bool := e.label.any (!·.isEmpty)

/-- An edge says more than another: it alone has a relation, or they agree in this
    and it alone has a label, or they agree in both and more edges meet at its
    source. -/
def saysMore (d : Diagram) (e f : Edge) : Prop :=
  (e.relation.isSome = true ∧ f.relation.isSome = false) ∨
    e.relation.isSome = f.relation.isSome ∧
      ((e.isLabelled = true ∧ f.isLabelled = false) ∨
        e.isLabelled = f.isLabelled ∧ d.degree f.source < d.degree e.source)

end Edge

/-- The id was that of a node and is so no longer. -/
def Diagram.loses (d r : Diagram) (id : Text) : Bool := d.hasNode id && !r.hasNode id

namespace Budget

variable {b : Budget} {terms : List Text} {d : Diagram}

theorem rank_eq (d : Diagram) (e : Edge) :
    rank d e = [e.relation.isSome.toNat, e.isLabelled.toNat, d.degree e.source] := by
  have hlabel : (e.label.map (!·.isEmpty)).getD false = e.isLabelled := by
    rw [Edge.isLabelled]
    rcases e.label with _ | t <;> rfl
  rw [rank, hlabel]
  cases e.relation.isSome <;> cases e.isLabelled <;> rfl

/-- The edge that says more has the higher rank. -/
theorem rank_lt_iff {e f : Edge} : rank d f < rank d e ↔ e.saysMore d f := by
  rw [rank_eq, rank_eq, Edge.saysMore, List.cons_lt_cons_iff, List.cons_lt_cons_iff,
    List.cons_lt_cons_iff]
  cases e.relation.isSome <;> cases f.relation.isSome <;> cases e.isLabelled <;>
    cases f.isLabelled <;> simp

/-- The ids that are lost are those that are pruned. -/
theorem loses_enforce (b : Budget) (terms : List Text) (d : Diagram) (id : Text) :
    d.loses (b.enforce terms d) id = (b.pruned terms d).contains id := by
  rw [Bool.eq_iff_iff, Diagram.loses, Bool.and_eq_true, Bool.not_eq_true', ← Bool.not_eq_true,
    Diagram.hasNode_iff, Diagram.hasNode_iff, List.contains_iff_mem, List.mem_map, List.mem_map]
  constructor
  · rintro ⟨⟨n, hn, rfl⟩, hgone⟩
    by_contra hid
    exact hgone ⟨n, mem_nodes_enforce.2 ⟨hn, hid⟩, rfl⟩
  · intro hid
    rcases mem_pruned_iff.1 hid with ⟨m, hm, -, rfl, -⟩
    refine ⟨⟨m, hm, rfl⟩, ?_⟩
    rintro ⟨n, hn, heq⟩
    exact (mem_nodes_enforce.1 hn).2 (heq ▸ hid)

/-- Neither end of the edge is lost. -/
def spares (b : Budget) (terms : List Text) (d : Diagram) (e : Edge) : Bool :=
  !d.loses (b.enforce terms d) e.source && !d.loses (b.enforce terms d) e.target

/-- The order in which edges are kept, each with its place in the diagram: those
    that say more first, and by place where none of the two does. -/
def goesFirst (d : Diagram) (x y : Edge × Nat) : Prop :=
  x.1.saysMore d y.1 ∨ ¬ y.1.saysMore d x.1 ∧ x.2 < y.2

/-- The edges that no pruned node takes with it, in the order of their ranks, as far
    as the budget goes. -/
theorem edges_enforce (b : Budget) (terms : List Text) (d : Diagram) :
    (b.enforce terms d).edges =
      ((d.edges.filter (b.spares terms d)).mergeSort
        fun e f => !(rank d e < rank d f)).take b.maxEdges := by
  have hspares : d.edges.filter (b.spares terms d) = d.edges.filter fun e =>
      !(b.pruned terms d).contains e.source && !(b.pruned terms d).contains e.target := by
    refine List.filter_congr fun e _ => ?_
    rw [spares, loses_enforce, loses_enforce]
  rw [hspares, enforce]

/-- Edges are put in an order by their ranks. -/
theorem not_rank_lt_trans (e f g : Edge) (hef : (!decide (rank d e < rank d f)) = true)
    (hfg : (!decide (rank d f < rank d g)) = true) : (!decide (rank d e < rank d g)) = true := by
  rw [Bool.not_eq_true', decide_eq_false_iff_not, List.not_lt] at hef hfg ⊢
  exact List.le_trans hfg hef

theorem not_rank_lt_total (e f : Edge) :
    (!decide (rank d e < rank d f) || !decide (rank d f < rank d e)) = true := by
  rw [Bool.or_eq_true, Bool.not_eq_true', Bool.not_eq_true', decide_eq_false_iff_not,
    decide_eq_false_iff_not, List.not_lt, List.not_lt]
  exact List.le_total _ _

/-- An edge that does not rank below another, and does not come behind it if they
    rank the same, goes before it. -/
theorem goesFirst_of_rank {x y : Edge × Nat} (hle : (!decide (rank d x.1 < rank d y.1)) = true)
    (hplace : (!decide (rank d y.1 < rank d x.1)) = true → x.2 < y.2) : goesFirst d x y := by
  rw [Bool.not_eq_true', decide_eq_false_iff_not, rank_lt_iff] at hle hplace
  by_cases hmore : x.1.saysMore d y.1
  · exact Or.inl hmore
  · exact Or.inr ⟨hle, hplace hmore⟩

/-- The edges that no lost node takes with it, each with its place in the diagram, can
    be put in the order in which they are kept. -/
theorem exists_order (b : Budget) (terms : List Text) (d : Diagram) :
    ∃ order : List (Edge × Nat),
      order.Perm (d.edges.zipIdx.filter fun x => b.spares terms d x.1) ∧
      order.Pairwise (goesFirst d) ∧
      (b.enforce terms d).edges = (order.take b.maxEdges).map Prod.fst := by
  have hplaces : (d.edges.zipIdx.filter fun x => b.spares terms d x.1).Pairwise
      fun x y => x.2 < y.2 := (pairwise_zipIdx d.edges).sublist List.filter_sublist
  have hforget : (d.edges.zipIdx.filter fun x => b.spares terms d x.1).map Prod.fst
      = d.edges.filter (b.spares terms d) := by
    have hfilter := List.filter_map (p := b.spares terms d) (f := Prod.fst) (l := d.edges.zipIdx)
    rw [List.zipIdx_map_fst] at hfilter
    exact hfilter.symm
  -- They are sorted by the edges alone, which keeps those that tie in place.
  refine ⟨_, List.mergeSort_perm _ fun x y => !(rank d x.1 < rank d y.1), ?_, ?_⟩
  · refine (pairwise_mergeSort_fst not_rank_lt_trans not_rank_lt_total hplaces).imp fun hxy => ?_
    exact goesFirst_of_rank hxy.1 hxy.2
  · rw [edges_enforce, ← hforget, List.map_take]
    refine congrArg _ (Eq.symm (List.map_mergeSort (f := Prod.fst) fun _ _ _ _ => ?_))
    rfl

/-- No edge and no member of a subgraph is left that names an id that was lost, and
    there are as many edges as have no such end or as the budget allows. Taken with
    their places in the diagram, the edges that are kept are in order, and each of
    them goes before every edge that only the budget has cut. -/
theorem ranks_enforce (b : Budget) (terms : List Text) (d : Diagram) :
    (∀ e ∈ (b.enforce terms d).edges, d.loses (b.enforce terms d) e.source = false ∧
      d.loses (b.enforce terms d) e.target = false) ∧
    (∀ s ∈ (b.enforce terms d).subgraphs, ∀ m ∈ s.members,
      d.loses (b.enforce terms d) m = false) ∧
    (b.enforce terms d).edges.length = min b.maxEdges (d.edges.countP (b.spares terms d)) ∧
    ∃ kept cut : List (Edge × Nat),
      (kept ++ cut).Perm (d.edges.zipIdx.filter fun x => b.spares terms d x.1) ∧
      (b.enforce terms d).edges = kept.map Prod.fst ∧
      kept.Pairwise (goesFirst d) ∧ ∀ x ∈ kept, ∀ y ∈ cut, goesFirst d x y := by
  refine ⟨fun e he => ?_, fun s hs m hm => ?_, ?_, ?_⟩
  · rcases of_mem_edges_enforce he with ⟨-, hs, ht⟩
    rw [loses_enforce, loses_enforce, List.contains_eq_mem, List.contains_eq_mem,
      decide_eq_false_iff_not, decide_eq_false_iff_not]
    exact ⟨hs, ht⟩
  · rcases List.mem_map.1 hs with ⟨s', -, rfl⟩
    have hkept := (List.mem_filter.1 hm).2
    rwa [Bool.not_eq_true', ← loses_enforce] at hkept
  · rw [edges_enforce, List.length_take, List.length_mergeSort, List.countP_eq_length_filter]
  · rcases exists_order b terms d with ⟨order, hperm, hpairwise, hedges⟩
    -- Cutting the order at the budget leaves what is kept in front of what is cut.
    rw [← List.take_append_drop b.maxEdges order] at hperm hpairwise
    rcases List.pairwise_append.1 hpairwise with ⟨hkept, -, hcut⟩
    exact ⟨_, _, hperm, hedges, hkept, hcut⟩

end Budget

end Flowchart
