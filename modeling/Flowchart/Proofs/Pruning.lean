import Flowchart.Budget
import Flowchart.Proofs.Canonical
import Mathlib.Data.List.Perm.Subperm

/-!
# What Pruning Keeps

A diagram over its budget loses its lightest nodes, but the nodes that matter
are meant to stay whatever the budget. They do, as long as ids are distinct, and
this module says exactly when they do otherwise.

Which nodes go is decided node by node, among those that do not matter, and
carried out by id. A diagram that comes straight from an author may use one id
twice. If a node that matters shares its id with one that does not, it goes
where the other goes, so it is lost exactly if the other is among the first to
be pruned.

Being among the first is a matter of counting and needs no sorted list. A node
is pruned with a given excess if fewer nodes than that go before it.
`mem_map_take_iff` is this observation for sorted lists, and it holds in spite
of ties, since nodes that tie share their id.

## Main definitions

* `Node.goesBefore`: The strict order of pruning.
* `Budget.ahead`: How many nodes go before a node.

## Theorems

* `mem_map_take_iff`: What stands at the front of a sorted list, by counting.
* `Budget.prunedBefore_eq`: The order of pruning is that of nodes, turned round.
* `Budget.mem_pruned_iff`: Which ids are pruned.
* `Budget.mem_nodes_enforce`: A node stays exactly if its id is not pruned.
* `Budget.protected_enforce_iff`: When all nodes that matter stay.
* `Budget.protected_enforce_of_nodup`: Distinct ids are enough for that.
* `Budget.length_pruned`: How many ids are pruned.
* `Budget.length_nodes_enforce_le`, `Budget.length_edges_enforce_le`: How much
  stays.
-/

namespace Flowchart

/-! ### The front of a sorted list -/

/-- The keys at the front of a sorted list are those of the items that few items
    go before. Items that tie must have one key. -/
theorem mem_map_take_iff {α κ : Type} {le : α → α → Bool} {f : α → κ} {l : List α}
    (hsorted : l.Pairwise (le · ·)) (hrefl : ∀ a, le a a = true)
    (htie : ∀ a b, le a b = true → le b a = true → f a = f b) (n : Nat) (k : κ) :
    k ∈ (l.take n).map f ↔ ∃ m ∈ l, f m = k ∧ l.countP (fun a => !le m a) < n := by
  rw [List.mem_map]
  constructor
  · rintro ⟨m, hm, rfl⟩
    rcases List.getElem_of_mem hm with ⟨i, hi, rfl⟩
    rw [List.length_take] at hi
    have hlength : i < l.length := by omega
    rw [List.getElem_take]
    refine ⟨l[i], List.getElem_mem hlength, rfl, ?_⟩
    -- From its own place on, an item goes before all others.
    have hback : (l.drop i).countP (fun a => !le l[i] a) = 0 := by
      rw [List.countP_eq_zero]
      intro a ha
      rw [Bool.not_eq_true', Bool.not_eq_false]
      rw [List.drop_eq_getElem_cons hlength, List.mem_cons] at ha
      rcases ha with rfl | ha
      · exact hrefl _
      · have hfrom := List.drop_eq_getElem_cons hlength ▸ hsorted.drop (i := i)
        exact (List.pairwise_cons.1 hfrom).1 a ha
    have hfront : (l.take i).countP (fun a => !le l[i] a) ≤ i :=
      List.countP_le_length.trans (List.length_take_le _ _)
    have hsplit : l.countP (fun a => !le l[i] a)
        = (l.take i).countP (fun a => !le l[i] a) + (l.drop i).countP (fun a => !le l[i] a) := by
      rw [← List.countP_append, List.take_append_drop]
    omega
  · rintro ⟨m, hm, rfl, hcount⟩
    by_contra hnone
    -- Then the item is not at the front, and neither is one that ties with it.
    have hback : m ∈ l.drop n := by
      rw [← List.take_append_drop n l, List.mem_append] at hm
      rcases hm with hm | hm
      · exact absurd ⟨m, hm, rfl⟩ hnone
      · exact hm
    have hfront : ∀ a ∈ l.take n, le m a = false := by
      intro a ha
      rw [← List.take_append_drop n l] at hsorted
      have hle : le a m = true := (List.pairwise_append.1 hsorted).2.2 a ha m hback
      by_contra hge
      rw [Bool.not_eq_false] at hge
      exact hnone ⟨a, ha, htie a m hle hge⟩
    have hall : (l.take n).countP (fun a => !le m a) = (l.take n).length := by
      rw [List.countP_eq_length]
      intro a ha
      rw [hfront a ha]
      rfl
    have hle : (l.take n).countP (fun a => !le m a) ≤ l.countP (fun a => !le m a) :=
      (List.take_sublist n l).countP_le
    have hlong : n < l.length := by
      have hpos := List.length_pos_of_mem hback
      rw [List.length_drop] at hpos
      omega
    rw [hall, List.length_take] at hle
    omega

/-! ### The order of pruning -/

/-- The first node is lighter, or as heavy with the later id. -/
def Node.goesBefore (k m : Node) : Bool :=
  k.weight.key < m.weight.key || (k.weight.key == m.weight.key && m.id < k.id)

namespace Budget

/-- Nodes are pruned in the order opposite to the one they are kept in. -/
theorem prunedBefore_eq (m n : Node) : prunedBefore m n = n.precedes m := by
  rw [Bool.eq_iff_iff, Node.precedes_iff, prunedBefore, Bool.or_eq_true, Bool.and_eq_true,
    decide_eq_true_eq, beq_iff_eq]

theorem prunedBefore_trans (k m n : Node) (hkm : prunedBefore k m = true)
    (hmn : prunedBefore m n = true) : prunedBefore k n = true := by
  rw [prunedBefore_eq] at hkm hmn ⊢
  exact Node.precedes_trans n m k hmn hkm

theorem prunedBefore_total (m n : Node) : (prunedBefore m n || prunedBefore n m) = true := by
  rw [prunedBefore_eq, prunedBefore_eq]
  exact Node.precedes_total n m

theorem prunedBefore_refl (n : Node) : prunedBefore n n = true := by
  have h := prunedBefore_total n n
  rwa [Bool.or_self] at h

theorem id_eq_of_prunedBefore (m n : Node) (hmn : prunedBefore m n = true)
    (hnm : prunedBefore n m = true) : m.id = n.id := by
  rw [prunedBefore_eq] at hmn hnm
  exact Node.id_eq_of_precedes hnm hmn

theorem goesBefore_eq (k m : Node) : k.goesBefore m = !prunedBefore m k := by
  rw [Bool.eq_iff_iff, Bool.not_eq_true', ← Bool.not_eq_true, prunedBefore_eq, Node.precedes_iff,
    Node.goesBefore, Bool.or_eq_true, Bool.and_eq_true, decide_eq_true_eq, beq_iff_eq,
    decide_eq_true_eq, Text.upTo, Bool.not_eq_true', decide_eq_false_iff_not]
  by_cases hid : m.id < k.id
  · simp only [hid, and_true, not_true_eq_false, and_false, or_false]
    omega
  · simp only [hid, and_false, or_false, not_false_eq_true, and_true]
    omega

/-! ### What is pruned -/

/-- The number of nodes that go before a node. -/
def ahead (terms : List Text) (d : Diagram) (m : Node) : Nat :=
  d.nodes.countP fun k => !isProtected terms d k && k.goesBefore m

/-- An id is pruned if some node of that id does not matter and has few nodes
    ahead of it. -/
theorem mem_pruned_iff {b : Budget} {terms : List Text} {d : Diagram} {id : Text} :
    id ∈ b.pruned terms d ↔
      ∃ m ∈ d.nodes, isProtected terms d m = false ∧ m.id = id ∧
        b.maxNodes + ahead terms d m < d.nodes.length := by
  have hperm : ((d.nodes.filter (!isProtected terms d ·)).mergeSort prunedBefore).Perm
      (d.nodes.filter (!isProtected terms d ·)) := List.mergeSort_perm _ _
  -- A node is among the first few in the sorted list if few go before it, and these
  -- can be counted without sorting.
  have hcount : ∀ m : Node, ((d.nodes.filter (!isProtected terms d ·)).mergeSort
      prunedBefore).countP (fun a => !prunedBefore m a) = ahead terms d m := by
    intro m
    rw [hperm.countP_eq, List.countP_filter, ahead]
    refine List.countP_congr fun a _ => ?_
    rw [goesBefore_eq, Bool.and_comm]
  have hfront := mem_map_take_iff (f := Node.id)
    (List.pairwise_mergeSort prunedBefore_trans prunedBefore_total
      (d.nodes.filter (!isProtected terms d ·)))
    prunedBefore_refl id_eq_of_prunedBefore (d.nodes.length - b.maxNodes) id
  rw [pruned, hfront]
  constructor
  · rintro ⟨m, hm, hid, hahead⟩
    rw [hperm.mem_iff, List.mem_filter, Bool.not_eq_true'] at hm
    rw [hcount] at hahead
    exact ⟨m, hm.1, hm.2, hid, by omega⟩
  · rintro ⟨m, hm, hfree, hid, hahead⟩
    refine ⟨m, ?_, hid, ?_⟩
    · rw [hperm.mem_iff, List.mem_filter, Bool.not_eq_true']
      exact ⟨hm, hfree⟩
    · rw [hcount]
      omega

/-! ### What stays -/

theorem mem_nodes_enforce {b : Budget} {terms : List Text} {d : Diagram} {n : Node} :
    n ∈ (b.enforce terms d).nodes ↔ n ∈ d.nodes ∧ n.id ∉ b.pruned terms d := by
  rw [enforce, List.mem_filter, Bool.not_eq_true', List.contains_eq_mem, decide_eq_false_iff_not]

-- Pruning keeps the order of nodes, so those that matter are kept as a list.
theorem filter_enforce_eq_iff {b : Budget} {terms : List Text} {d : Diagram} {p : Node → Bool} :
    (b.enforce terms d).nodes.filter p = d.nodes.filter p ↔
      ∀ n ∈ d.nodes, p n = true → n.id ∉ b.pruned terms d := by
  constructor
  · intro heq n hn hp hgone
    have hmem : n ∈ (b.enforce terms d).nodes.filter p := by
      rw [heq]
      exact List.mem_filter.2 ⟨hn, hp⟩
    exact (mem_nodes_enforce.1 (List.mem_of_mem_filter hmem)).2 hgone
  · intro h
    rw [enforce, List.filter_filter]
    -- Both are filters of the same list, so it is enough to compare them node by node.
    refine List.filter_congr fun n hn => ?_
    by_cases hp : p n = true
    · rw [hp, Bool.true_and, Bool.not_eq_true', List.contains_eq_mem, decide_eq_false_iff_not]
      exact h n hn hp
    · rw [Bool.not_eq_true] at hp
      rw [hp, Bool.false_and]

/-- The nodes that matter all stay, each as it was, exactly if none of them has
    the id of a node that does not matter and has too few nodes ahead of it to be
    spared. -/
theorem protected_enforce_iff (b : Budget) (terms : List Text) (d : Diagram) :
    (b.enforce terms d).nodes.filter (isProtected terms d)
        = d.nodes.filter (isProtected terms d) ↔
      ∀ m ∈ d.nodes, ∀ n ∈ d.nodes, isProtected terms d m = false →
        isProtected terms d n = true → m.id = n.id →
        d.nodes.length ≤ b.maxNodes + ahead terms d m := by
  rw [filter_enforce_eq_iff]
  constructor
  · intro h m hm n hn hfree hprotected hid
    by_contra hfew
    exact h n hn hprotected (mem_pruned_iff.2 ⟨m, hm, hfree, hid, by omega⟩)
  · intro h n hn hprotected hgone
    rcases mem_pruned_iff.1 hgone with ⟨m, hm, hfree, hid, hahead⟩
    have hspared := h m hm n hn hfree hprotected hid
    omega

/-- Two nodes with one id, of which only the decision matters. -/
def twins : Diagram :=
  { nodes := [{ id := "a".toList, label := "A".toList },
      { id := "a".toList, label := "Pick".toList, shape := .decision }] }

/-- A decision is lost along with a lighter node of the same id. -/
theorem decision_notMem_enforce :
    ∃ n ∈ twins.nodes, isProtected [] twins n = true ∧
      n ∉ ((Budget.mk 1 4).enforce [] twins).nodes := by
  decide +kernel

/-- If ids are distinct, then all nodes that matter stay. -/
theorem protected_enforce_of_nodup (b : Budget) (terms : List Text) {d : Diagram}
    (h : (d.nodes.map Node.id).Nodup) :
    (b.enforce terms d).nodes.filter (isProtected terms d)
      = d.nodes.filter (isProtected terms d) := by
  rw [filter_enforce_eq_iff]
  intro n hn hprotected hgone
  rcases mem_pruned_iff.1 hgone with ⟨m, hm, hfree, hid, -⟩
  have heq : m = n := List.inj_on_of_nodup_map h hm hn hid
  rw [heq, hprotected] at hfree
  exact absurd hfree (by decide)

/-! ### How much stays -/

/-- As many ids are pruned as there are nodes too many, or as there are nodes that
    do not matter. -/
theorem length_pruned (b : Budget) (terms : List Text) (d : Diagram) :
    (b.pruned terms d).length
      = min (d.nodes.countP (!isProtected terms d ·)) (d.nodes.length - b.maxNodes) := by
  rw [pruned, List.length_map, List.length_take, (List.mergeSort_perm _ _).length_eq,
    List.countP_eq_length_filter, Nat.min_comm]

/-- The nodes that are left are within the budget, unless those that matter are
    more than that. -/
theorem length_nodes_enforce_le (b : Budget) (terms : List Text) (d : Diagram) :
    (b.enforce terms d).nodes.length
      ≤ max b.maxNodes (d.nodes.countP (isProtected terms d)) := by
  have hperm : ((d.nodes.filter (!isProtected terms d ·)).mergeSort prunedBefore).Perm
      (d.nodes.filter (!isProtected terms d ·)) := List.mergeSort_perm _ _
  -- The nodes at the front are gone, whoever else goes with them.
  have hgone : (b.pruned terms d).length
      ≤ d.nodes.countP fun n => (b.pruned terms d).contains n.id := by
    have hfront : (((d.nodes.filter (!isProtected terms d ·)).mergeSort prunedBefore).take
        (d.nodes.length - b.maxNodes)).Subperm d.nodes :=
      (List.take_sublist _ _).subperm.trans (hperm.subperm.trans List.filter_sublist.subperm)
    have hcount := hfront.countP_le fun n => (b.pruned terms d).contains n.id
    rw [List.countP_eq_length.2 fun n hn => ?_] at hcount
    · rwa [pruned, List.length_map, ← pruned]
    · rw [List.contains_eq_mem, decide_eq_true_eq]
      exact List.mem_map_of_mem hn
  have hlength := length_pruned b terms d
  have hmatter := d.nodes.length_eq_countP_add_countP (isProtected terms d)
  have hkept := d.nodes.length_eq_countP_add_countP fun n => (b.pruned terms d).contains n.id
  have hnodes : (b.enforce terms d).nodes.length
      = d.nodes.countP fun n => !(b.pruned terms d).contains n.id := by
    rw [enforce, List.countP_eq_length_filter]
  simp only [Bool.not_eq_true, Bool.decide_eq_false] at hmatter hkept
  omega

theorem length_edges_enforce_le (b : Budget) (terms : List Text) (d : Diagram) :
    (b.enforce terms d).edges.length ≤ b.maxEdges :=
  List.length_take_le _ _

/-- An edge that is left was there, and neither of its ends was pruned. -/
theorem of_mem_edges_enforce {b : Budget} {terms : List Text} {d : Diagram} {e : Edge}
    (h : e ∈ (b.enforce terms d).edges) :
    e ∈ d.edges ∧ e.source ∉ b.pruned terms d ∧ e.target ∉ b.pruned terms d := by
  have hmem := List.mem_of_mem_take h
  rw [List.mem_mergeSort, List.mem_filter, Bool.and_eq_true] at hmem
  simp only [List.contains_eq_mem, Bool.not_eq_true', decide_eq_false_iff_not] at hmem
  exact hmem

end Budget

end Flowchart
