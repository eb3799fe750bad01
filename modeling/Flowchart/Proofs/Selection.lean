import Flowchart.Proofs.Pruning
import Mathlib.Data.List.Count

/-!
# Which Nodes Are Pruned

Pruning takes as many nodes as there are too many, or all those that do not
matter if these are fewer, and it takes the ones that go first. Both are said
here for diagrams whose ids are distinct. Where two nodes share an id, one of
them may go along with the other, as `Budget.protected_enforce_iff` describes.

With distinct ids a node goes exactly if its id does, so there are as many
nodes less as ids are pruned. Which ones go was settled by counting: a node
that does not matter is pruned if few others are ahead of it. A node that goes
has fewer ahead of it than one that stays, and since the order of pruning is
total, it goes before that one.

## Theorems

* `Budget.length_nodes_enforce_add`: As many nodes go.
* `Budget.goesBefore_of_ahead_lt`: Who has fewer ahead goes before.
* `Budget.prunes_enforce`: How many nodes go, which ones, and what that leaves.
-/

namespace Flowchart

namespace Budget

variable {b : Budget} {terms : List Text} {d : Diagram} {m n : Node}

/-! ### How many nodes go -/

/-- Distinct ids are pruned once. -/
theorem nodup_pruned (h : (d.nodes.map Node.id).Nodup) : (b.pruned terms d).Nodup := by
  have hperm : ((d.nodes.filter (!isProtected terms d ·)).mergeSort prunedBefore).Perm
      (d.nodes.filter (!isProtected terms d ·)) := List.mergeSort_perm _ _
  have hfree : ((d.nodes.filter (!isProtected terms d ·)).map Node.id).Nodup :=
    h.sublist (List.filter_sublist.map Node.id)
  exact ((hperm.map Node.id).nodup_iff.2 hfree).sublist ((List.take_sublist _ _).map Node.id)

/-- If ids are distinct, then as many nodes go as ids are pruned. -/
theorem length_nodes_enforce_add (b : Budget) (terms : List Text)
    (h : (d.nodes.map Node.id).Nodup) :
    (b.enforce terms d).nodes.length + (b.pruned terms d).length = d.nodes.length := by
  -- The pruned ids are those of the nodes that go.
  have hgone : d.nodes.countP (fun n => (b.pruned terms d).contains n.id)
      = (b.pruned terms d).length := by
    refine countP_eq_length_of_nodup h (nodup_pruned h) (fun id hid => ?_) fun n _ =>
      List.contains_iff_mem
    rcases mem_pruned_iff.1 hid with ⟨n, hn, -, rfl, -⟩
    exact List.mem_map_of_mem hn
  have hsplit := d.nodes.length_eq_countP_add_countP fun n => (b.pruned terms d).contains n.id
  rw [← hgone, enforce, ← List.countP_eq_length_filter]
  simp only [Bool.not_eq_true, Bool.decide_eq_false] at hsplit
  omega

/-! ### Which ones -/

/-- A node with fewer nodes ahead of it goes before one with more. -/
theorem goesBefore_of_ahead_lt (h : ahead terms d m < ahead terms d n) :
    m.goesBefore n = true := by
  by_contra hbefore
  rw [goesBefore_eq, Bool.not_eq_true', Bool.not_eq_false] at hbefore
  -- Otherwise whatever is ahead of the second is ahead of the first.
  have hle : ahead terms d n ≤ ahead terms d m := by
    refine List.countP_mono_left fun k _ hk => ?_
    rw [Bool.and_eq_true, goesBefore_eq, Bool.not_eq_true' (prunedBefore n k)] at hk
    rw [Bool.and_eq_true, goesBefore_eq, Bool.not_eq_true' (prunedBefore m k)]
    refine ⟨hk.1, Bool.eq_false_iff.2 fun hmk => ?_⟩
    rw [prunedBefore_trans n m k hbefore hmk] at hk
    exact Bool.noConfusion hk.2
  omega

/-- A node that does not matter is not ahead of itself. -/
theorem ahead_lt_countP (hn : n ∈ d.nodes) (hfree : isProtected terms d n = false) :
    ahead terms d n < d.nodes.countP (!isProtected terms d ·) := by
  have hahead : ahead terms d n
      = (d.nodes.filter (!isProtected terms d ·)).countP (·.goesBefore n) := by
    rw [List.countP_filter, ahead]
    exact List.countP_congr fun k _ => by rw [Bool.and_comm]
  rw [hahead, List.countP_eq_length_filter (l := d.nodes), List.countP_lt_length_iff]
  refine ⟨n, List.mem_filter.2 ⟨hn, by rw [hfree]; rfl⟩, ?_⟩
  rw [goesBefore_eq, prunedBefore_refl]
  rfl

/-- If ids are distinct, then pruning takes as many nodes as there are too many, or
    all that do not matter if these are fewer. Those that are left keep their order,
    and every node that goes would go before every one that is left and does not
    matter. So the result is within the budget unless all its nodes matter. -/
theorem prunes_enforce (b : Budget) (terms : List Text) {d : Diagram}
    (h : (d.nodes.map Node.id).Nodup) :
    (b.enforce terms d).nodes.length
        + min (d.nodes.countP (!isProtected terms d ·)) (d.nodes.length - b.maxNodes)
      = d.nodes.length ∧
    (b.enforce terms d).nodes.Sublist d.nodes ∧
    (∀ m ∈ d.nodes, m ∉ (b.enforce terms d).nodes → isProtected terms d m = false ∧
      ∀ n ∈ (b.enforce terms d).nodes, isProtected terms d n = false → m.goesBefore n = true) ∧
    ((b.enforce terms d).nodes.length ≤ b.maxNodes ∨
      ∀ n ∈ (b.enforce terms d).nodes, isProtected terms d n = true) := by
  have hlength := length_nodes_enforce_add b terms h
  rw [length_pruned] at hlength
  -- A node that stays and does not matter has too many ahead of it.
  have hspared : ∀ n ∈ (b.enforce terms d).nodes, isProtected terms d n = false →
      d.nodes.length ≤ b.maxNodes + ahead terms d n := by
    intro n hn hfree
    rcases mem_nodes_enforce.1 hn with ⟨hmem, hid⟩
    by_contra hfew
    exact hid (mem_pruned_iff.2 ⟨n, hmem, hfree, rfl, by omega⟩)
  refine ⟨hlength, List.filter_sublist, fun m hm hgone => ?_, ?_⟩
  · have hid : m.id ∈ b.pruned terms d := by
      by_contra hid
      exact hgone (mem_nodes_enforce.2 ⟨hm, hid⟩)
    rcases mem_pruned_iff.1 hid with ⟨k, hk, hfree, heq, hfew⟩
    rw [List.inj_on_of_nodup_map h hk hm heq] at hfree hfew
    refine ⟨hfree, fun n hn hn' => ?_⟩
    have hmany := hspared n hn hn'
    have hahead : ahead terms d m < ahead terms d n := by omega
    exact goesBefore_of_ahead_lt hahead
  · by_cases hwithin : (b.enforce terms d).nodes.length ≤ b.maxNodes
    · exact Or.inl hwithin
    · refine Or.inr fun n hn => ?_
      by_contra hfree
      rw [Bool.not_eq_true] at hfree
      have hmany := hspared n hn hfree
      have hfew := ahead_lt_countP (mem_nodes_enforce.1 hn).1 hfree
      omega

/-- A decision and two nodes of equal weight, one more than the budget allows. -/
def crowd : Diagram :=
  { nodes := [{ id := "a".toList }, { id := "c".toList, shape := .decision },
      { id := "b".toList }] }

/-- Of the two nodes that do not matter the one with the later id goes. -/
theorem prunes_enforce_crowd :
    (crowd.nodes.map Node.id).Nodup ∧
      ((Budget.mk 2 4).enforce [] crowd).nodes.length + 1 = 3 ∧
      ∀ m ∈ crowd.nodes, m ∉ ((Budget.mk 2 4).enforce [] crowd).nodes →
        ∀ n ∈ ((Budget.mk 2 4).enforce [] crowd).nodes, isProtected [] crowd n = false →
          m.goesBefore n = true := by
  have h : (crowd.nodes.map Node.id).Nodup := by decide +kernel
  have hmin : min (crowd.nodes.countP (!isProtected [] crowd ·)) (crowd.nodes.length - 2) = 1 := by
    decide +kernel
  rcases prunes_enforce ⟨2, 4⟩ [] h with ⟨hlength, -, hgone, -⟩
  rw [hmin] at hlength
  exact ⟨h, hlength, fun m hm hm' => (hgone m hm hm').2⟩

end Budget

end Flowchart
