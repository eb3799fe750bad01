import Flowchart.Proofs.Canonical

/-!
# The Structure of Canonical Form

What can be relied on in a canonical diagram apart from its texts: who is in it,
in which order, and that everything that is referred to is there.

`Diagram.IsCanonical` speaks of names and of an order by `Binary64.key`, since
that is what printing and sorting need. Here the same is said in the words of a
reader who knows neither. Ids are spelled out character by character, the
keywords are compared one by one, and weights are compared as the numbers that
they stand for.

The last of these takes an argument. Keys order bit patterns, and patterns and
values disagree in two places: what is not a number has a key but no value, and
-0.0 has a key of its own just below that of 0.0. Normalized weights avoid both,
so on them the two orders agree, and no two different weights share a place.

## Main definitions

* `Diagram.IsStructured`: A diagram whose parts fit together.

## Theorems

* `Binary64.key_injective`: Different numbers have different keys.
* `Binary64.key_lt_key_iff`: Normalized numbers are ordered by key as they are
  by value.
* `Diagram.isStructured_canonical`: Every diagram becomes one whose parts fit
  together.
-/

namespace Flowchart

open Identifier

/-! ### Weights -/

namespace Binary64

theorem signBit_eq : signBit = 9223372036854775808 := rfl

-- The sign is the one bit that the magnitude leaves out.
theorem bits_eq (x : Binary64) :
    x.bits.toNat = x.magnitude + if x.isNegative then signBit else 0 := by
  have hbits : x.bits.toNat < 18446744073709551616 := x.bits.toNat_lt
  unfold magnitude isNegative
  rw [signBit_eq]
  by_cases h : 9223372036854775808 ≤ x.bits.toNat
  · simp only [h, decide_true, if_true]
    omega
  · simp only [h, decide_false, Bool.false_eq_true, if_false]
    omega

theorem key_injective {x y : Binary64} (h : x.key = y.key) : x = y := by
  have hx := bits_eq x
  have hy := bits_eq y
  -- Keys below zero belong to negative numbers, so the signs agree first.
  have hparts : x.isNegative = y.isNegative ∧ x.magnitude = y.magnitude := by
    unfold key at h
    by_cases hxs : x.isNegative = true <;> by_cases hys : y.isNegative = true
    · simp only [hxs, hys, if_true] at h
      exact ⟨by rw [hxs, hys], by omega⟩
    · simp only [hxs, hys, if_true, Bool.false_eq_true, if_false] at h
      omega
    · simp only [hxs, hys, if_true, Bool.false_eq_true, if_false] at h
      omega
    · simp only [hxs, hys, Bool.false_eq_true, if_false] at h
      rw [Bool.not_eq_true] at hxs hys
      exact ⟨by rw [hxs, hys], by omega⟩
  have hbits : x.bits = y.bits := by
    rw [← UInt64.toNat_inj, hx, hy, hparts.1, hparts.2]
  cases x
  cases y
  rw [Binary64.mk.injEq]
  exact hbits

theorem isFinite_normalized (x : Binary64) : x.normalized.isFinite = true := by
  unfold normalized
  split
  · rename_i h
    rw [Bool.and_eq_true] at h
    exact h.1
  · decide

-- A normalized zero is the positive one.
theorem magnitude_normalized_ne_zero {x : Binary64} (h : x.normalized.isNegative = true) :
    x.normalized.magnitude ≠ 0 := by
  unfold normalized at h ⊢
  split
  · rename_i hx
    simp only [Bool.and_eq_true, Bool.not_eq_true', isZero, beq_eq_false_iff_ne] at hx
    exact hx.2
  · rename_i hx
    rw [if_neg hx] at h
    exact absurd h (by decide)

theorem normalized_ne_neg_zero (x : Binary64) : x.normalized ≠ zero.neg := by
  intro h
  have hneg : x.normalized.isNegative = true := by
    rw [h]
    decide
  refine magnitude_normalized_ne_zero hneg ?_
  rw [h]
  decide

/-- Normalized numbers are ordered by key as they are by value. -/
theorem key_lt_key_iff (x y : Binary64) :
    x.normalized.key < y.normalized.key ↔ x.normalized.lt y.normalized = true := by
  have hnan : ∀ z : Binary64, z.normalized.isNaN = false := by
    intro z
    have hfinite := isFinite_normalized z
    simp only [isFinite, isNaN, decide_eq_true_eq, decide_eq_false_iff_not] at hfinite ⊢
    omega
  have hx := magnitude_normalized_ne_zero (x := x)
  have hy := magnitude_normalized_ne_zero (x := y)
  simp only [lt, hnan, Bool.not_false, Bool.true_and, decide_eq_true_eq]
  unfold key value
  -- Signs decide, unless they agree. Then magnitudes do, the other way around for
  -- negative numbers.
  by_cases hxs : x.normalized.isNegative = true <;> by_cases hys : y.normalized.isNegative = true
  · simp only [hxs, hys, if_true]
    omega
  · have hpos := hx hxs
    simp only [hxs, hys, if_true, Bool.false_eq_true, if_false]
    omega
  · have hpos := hy hys
    simp only [hxs, hys, if_true, Bool.false_eq_true, if_false]
    omega
  · simp only [hxs, hys, Bool.false_eq_true, if_false]

end Binary64

/-! ### Nodes in order -/

/-- Of two nodes with different ids the one that goes first is heavier, or as
    heavy with the smaller id. -/
theorem Node.IsCanonical.lt_of_precedes {p : LabelPolicy} {m n : Node} (hm : m.IsCanonical p)
    (hn : n.IsCanonical p) (h : m.precedes n = true) (hid : m.id ≠ n.id) :
    n.weight.lt m.weight = true ∨ m.weight = n.weight ∧ m.id < n.id := by
  rcases Node.precedes_iff.1 h with hkey | ⟨hkey, hup⟩
  · rw [← hm.weight, ← hn.weight] at hkey ⊢
    exact Or.inl ((Binary64.key_lt_key_iff _ _).1 hkey)
  · rcases Text.upTo_iff.1 hup with hlt | heq
    · exact Or.inr ⟨Binary64.key_injective hkey.symm, hlt⟩
    · exact absurd heq hid

/-! ### The structure -/

namespace Diagram

/-- A diagram whose parts fit together. -/
structure IsStructured (d : Diagram) : Prop where
  distinct : (d.nodes.map Node.id).Nodup
  /-- An id is a letter or underscore with letters, digits and underscores after
      it. -/
  spelled : ∀ n ∈ d.nodes, ∃ c t, n.id = c :: t ∧ (c.isAlpha = true ∨ c = '_') ∧
    ∀ e ∈ t, e.isAlphanum = true ∨ e = '_'
  /-- No keyword is an id, however its letters are cased. -/
  unreserved : ∀ n ∈ d.nodes, ∀ k ∈ keywords, n.id.lowerAscii ≠ Text.lowerAscii k.toList
  ordered : d.nodes.Pairwise fun m n =>
    n.weight.lt m.weight = true ∨ m.weight = n.weight ∧ m.id < n.id
  weights : ∀ n ∈ d.nodes, n.weight.isFinite = true ∧ n.weight ≠ Binary64.zero.neg
  ends : ∀ e ∈ d.edges, e.source ∈ d.nodes.map Node.id ∧ e.target ∈ d.nodes.map Node.id
  edges : d.edges.Pairwise fun e f =>
    ¬ (e.source = f.source ∧ e.target = f.target ∧ e.label = f.label)
  members : ∀ s ∈ d.subgraphs, 2 ≤ s.members.length ∧ s.members.Nodup ∧
    ∀ m ∈ s.members, m ∈ d.nodes.map Node.id

theorem IsCanonical.isStructured {p : LabelPolicy} {d : Diagram} (h : d.IsCanonical p) :
    d.IsStructured where
  distinct := h.ids
  spelled n hn := by
    have hlegal := (h.nodes n hn).name.legal
    rcases hid : n.id with _ | ⟨c, t⟩
    · rw [hid] at hlegal
      exact absurd hlegal (by decide)
    · rw [hid, isLegal, Bool.and_eq_true, List.all_eq_true, isStart, Bool.or_eq_true,
        beq_iff_eq] at hlegal
      refine ⟨c, t, rfl, hlegal.1, fun e he => ?_⟩
      have hword := hlegal.2 e he
      rwa [isWordChar, Bool.or_eq_true, beq_iff_eq] at hword
  unreserved n hn k hk heq := by
    have hfree := (h.nodes n hn).name.free
    rw [isReserved, List.any_eq_false] at hfree
    exact hfree k hk (decide_eq_true heq.symm)
  ordered := by
    -- Sorting allows equal neighbours, distinct ids rule them out.
    have hids : d.nodes.Pairwise fun m n => m.id ≠ n.id := List.pairwise_map.1 h.ids
    refine (h.order.and hids).imp_of_mem fun hm hn hmn => ?_
    exact (h.nodes _ hm).lt_of_precedes (h.nodes _ hn) hmn.1 hmn.2
  weights n hn := by
    have hweight := (h.nodes n hn).weight
    rw [← hweight]
    exact ⟨Binary64.isFinite_normalized _, Binary64.normalized_ne_neg_zero _⟩
  ends e he := ⟨hasNode_iff.1 (h.edges e he).source.2, hasNode_iff.1 (h.edges e he).target.2⟩
  edges := by
    refine (List.pairwise_map.1 h.signatures).imp fun hne heq => hne ?_
    rw [Edge.signature, Edge.signature, heq.1, heq.2.1, heq.2.2]
  members s hs := by
    have hsub := h.subgraphs s hs
    exact ⟨hsub.several, hsub.distinct, fun m hm => hasNode_iff.1 (hsub.members m hm).2⟩

/-- Whatever the diagram and the policy, canonical form is structured: distinct
    legal ids that are no keywords, nodes in a strict order with ordinary
    weights, and edges and subgraphs that refer to these nodes. -/
theorem isStructured_canonical (p : LabelPolicy) (d : Diagram) : (d.canonical p).IsStructured :=
  (isCanonical_canonical p d).isStructured

end Diagram

end Flowchart
