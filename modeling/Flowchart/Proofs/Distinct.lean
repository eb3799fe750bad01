import Flowchart.Diagram.Canonical
import Mathlib.Data.List.Induction
import Mathlib.Data.List.Nodup

/-!
# Distinct Items

Two ways of making the items of a list distinct. `firsts` keeps the first item
of every key and drops the others. `Node.keepHeaviest` puts one node among nodes
with distinct ids and keeps the heavier of two with the same id.

Both leave keys that are distinct, keep every key that was there, and do nothing
to a list whose keys are distinct already.

## Theorems

* `nodup_firsts`, `firsts_of_nodup`: The keys of the firsts are distinct, and a
  list with distinct keys is its own firsts.
* `mem_map_firsts`, `map_firsts`: The keys of the firsts are all keys, and the
  firsts of the keys.
* `firsts_concat`, `firsts_eq_map_filter_zipIdx`: What one more item does, and
  which items are the firsts by their places.
* `firsts_filter`: The firsts of a class of items.
* `find?_firsts`: The first item with a key is one of the firsts.
* `length_filter_ne_of_mem`: How many distinct items there are without one.
* `length_firsts_eq_iff`: When no item is dropped.
* `countP_eq_length_of_nodup`: How many items have one of some keys.
* `Node.map_id_keepHeaviest`: The ids after a node is put in.
* `Node.mem_map_id_foldl_keepHeaviest`: The ids after merging.
* `Node.nodup_foldl_keepHeaviest`: Merging leaves distinct ids.
* `Node.foldl_keepHeaviest_of_nodup`: Nodes with distinct ids are not merged.
-/

namespace Flowchart

/-! ### The first of every key -/

section Firsts

variable {α κ : Type} [DecidableEq κ] {key : α → κ}

theorem firsts_sublist (l : List α) : (firsts key l).Sublist l := by
  induction l with
  | nil => exact List.Sublist.slnil
  | cons a l ih =>
    rw [firsts]
    exact (List.filter_sublist.trans ih).cons_cons a

theorem mem_of_mem_firsts {l : List α} {a : α} (h : a ∈ firsts key l) : a ∈ l :=
  (firsts_sublist l).mem h

/-- The keys of the firsts are distinct. -/
theorem nodup_firsts (key : α → κ) (l : List α) : ((firsts key l).map key).Nodup := by
  induction l with
  | nil => exact List.nodup_nil
  | cons a l ih =>
    rw [firsts, List.map_cons, List.nodup_cons]
    -- Everything with the key of the first item has been filtered out.
    refine ⟨fun hmem => ?_, ih.sublist (List.filter_sublist.map key)⟩
    rcases List.mem_map.1 hmem with ⟨b, hb, hkey⟩
    rw [List.mem_filter, decide_eq_true_eq] at hb
    exact hb.2 hkey

/-- Every key has a first item. -/
theorem mem_map_firsts {l : List α} {k : κ} : k ∈ (firsts key l).map key ↔ k ∈ l.map key := by
  induction l with
  | nil => exact Iff.rfl
  | cons a l ih =>
    rw [firsts, List.map_cons, List.map_cons, List.mem_cons, List.mem_cons, ← ih]
    refine or_congr_right' fun hne => ?_
    -- What has been filtered out has the key of the first item.
    simp only [List.mem_map, List.mem_filter, decide_eq_true_eq]
    exact exists_congr fun b => ⟨fun h => ⟨h.1.1, h.2⟩, fun h => ⟨⟨h.1, h.2 ▸ hne⟩, h.2⟩⟩

/-- Items that are their own keys are only made distinct. -/
theorem nodup_firsts_id (l : List κ) : (firsts id l).Nodup := by
  have hdistinct := nodup_firsts id l
  rwa [List.map_id] at hdistinct

theorem mem_firsts_id {l : List κ} {k : κ} : k ∈ firsts id l ↔ k ∈ l := by
  have hkeys : k ∈ (firsts id l).map id ↔ k ∈ l.map id := mem_map_firsts
  rwa [List.map_id, List.map_id] at hkeys

/-- A list with distinct keys is its own firsts. -/
theorem firsts_of_nodup {l : List α} (h : (l.map key).Nodup) : firsts key l = l := by
  induction l with
  | nil => rfl
  | cons a l ih =>
    rw [List.map_cons, List.nodup_cons] at h
    rw [firsts, ih h.2, List.filter_eq_self.2 fun b hb => ?_]
    rw [decide_eq_true_eq]
    intro hkey
    exact h.1 (hkey ▸ List.mem_map_of_mem hb)

/-- The keys of the firsts are the firsts of the keys. -/
theorem map_firsts (key : α → κ) (l : List α) :
    (firsts key l).map key = firsts id (l.map key) := by
  induction l with
  | nil => rfl
  | cons a l ih =>
    rw [firsts, List.map_cons, List.map_cons, firsts, ← ih, List.filter_map]
    rfl

/-- One more item is one more first, unless its key is there already. -/
theorem firsts_concat (key : α → κ) (l : List α) (a : α) :
    firsts key (l ++ [a]) =
      if key a ∈ l.map key then firsts key l else firsts key l ++ [a] := by
  induction l with
  | nil => rfl
  | cons b l ih =>
    rw [List.cons_append, firsts, ih, List.map_cons, firsts]
    by_cases hl : key a ∈ l.map key
    · rw [if_pos hl, if_pos (List.mem_cons_of_mem _ hl)]
    · rw [if_neg hl, List.filter_append]
      by_cases hb : key a = key b
      · rw [List.filter_cons_of_neg (by simp [hb]), if_pos (hb ▸ List.mem_cons_self),
          List.filter_nil, List.append_nil]
      · rw [List.filter_cons_of_pos (by simp [hb]), if_neg fun h => (List.mem_cons.1 h).elim hb hl,
          List.filter_nil, List.cons_append]

/-- An item is a first at some place if no item before that place has its key. -/
theorem firsts_eq_map_filter_zipIdx (key : α → κ) (l : List α) :
    firsts key l =
      (l.zipIdx.filter fun x => (l.take x.2).all fun b => key b ≠ key x.1).map Prod.fst := by
  induction l using List.reverseRecOn with
  | nil => rfl
  | append_singleton l a ih =>
    -- The last item is behind the places of all others.
    have hfront : l.zipIdx.filter (fun x => ((l ++ [a]).take x.2).all fun b => key b ≠ key x.1)
        = l.zipIdx.filter fun x => (l.take x.2).all fun b => key b ≠ key x.1 := by
      refine List.filter_congr fun x hx => ?_
      rw [List.take_append_of_le_length (Nat.le_of_lt (List.snd_lt_of_mem_zipIdx hx))]
    have hlast : ((l ++ [a]).take l.length).all (fun b => key b ≠ key a)
        = decide (key a ∉ l.map key) := by
      rw [List.take_left, Bool.eq_iff_iff, List.all_eq_true, decide_eq_true_eq, List.mem_map]
      simp only [decide_eq_true_eq, not_exists, not_and, ne_eq]
    rw [firsts_concat, List.zipIdx_append, List.filter_append, hfront, List.map_append, ← ih,
      List.zipIdx_singleton, Nat.zero_add]
    by_cases ha : key a ∈ l.map key
    · rw [if_pos ha, List.filter_cons_of_neg (by rw [hlast]; simp [ha]), List.filter_nil,
        List.map_nil, List.append_nil]
    · rw [if_neg ha, List.filter_cons_of_pos (by rw [hlast]; simp [ha]), List.filter_nil,
        List.map_singleton]

/-- Items of a class that depends on their keys are made distinct before or after
    the others are dropped. -/
theorem firsts_filter {p : α → Bool} (hp : ∀ a b, key a = key b → p a = p b)
    (l : List α) : firsts key (l.filter p) = (firsts key l).filter p := by
  induction l with
  | nil => rfl
  | cons a l ih =>
    rw [firsts, List.filter_cons, List.filter_cons]
    by_cases ha : p a = true
    · rw [if_pos ha, if_pos ha, firsts, ih, List.filter_filter, List.filter_filter]
      exact congrArg _ (List.filter_congr fun b _ => Bool.and_comm _ _)
    · rw [if_neg ha, if_neg ha, ih, List.filter_filter]
      refine List.filter_congr fun b _ => ?_
      -- What is in the class has another key anyway.
      rcases hb : p b with _ | _
      · rfl
      · have hne : key b ≠ key a := fun heq => ha ((hp b a heq).symm.trans hb)
        rw [Bool.true_and]
        exact (decide_eq_true hne).symm

/-- Some item is the first with a key that occurs. -/
theorem exists_find?_of_mem_map {l : List α} {k : κ} (h : k ∈ l.map key) :
    ∃ a, l.find? (key · = k) = some a := by
  rcases List.mem_map.1 h with ⟨a, ha, hkey⟩
  exact Option.isSome_iff_exists.1
    ((List.find?_isSome (p := (key · = k))).2 ⟨a, ha, decide_eq_true hkey⟩)

/-- The first item with a key is found among the firsts. -/
theorem find?_firsts (key : α → κ) (l : List α) (k : κ) :
    (firsts key l).find? (key · = k) = l.find? (key · = k) := by
  induction l with
  | nil => rfl
  | cons a l ih =>
    rw [firsts, List.find?_cons, List.find?_cons]
    by_cases ha : key a = k
    · rw [decide_eq_true ha]
    · rw [decide_eq_false ha, List.find?_filter, ← ih]
      -- What has been filtered out has another key than the one looked for.
      refine congrArg (List.find? · _) (funext fun b => ?_)
      rw [decide_eq_decide, decide_eq_true_eq, decide_eq_true_eq, and_iff_right_iff_imp]
      exact fun hb heq => ha (heq.symm.trans hb)

/-- Of distinct items one less is left without one of them. -/
theorem length_filter_ne_of_mem {l : List κ} (h : l.Nodup) {k : κ} (hk : k ∈ l) :
    (l.filter (· ≠ k)).length + 1 = l.length := by
  have herase : l.erase k = l.filter (· ≠ k) := by
    rw [h.erase_eq_filter]
    refine List.filter_congr fun b _ => ?_
    rw [Bool.eq_iff_iff, decide_eq_true_eq, bne_iff_ne]
  rw [← herase]
  exact List.length_erase_add_one hk

/-- None is dropped exactly if the keys are distinct. -/
theorem length_firsts_eq_iff (key : α → κ) {l : List α} :
    (firsts key l).length = l.length ↔ (l.map key).Nodup := by
  constructor
  · intro h
    have hself : firsts key l = l := (firsts_sublist l).eq_of_length h
    rw [← hself]
    exact nodup_firsts key l
  · intro h
    rw [firsts_of_nodup h]

end Firsts

/-- Of items with distinct keys as many are in a class as there are keys that make it
    up. -/
theorem countP_eq_length_of_nodup {α κ : Type} {key : α → κ} {l : List α} {keys : List κ}
    {p : α → Bool} (hl : (l.map key).Nodup) (hkeys : keys.Nodup) (hsub : keys ⊆ l.map key)
    (hp : ∀ a ∈ l, p a = true ↔ key a ∈ keys) : l.countP p = keys.length := by
  have hdistinct : ((l.filter p).map key).Nodup := hl.sublist (List.filter_sublist.map key)
  -- The keys of the class are the given ones in some order, and each occurs once.
  have hperm : ((l.filter p).map key).Perm keys := by
    rw [List.perm_ext_iff_of_nodup hdistinct hkeys]
    intro k
    rw [List.mem_map]
    constructor
    · rintro ⟨a, ha, rfl⟩
      rcases List.mem_filter.1 ha with ⟨hmem, hclass⟩
      exact (hp a hmem).1 hclass
    · intro hk
      rcases List.mem_map.1 (hsub hk) with ⟨a, ha, rfl⟩
      exact ⟨a, List.mem_filter.2 ⟨ha, (hp a ha).2 hk⟩, rfl⟩
  rw [List.countP_eq_length_filter, ← hperm.length_eq, List.length_map]

namespace Node

/-! ### One node for every id -/

/-- A node among those that a node was put in was there or is that one. -/
theorem mem_keepHeaviest {l : List Node} {m n : Node} (h : m ∈ keepHeaviest l n) :
    m ∈ l ∨ m = n := by
  induction l with
  | nil => exact Or.inr (List.mem_singleton.1 h)
  | cons k l ih =>
    rw [keepHeaviest] at h
    split at h
    · rcases List.mem_cons.1 h with rfl | h
      · split
        · exact Or.inr rfl
        · exact Or.inl List.mem_cons_self
      · exact Or.inl (List.mem_cons_of_mem k h)
    · rcases List.mem_cons.1 h with rfl | h
      · exact Or.inl List.mem_cons_self
      · rcases ih h with h | rfl
        · exact Or.inl (List.mem_cons_of_mem k h)
        · exact Or.inr rfl

/-- The ids after a node is put in: those before, with its own at the end unless
    it is among them. -/
theorem map_id_keepHeaviest (l : List Node) (n : Node) :
    (keepHeaviest l n).map Node.id =
      if n.id ∈ l.map Node.id then l.map Node.id else l.map Node.id ++ [n.id] := by
  induction l with
  | nil => rfl
  | cons k l ih =>
    rw [keepHeaviest]
    -- Whichever of the two nodes stays here has the same id.
    by_cases hk : k.id = n.id
    · have hid : (if k.weight.lt n.weight then n else k).id = n.id := by
        split
        · rfl
        · exact hk
      have hmem : n.id ∈ (k :: l).map Node.id := by
        rw [List.map_cons, hk]
        exact List.mem_cons_self
      rw [if_pos hk, if_pos hmem, List.map_cons, List.map_cons, hid, hk]
    · rw [if_neg hk, List.map_cons, ih, List.map_cons]
      have hmem : n.id ∈ k.id :: l.map Node.id ↔ n.id ∈ l.map Node.id := by
        rw [List.mem_cons, or_iff_right fun heq => hk heq.symm]
      by_cases hl : n.id ∈ l.map Node.id
      · rw [if_pos hl, if_pos (hmem.2 hl)]
      · rw [if_neg hl, if_neg fun h => hl (hmem.1 h), List.cons_append]

theorem nodup_keepHeaviest {l : List Node} (h : (l.map Node.id).Nodup) (n : Node) :
    ((keepHeaviest l n).map Node.id).Nodup := by
  rw [map_id_keepHeaviest]
  split
  · exact h
  · rename_i hn
    exact List.nodup_append.2 ⟨h, List.nodup_singleton _, fun a ha b hb =>
      fun hab => hn (List.mem_singleton.1 hb ▸ hab ▸ ha)⟩

/-- A node with an id of its own goes to the end. -/
theorem keepHeaviest_of_notMem {l : List Node} {n : Node} (h : n.id ∉ l.map Node.id) :
    keepHeaviest l n = l ++ [n] := by
  induction l with
  | nil => rfl
  | cons k l ih =>
    rw [List.map_cons, List.mem_cons, not_or] at h
    rw [keepHeaviest, if_neg fun heq => h.1 heq.symm, ih h.2, List.cons_append]

/-- A merged node is one of those merged. -/
theorem mem_foldl_keepHeaviest {acc l : List Node} {m : Node}
    (h : m ∈ l.foldl keepHeaviest acc) : m ∈ acc ∨ m ∈ l := by
  induction l generalizing acc with
  | nil => exact Or.inl h
  | cons n l ih =>
    rcases ih h with h | h
    · rcases mem_keepHeaviest h with h | rfl
      · exact Or.inl h
      · exact Or.inr List.mem_cons_self
    · exact Or.inr (List.mem_cons_of_mem n h)

/-- Merging loses no id and makes up none. -/
theorem mem_map_id_foldl_keepHeaviest {acc l : List Node} {id : Text} :
    id ∈ (l.foldl keepHeaviest acc).map Node.id ↔ id ∈ acc.map Node.id ∨ id ∈ l.map Node.id := by
  induction l generalizing acc with
  | nil => rw [List.foldl_nil, List.map_nil, or_iff_left List.not_mem_nil]
  | cons n l ih =>
    have hput : id ∈ (keepHeaviest acc n).map Node.id ↔ id ∈ acc.map Node.id ∨ id = n.id := by
      rw [map_id_keepHeaviest]
      by_cases hn : n.id ∈ acc.map Node.id
      · rw [if_pos hn]
        exact (or_iff_left_of_imp fun heq => heq ▸ hn).symm
      · rw [if_neg hn, List.mem_append, List.mem_singleton]
    rw [List.foldl_cons, ih, hput, List.map_cons, List.mem_cons, or_assoc]

/-- Merging leaves distinct ids. -/
theorem nodup_foldl_keepHeaviest {acc : List Node} (h : (acc.map Node.id).Nodup) (l : List Node) :
    ((l.foldl keepHeaviest acc).map Node.id).Nodup := by
  induction l generalizing acc with
  | nil => exact h
  | cons n l ih => exact ih (nodup_keepHeaviest h n)

/-- Nodes with distinct ids are not merged. -/
theorem foldl_keepHeaviest_of_nodup {acc l : List Node}
    (h : ((acc ++ l).map Node.id).Nodup) : l.foldl keepHeaviest acc = acc ++ l := by
  induction l generalizing acc with
  | nil => rw [List.foldl_nil, List.append_nil]
  | cons n l ih =>
    -- The id is not among those before, so the node goes to the end of them.
    have hn : n.id ∉ acc.map Node.id := by
      rw [List.map_append, List.nodup_append] at h
      intro hmem
      exact h.2.2 n.id hmem n.id List.mem_cons_self rfl
    have hsplit : acc ++ n :: l = acc ++ [n] ++ l := by
      rw [List.append_assoc, List.singleton_append]
    rw [List.foldl_cons, keepHeaviest_of_notMem hn, ih (hsplit ▸ h), hsplit]

end Node

end Flowchart
