import Flowchart.Proofs.Arity
import Flowchart.Proofs.Retained

/-!
# Gathered Nodes

Where nodes are found after they have been gathered in a subgraph of their own and the
diagram has been made canonical.

The nodes that terms name come together under the title, each of them once. That is so for
every diagram: the new subgraph lists them by the ids that they have, and if two of them get
different names it is not dropped.

That they are in no other subgraph is what gathering is for, and it is not always so. The
ids of the named nodes are taken out of all subgraphs as they are spelled, and canonical form
goes by the names that are made of ids. A member that has the name of a gathered node, but a
spelling that no gathered node has, is not taken out, and canonical form makes it that node
again. Nothing comes of it if the subgraph has no other node left, because then it is
dropped. Nothing else can go wrong, and `gathers_canonical_gather` says so name by name.

In a canonical diagram everything is spelled as its name, so there the nodes leave all other
subgraphs. A build does not wait for that: it gathers what the generator answered with, and
makes it canonical afterwards.

## Main definitions

* `Subgraph.without`: A subgraph without some members.
* `Diagram.namedIds`, `Diagram.namedNames`: The nodes that terms name, by id and by name.
* `Diagram.Overlooks`: A node that is not taken out of a subgraph.

## Theorems

* `Subgraph.exists_canonical?_without_iff`: When a name is left in a subgraph.
* `Diagram.subgraphs_canonical_gather`: The subgraphs after gathering, in canonical form.
* `Diagram.overlooks_iff`: What is overlooked is there in canonical form.
* `Diagram.gathers_canonical_gather`: Where the named nodes are.
* `Diagram.IsCanonical.not_overlooks`: No node of a canonical diagram is overlooked.
-/

namespace Flowchart

open Identifier Label

/-- A list without repetitions has several items if it has one besides a given one. -/
theorem two_le_length_iff_of_mem {α : Type} {l : List α} (hl : l.Nodup) {a : α} (ha : a ∈ l) :
    2 ≤ l.length ↔ ∃ b ∈ l, b ≠ a := by
  constructor
  · intro hseveral
    have hne : l ≠ [a] := by
      rintro rfl
      rw [List.length_singleton] at hseveral
      omega
    exact ((hl.ne_singleton_iff a).1 hne).resolve_left (List.ne_nil_of_mem ha)
  · rintro ⟨b, hb, hne⟩
    have hpair : [b, a].Nodup :=
      List.nodup_cons.2 ⟨mt List.mem_singleton.1 hne, List.nodup_singleton a⟩
    have hsub : [b, a] ⊆ l := List.cons_subset.2 ⟨hb, fun x hx => List.mem_singleton.1 hx ▸ ha⟩
    exact (List.subperm_of_subset hpair hsub).length_le

namespace Subgraph

variable {hasNode : Text → Bool} {ids : List Text} {s : Subgraph} {name : Text}

/-- The subgraph without some members. -/
def without (ids : List Text) (s : Subgraph) : Subgraph :=
  { s with members := s.members.filter (!ids.contains ·) }

theorem mem_resolved_without :
    name ∈ (s.without ids).resolved hasNode ↔
      (∃ k ∈ s.members, k ∉ ids ∧ ofText k = name) ∧ hasNode name = true := by
  have hmember : ∀ k, k ∈ (s.without ids).members ↔ k ∈ s.members ∧ k ∉ ids := fun k => by
    rw [without, List.mem_filter, Bool.not_eq_true', List.contains_eq_mem,
      decide_eq_false_iff_not]
  simp only [mem_resolved, hmember, and_assoc]

/-- A subgraph without members is dropped. -/
theorem canonical?_of_isEmpty (h : s.members.isEmpty = true) : s.canonical? hasNode = none := by
  rw [canonical?, List.isEmpty_iff.1 h]
  rfl

/-- A name is left in canonical form exactly if it is the name of a node, is listed in a
    spelling that is not taken out, and is not the only such name. -/
theorem exists_canonical?_without_iff :
    (∃ t, (s.without ids).canonical? hasNode = some t ∧ name ∈ t.members) ↔
      ((∃ k ∈ s.members, k ∉ ids ∧ ofText k = name) ∧ hasNode name = true) ∧
        ∃ k ∈ s.members, k ∉ ids ∧ hasNode (ofText k) = true ∧ ofText k ≠ name := by
  have hdistinct : ((s.without ids).resolved hasNode).Nodup := nodup_firsts_id _
  -- A subgraph stays if it has two members, so the name needs another one beside it.
  have hstays : (∃ t, (s.without ids).canonical? hasNode = some t ∧ name ∈ t.members) ↔
      name ∈ (s.without ids).resolved hasNode ∧
        ∃ m ∈ (s.without ids).resolved hasNode, m ≠ name := by
    constructor
    · rintro ⟨t, ht, hmem⟩
      rcases canonical?_eq_some_iff.1 ht with ⟨hseveral, rfl⟩
      exact ⟨hmem, (two_le_length_iff_of_mem hdistinct hmem).1 hseveral⟩
    · rintro ⟨hmem, hother⟩
      have hseveral := (two_le_length_iff_of_mem hdistinct hmem).2 hother
      exact ⟨_, canonical?_eq_some_iff.2 ⟨hseveral, rfl⟩, hmem⟩
  rw [hstays, mem_resolved_without]
  refine and_congr_right fun _ => ⟨?_, ?_⟩
  · rintro ⟨m, hm, hne⟩
    rcases mem_resolved_without.1 hm with ⟨⟨k, hk, hkept, rfl⟩, hnode⟩
    exact ⟨k, hk, hkept, hnode, hne⟩
  · rintro ⟨k, hk, hkept, hnode, hne⟩
    exact ⟨ofText k, mem_resolved_without.2 ⟨⟨k, hk, hkept, rfl⟩, hnode⟩, hne⟩

end Subgraph

namespace Diagram

variable {p : LabelPolicy} {title name : Text} {terms : List Text} {d : Diagram}

/-! ### Named nodes -/

/-- The ids of the nodes that terms name, as they are spelled. -/
def namedIds (terms : List Text) (d : Diagram) : List Text :=
  (d.nodes.filter (·.isNamedBy terms)).map Node.id

/-- The names of the nodes that terms name, each once. -/
def namedNames (terms : List Text) (d : Diagram) : List Text :=
  firsts id ((d.namedIds terms).map ofText)

/-- The node of a name is overlooked in a subgraph when the nodes that terms name are taken
    out: it is listed there in a spelling that none of them has, and another node is left
    with it. -/
def Overlooks (terms : List Text) (d : Diagram) (s : Subgraph) (name : Text) : Prop :=
  (∃ k ∈ s.members, k ∉ d.namedIds terms ∧ ofText k = name) ∧
    ∃ k ∈ s.members, k ∉ d.namedIds terms ∧ ofText k ∈ d.names ∧ ofText k ≠ name

theorem mem_namedIds {k : Text} :
    k ∈ d.namedIds terms ↔ ∃ n ∈ d.nodes, n.isNamedBy terms = true ∧ n.id = k := by
  simp only [namedIds, List.mem_map, List.mem_filter, and_assoc]

theorem mem_namedNames :
    name ∈ d.namedNames terms ↔
      ∃ n ∈ d.nodes, n.isNamedBy terms = true ∧ ofText n.id = name := by
  rw [namedNames, mem_firsts_id, List.mem_map]
  constructor
  · rintro ⟨k, hk, hname⟩
    rcases mem_namedIds.1 hk with ⟨n, hn, hnamed, rfl⟩
    exact ⟨n, hn, hnamed, hname⟩
  · rintro ⟨n, hn, hnamed, hname⟩
    exact ⟨n.id, mem_namedIds.2 ⟨n, hn, hnamed, rfl⟩, hname⟩

theorem mem_names_of_mem_namedNames (h : name ∈ d.namedNames terms) : name ∈ d.names := by
  rcases mem_namedNames.1 h with ⟨n, hn, -, hname⟩
  exact List.mem_map.2 ⟨n, hn, hname⟩

/-! ### Gathering -/

/-- Named nodes are taken out of all subgraphs and put in one of their own. -/
theorem subgraphs_gather (htitle : title.isBlankText = false)
    (hseveral : 2 ≤ (d.namedIds terms).length) :
    (d.gather title terms).subgraphs
      = (d.subgraphs.map (Subgraph.without (d.namedIds terms))).filter (!·.members.isEmpty)
        ++ [⟨title, d.namedIds terms⟩] := by
  have hgather : ((d.namedIds terms).length < 2 || title.isBlankText) = false := by
    rw [htitle, Bool.or_false, decide_eq_false_iff_not]
    exact Nat.not_lt.2 hseveral
  unfold gather
  dsimp only
  rw [← namedIds, hgather]
  rfl

/-- Gathering leaves nodes as they are, and so their names. -/
theorem hasNode_canonical_gather (p : LabelPolicy) (title : Text) (terms : List Text)
    (d : Diagram) : ((d.gather title terms).canonical p).hasNode = (d.canonical p).hasNode := by
  rw [hasNode_canonical, hasNode_canonical, gather_eq]
  rfl

/-- There is more than one name if nodes of different names are named. -/
theorem two_le_length_namedNames
    (h : ∃ m ∈ d.nodes, ∃ n ∈ d.nodes, m.isNamedBy terms = true ∧ n.isNamedBy terms = true ∧
      ofText m.id ≠ ofText n.id) : 2 ≤ (d.namedNames terms).length := by
  rcases h with ⟨m, hm, n, hn, hmnamed, hnnamed, hne⟩
  have hname : ofText n.id ∈ d.namedNames terms := mem_namedNames.2 ⟨n, hn, hnnamed, rfl⟩
  exact (two_le_length_iff_of_mem (nodup_firsts_id _) hname).2
    ⟨ofText m.id, mem_namedNames.2 ⟨m, hm, hmnamed, rfl⟩, hne⟩

/-- In canonical form, what is left of the subgraphs comes first, and the named nodes
    follow under the title and by their names. -/
theorem subgraphs_canonical_gather (p : LabelPolicy) (htitle : title.isBlankText = false)
    (hseveral : 2 ≤ (d.namedNames terms).length) :
    ((d.gather title terms).canonical p).subgraphs
      = (d.subgraphs.map (Subgraph.without (d.namedIds terms))).filterMap
          (Subgraph.canonical? (d.canonical p).hasNode)
        ++ [⟨clean .strict title, d.namedNames terms⟩] := by
  have hids : 2 ≤ (d.namedIds terms).length := by
    have hfewer : (d.namedNames terms).length ≤ ((d.namedIds terms).map ofText).length :=
      (firsts_sublist _).length_le
    rw [List.length_map] at hfewer
    exact hseveral.trans hfewer
  -- All named nodes are there, so each of them is a member.
  have hadded : Subgraph.canonical? (d.canonical p).hasNode ⟨title, d.namedIds terms⟩
      = some ⟨clean .strict title, d.namedNames terms⟩ := by
    have hall : Subgraph.resolved (d.canonical p).hasNode ⟨title, d.namedIds terms⟩
        = d.namedNames terms := by
      rw [Subgraph.resolved, List.filter_eq_self.2, namedNames]
      intro name hname
      exact mem_names_iff_hasNode.2 (mem_names_of_mem_namedNames (mem_firsts_id.2 hname))
    rw [Subgraph.canonical?_eq_some_iff, hall]
    exact ⟨hseveral, rfl⟩
  rw [subgraphs_canonical, hasNode_canonical_gather, subgraphs_gather htitle hids,
    List.filterMap_append, List.filterMap_cons_some hadded, List.filterMap_nil]
  congr 1
  -- Subgraphs that were emptied would have been dropped as well.
  rw [List.filterMap_filter]
  refine List.filterMap_congr fun s _ => ?_
  split
  · rfl
  · rename_i hempty
    rw [Bool.not_eq_true, Bool.not_eq_false'] at hempty
    exact (Subgraph.canonical?_of_isEmpty hempty).symm

/-- A named node is overlooked in a subgraph exactly if it is in what canonical form makes
    of the rest of that subgraph. -/
theorem overlooks_iff (p : LabelPolicy) (hname : name ∈ d.namedNames terms) (s : Subgraph) :
    d.Overlooks terms s name ↔
      ∃ t, (s.without (d.namedIds terms)).canonical? (d.canonical p).hasNode = some t ∧
        name ∈ t.members := by
  have hnode : (d.canonical p).hasNode name = true :=
    mem_names_iff_hasNode.2 (mem_names_of_mem_namedNames hname)
  rw [Subgraph.exists_canonical?_without_iff, and_iff_left hnode, Overlooks]
  simp only [mem_names_iff_hasNode]

/-- If terms name nodes of two different names and the title is not blank, then all nodes
    that they name are gathered, each once, in a subgraph with that title, which is the last
    one. Such a node is in another subgraph as well exactly if it was overlooked in one. -/
theorem gathers_canonical_gather (p : LabelPolicy) (htitle : title.isBlankText = false)
    (h : ∃ m ∈ d.nodes, ∃ n ∈ d.nodes, m.isNamedBy terms = true ∧ n.isNamedBy terms = true ∧
      ofText m.id ≠ ofText n.id) :
    ∃ others, ((d.gather title terms).canonical p).subgraphs
        = others ++ [⟨clean .strict title, d.namedNames terms⟩] ∧
      ∀ name ∈ d.namedNames terms,
        (∃ s ∈ others, name ∈ s.members) ↔ ∃ s ∈ d.subgraphs, d.Overlooks terms s name := by
  refine ⟨_, subgraphs_canonical_gather p htitle (two_le_length_namedNames h),
    fun name hname => ⟨?_, ?_⟩⟩
  · rintro ⟨t, ht, hmem⟩
    rcases List.mem_filterMap.1 ht with ⟨_, hleft, hcanonical⟩
    -- Every other subgraph is what was left of one in the diagram.
    rcases List.mem_map.1 hleft with ⟨s, hs, rfl⟩
    exact ⟨s, hs, (overlooks_iff p hname s).2 ⟨t, hcanonical, hmem⟩⟩
  · rintro ⟨s, hs, hoverlooked⟩
    rcases (overlooks_iff p hname s).1 hoverlooked with ⟨t, hcanonical, hmem⟩
    exact ⟨t, List.mem_filterMap.2 ⟨_, List.mem_map_of_mem hs, hcanonical⟩, hmem⟩

/-- Three nodes, and a subgraph that lists the first in another spelling. -/
def relisted : Diagram :=
  { nodes := [{ id := "n_1".toList, label := "A".toList },
      { id := "b".toList, label := "B".toList }, { id := "c".toList, label := "C".toList }]
    subgraphs := [⟨"Old".toList, ["1".toList, "c".toList]⟩] }

/-- The first two nodes are gathered, and the first is still where it was. -/
theorem subgraphs_canonical_gather_relisted :
    Text.isBlankText "Core".toList = false ∧
      relisted.namedNames ["A".toList, "B".toList] = ["n_1".toList, "b".toList] ∧
      ((relisted.gather "Core".toList ["A".toList, "B".toList]).canonical .strict).subgraphs
        = [⟨"Old".toList, ["n_1".toList, "c".toList]⟩,
          ⟨"Core".toList, ["n_1".toList, "b".toList]⟩] := by
  decide +kernel

/-- It is there because it was overlooked. -/
theorem gathers_canonical_gather_relisted :
    Text.isBlankText "Core".toList = false ∧
      (∃ m ∈ relisted.nodes, ∃ n ∈ relisted.nodes,
        m.isNamedBy ["A".toList, "B".toList] = true ∧
        n.isNamedBy ["A".toList, "B".toList] = true ∧ ofText m.id ≠ ofText n.id) ∧
      ∃ others, ((relisted.gather "Core".toList ["A".toList, "B".toList]).canonical
            .permissive).subgraphs
          = others ++ [⟨clean .strict "Core".toList,
            relisted.namedNames ["A".toList, "B".toList]⟩] ∧
        ∃ s ∈ others, "n_1".toList ∈ s.members := by
  have htitle : Text.isBlankText "Core".toList = false := by decide
  have hnamed : ∃ m ∈ relisted.nodes, ∃ n ∈ relisted.nodes,
      m.isNamedBy ["A".toList, "B".toList] = true ∧
      n.isNamedBy ["A".toList, "B".toList] = true ∧ ofText m.id ≠ ofText n.id := by
    decide +kernel
  have hname : "n_1".toList ∈ relisted.namedNames ["A".toList, "B".toList] := by
    decide +kernel
  have hoverlooked : relisted.Overlooks ["A".toList, "B".toList]
      ⟨"Old".toList, ["1".toList, "c".toList]⟩ "n_1".toList := by
    unfold Overlooks
    decide +kernel
  rcases gathers_canonical_gather .permissive htitle hnamed with ⟨others, hsubgraphs, hothers⟩
  exact ⟨htitle, hnamed, others, hsubgraphs,
    (hothers _ hname).2 ⟨_, List.mem_singleton_self _, hoverlooked⟩⟩

/-- In canonical form nothing is spelled in another way than its node, so named nodes leave
    all subgraphs that they are in. -/
theorem IsCanonical.not_overlooks (h : d.IsCanonical p) {s : Subgraph} (hs : s ∈ d.subgraphs)
    (hname : name ∈ d.namedNames terms) : ¬ d.Overlooks terms s name := by
  rintro ⟨⟨k, hk, hkept, hid⟩, -⟩
  rcases mem_namedNames.1 hname with ⟨n, hn, hnamed, rfl⟩
  have hsame : k = n.id := by
    rw [← ofText_of_isName ((h.subgraphs s hs).members k hk).1, hid]
    exact ofText_of_isName (h.nodes n hn).name
  exact hkept (mem_namedIds.2 ⟨n, hn, hnamed, hsame.symm⟩)

end Diagram

end Flowchart
