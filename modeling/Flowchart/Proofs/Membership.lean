import Flowchart.Proofs.Unambiguous

/-!
# Blocks and Members

How the blocks of a text are set apart from one another and from the nodes.

A block is named for its place or for its group, and neither makes a name of its own:
a node may be called what the first subgraph is called, and two groups may be spelled
alike once they have only the characters of a name. So a name that is taken is
lengthened until it is free. There are as many tries as there are taken names, and
that is enough: each try is longer than the one before, so no taken name is come to
twice. The name that was given is taken from then on, and names that are all
different from the start stay so.

Members are read off the blocks. A group has the nodes that are in no subgraph and
name it, so different groups have different nodes, and nodes with different ids since
the diagram is canonical. A group has none of the nodes that a subgraph lists.

All of this is said of lines, and the lines are those that are read back from the
text.

## Main definitions

* `Line.closesInTurn`: Blocks that do not reach into one another.
* `Line.IsOrderly`: Lines whose blocks are set apart.

## Theorems

* `Block.lengthen_notMem`: When lengthening ends in a free name.
* `Block.nodup_named`: Blocks are given names of their own.
* `Diagram.closesInTurn_toLines`: Every block is closed before the next one opens.
* `Diagram.IsCanonical.nodup_members_groupBlocks`: No id is in two groups.
* `Diagram.IsCanonical.isOrderly_toLines`: Canonical diagrams have orderly lines.
* `Diagram.isOrderly_text?_canonical`: The text of a diagram that was made canonical is
  orderly.
-/

namespace Flowchart

/-! ### Free names -/

/-- Fewer items have a property than another one, if it implies the other and one
    item has only that. -/
theorem countP_lt_countP {α : Type} {p q : α → Bool} {l : List α} {a : α} (ha : a ∈ l)
    (hp : p a = false) (hq : q a = true) (h : ∀ b ∈ l, p b = true → q b = true) :
    l.countP p < l.countP q := by
  rcases List.append_of_mem ha with ⟨front, back, rfl⟩
  have hfront : front.countP p ≤ front.countP q :=
    List.countP_mono_left fun b hb => h b (List.mem_append_left _ hb)
  have hback : back.countP p ≤ back.countP q :=
    List.countP_mono_left fun b hb => h b (List.mem_append_right _ (List.mem_cons_of_mem a hb))
  rw [List.countP_append, List.countP_append, List.countP_cons_of_neg (by rw [hp]; decide),
    List.countP_cons_of_pos hq]
  omega

namespace Block

/-- Lengthening ends in a free name if there are no more taken names that it can
    come to than underscores to add. -/
theorem lengthen_notMem {taken : List Text} {more : Nat} {name : Text}
    (h : taken.countP (fun t => name.length ≤ t.length) ≤ more) :
    lengthen taken more name ∉ taken := by
  induction more generalizing name with
  | zero =>
    intro hmem
    have hpos : 0 < taken.countP fun t => name.length ≤ t.length :=
      List.countP_pos_iff.2 ⟨name, hmem, decide_eq_true (Nat.le_refl _)⟩
    omega
  | succ more ih =>
    rw [lengthen]
    split
    · rename_i htaken
      rw [List.contains_iff_mem] at htaken
      -- The name itself is too short to come to again.
      have hlt : taken.countP (fun t => (name ++ ['_']).length ≤ t.length)
          < taken.countP fun t => name.length ≤ t.length := by
        refine countP_lt_countP htaken ?_ (decide_eq_true (Nat.le_refl _)) fun t _ ht => ?_
        · rw [decide_eq_false_iff_not, List.length_append, List.length_singleton]
          omega
        · rw [decide_eq_true_eq, List.length_append] at ht
          exact decide_eq_true ((Nat.le_add_right _ _).trans ht)
      exact ih (by omega)
    · rename_i hfree
      rwa [List.contains_iff_mem] at hfree

/-- The name that a block is given is free. -/
theorem freeName_notMem (taken : List Text) (wanted : Text) : freeName taken wanted ∉ taken :=
  lengthen_notMem List.countP_le_length

/-- Blocks are given names that differ from one another and from those taken. -/
theorem nodup_named {taken : List Text} (h : taken.Nodup) (bs : List Draft) :
    ((named taken bs).map Prod.fst ++ taken).Nodup := by
  induction bs generalizing taken with
  | nil => exact h
  | cons b bs ih =>
    -- The given name counts as taken for the blocks that follow.
    have hname := List.nodup_cons.2 ⟨freeName_notMem taken b.wanted, h⟩
    rw [named, List.map_cons, List.cons_append]
    exact List.nodup_middle.1 (ih hname)

/-- A node has the name of the first subgraph, and two groups are spelled alike. -/
example : (named ["sg0".toList] [⟨"sg0".toList, [], []⟩, ⟨"grp_a_b".toList, [], []⟩,
    ⟨"grp_a_b".toList, [], []⟩]).map Prod.fst
      = ["sg0_".toList, "grp_a_b".toList, "grp_a_b_".toList] := by decide

end Block

/-! ### Blocks one after the other -/

namespace Line

/-- No block is opened or left open while another one is open, and none is closed
    that is not open. -/
def closesInTurn : Bool → List Line → Bool
  | isOpen, [] => !isOpen
  | isOpen, opens _ _ :: ls => !isOpen && closesInTurn true ls
  | isOpen, closes :: ls => isOpen && closesInTurn false ls
  | isOpen, _ :: ls => closesInTurn isOpen ls

theorem closesInTurn_append {front : List Line} (h : ∀ l ∈ front, l.isFence = false) (isOpen : Bool)
    (ls : List Line) : closesInTurn isOpen (front ++ ls) = closesInTurn isOpen ls := by
  induction front with
  | nil => rfl
  | cons l front ih =>
    have hl := h l List.mem_cons_self
    have hrest := ih fun m hm => h m (List.mem_cons_of_mem l hm)
    rw [List.cons_append]
    cases l with
    | opens name title => exact absurd hl Bool.noConfusion
    | closes => exact absurd hl Bool.noConfusion
    | _ => exact hrest

/-- A block is closed before the next one opens. -/
theorem closesInTurn_printed (bs : List (Text × Block.Draft)) (ls : List Line) :
    closesInTurn false (Block.printed bs ++ ls) = closesInTurn false ls := by
  induction bs with
  | nil => rfl
  | cons b bs ih =>
    rw [Block.printed_cons_append, closesInTurn,
      closesInTurn_append (isFence_of_mem_map_member b.2.members), closesInTurn, ih]
    rfl

end Line

namespace Diagram

variable {p : LabelPolicy} {d : Diagram}

theorem closesInTurn_toLines (o : CompileOptions) (d : Diagram) :
    Line.closesInTurn false (d.toLines o) = true := by
  rcases exists_toLines_eq o d with ⟨front, back, hlines, hfront, hback⟩
  have hrest : Line.closesInTurn false back = true := by
    have hcloses := Line.closesInTurn_append hback false []
    rwa [List.append_nil] at hcloses
  rw [hlines, Line.closesInTurn_append hfront, Line.closesInTurn_printed, hrest]

/-- The lines that name a member are those of the blocks. -/
theorem exists_block_of_member_mem {o : CompileOptions} {id : Text}
    (h : Line.member id ∈ d.toLines o) : ∃ b ∈ d.blocks o, id ∈ b.members := by
  rw [toLines, List.mem_cons, List.mem_append, List.mem_append] at h
  rcases h with h | h | h | h
  · exact Line.noConfusion h
  · rcases List.mem_flatMap.1 h with ⟨n, -, h⟩
    rcases Node.eq_of_mem_toLines h with ⟨_, _, _, heq⟩ | ⟨_, heq⟩
    · exact Line.noConfusion heq
    · exact Line.noConfusion heq
  · rcases List.mem_flatMap.1 h with ⟨b, hb, h⟩
    rcases Block.mem_toLines.1 h with h | ⟨m, hm, h⟩ | h
    · exact Line.noConfusion h
    · -- Naming the blocks leaves their members.
      have hmem := List.mem_map_of_mem (f := Prod.snd) hb
      rw [Block.map_snd_named] at hmem
      exact ⟨b.2, hmem, Line.member.inj h ▸ hm⟩
    · exact Line.noConfusion h
  · rcases List.mem_map.1 h with ⟨e, -, h⟩
    exact Line.noConfusion h

/-! ### Groups -/

/-- Nodes of different groups are different, so no id is in two groups. -/
theorem IsCanonical.nodup_members_groupBlocks (h : d.IsCanonical p) :
    (d.groupBlocks.flatMap Block.Draft.members).Nodup := by
  have hids : (d.looseNodes.map Node.id).Nodup := h.ids.sublist (List.filter_sublist.map Node.id)
  rw [groupBlocks, List.flatMap_map, List.nodup_flatMap]
  refine ⟨fun g _ => hids.sublist (List.filter_sublist.map Node.id), ?_⟩
  -- A node that is in two groups would name both of them.
  refine (nodup_firsts_id _).imp fun {g k} hne id hg hk => hne ?_
  rcases List.mem_map.1 hg with ⟨m, hm, rfl⟩
  rcases List.mem_map.1 hk with ⟨n, hn, hid⟩
  rw [List.mem_filter, decide_eq_true_eq] at hm hn
  have hmn : n = m := List.inj_on_of_nodup_map hids hn.1 hm.1 hid
  rw [hmn, hm.2] at hn
  exact Option.some.inj hn.2

/-- What is in a subgraph is in no group. -/
theorem notMem_of_mem_groupBlocks {id : Text} (h : id ∈ d.groupBlocks.flatMap Block.Draft.members) :
    ∀ s ∈ d.subgraphs, id ∉ s.members := by
  rcases List.mem_flatMap.1 h with ⟨b, hb, hid⟩
  rcases List.mem_map.1 hb with ⟨g, -, rfl⟩
  rcases List.mem_map.1 hid with ⟨n, hn, rfl⟩
  have hloose := (List.mem_filter.1 (List.mem_filter.1 hn).1).2
  rw [Bool.and_eq_true, Bool.not_eq_true', List.any_eq_false] at hloose
  exact fun s hs hmem => hloose.2 s hs (List.contains_iff_mem.2 hmem)

end Diagram

/-- The ids of the nodes that some lines declare. -/
def Line.declared (ls : List Line) : List Text := (ls.filterMap Line.declared?).map (·.1)

/-- Lines with blocks for subgraphs and then for groups, each block with its name,
    its title and its members, that are set apart from one another. -/
structure Line.IsOrderly (subgraphs groups : List (Text × Text × List Text)) (ls : List Line) :
    Prop where
  blocks : Line.blocks ls = subgraphs ++ groups
  names : ((Line.blocks ls).map (·.1) ++ Line.declared ls).Nodup
  closed : Line.closesInTurn false ls = true
  members : ∀ id, Line.member id ∈ ls → id ∈ Line.declared ls
  grouped : (groups.flatMap (·.2.2)).Nodup
  loose : ∀ id ∈ groups.flatMap (·.2.2), id ∉ subgraphs.flatMap (·.2.2)

namespace Diagram

variable {p : LabelPolicy} {d : Diagram}

theorem declared_toLines (o : CompileOptions) (d : Diagram) :
    Line.declared (d.toLines o) = d.nodes.map Node.id := by
  rw [Line.declared, filterMap_declared?_toLines, List.map_map]
  rfl

theorem map_snd_blocks_toLines (o : CompileOptions) (d : Diagram) :
    (Line.blocks (d.toLines o)).map Prod.snd
      = (d.subgraphs.map fun s => (s.title, s.members))
        ++ (if o.emitGroups then d.groupBlocks else []).map fun b => (b.title, b.members) := by
  have hdrafts : (Line.blocks (d.toLines o)).map Prod.snd
      = ((Block.named (d.nodes.map Node.id) (d.blocks o)).map Prod.snd).map
        fun b => (b.title, b.members) := by
    rw [blocks_toLines, List.map_map, List.map_map]
    rfl
  rw [hdrafts, Block.map_snd_named, Diagram.blocks, List.map_append, map_subgraphBlocks]

/-- The lines of a canonical diagram are orderly, with its subgraphs and, if asked
    for, its groups for blocks. -/
theorem IsCanonical.isOrderly_toLines (h : d.IsCanonical p) (o : CompileOptions) :
    ∃ subgraphs groups,
      subgraphs.map (·.2) = (d.subgraphs.map fun s => (s.title, s.members)) ∧
      groups.map (·.2)
        = (if o.emitGroups then d.groupBlocks else []).map (fun b => (b.title, b.members)) ∧
      Line.IsOrderly subgraphs groups (d.toLines o) := by
  -- The blocks of subgraphs come first, so those of groups are the rest.
  rcases List.map_eq_append_iff.1 (map_snd_blocks_toLines o d)
    with ⟨subgraphs, groups, hblocks, hsubgraphs, hgroups⟩
  have hlisted : subgraphs.flatMap (·.2.2) = d.subgraphs.flatMap Subgraph.members := by
    have hmap := congrArg (List.flatMap Prod.snd) hsubgraphs
    rwa [List.flatMap_map, List.flatMap_map] at hmap
  have hgrouped : groups.flatMap (·.2.2)
      = (if o.emitGroups then d.groupBlocks else []).flatMap Block.Draft.members := by
    have hmap := congrArg (List.flatMap Prod.snd) hgroups
    rwa [List.flatMap_map, List.flatMap_map] at hmap
  have hnames : (Line.blocks (d.toLines o)).map (·.1)
      = (Block.named (d.nodes.map Node.id) (d.blocks o)).map Prod.fst := by
    rw [blocks_toLines, List.map_map]
    rfl
  refine ⟨subgraphs, groups, hsubgraphs, hgroups, hblocks, ?_, closesInTurn_toLines o d,
    fun id hid => ?_, ?_, fun id hid hmem => ?_⟩
  · rw [hnames, declared_toLines]
    exact Block.nodup_named h.ids _
  · rcases exists_block_of_member_mem hid with ⟨b, hb, hmem⟩
    rw [declared_toLines]
    exact h.mem_of_mem_blocks hb hmem
  · rw [hgrouped]
    split
    · exact h.nodup_members_groupBlocks
    · exact List.nodup_nil
  · rw [hgrouped] at hid
    rw [hlisted] at hmem
    rcases List.mem_flatMap.1 hmem with ⟨s, hs, hmem⟩
    split at hid
    · exact notMem_of_mem_groupBlocks hid s hs hmem
    · exact absurd hid List.not_mem_nil

/-- A diagram that was made canonical has a text whatever the options, and the text
    is orderly: its blocks are the subgraphs and, if asked for, the groups, and they
    are set apart from one another and from the nodes. -/
theorem isOrderly_text?_canonical (p : LabelPolicy) (o : CompileOptions) (d : Diagram) :
    ∃ t ls subgraphs groups, (d.canonical p).text? o = some t ∧
      (Text.segments t).mapM Line.ofText? = some ls ∧
      subgraphs.map (·.2) = ((d.canonical p).subgraphs.map fun s => (s.title, s.members)) ∧
      groups.map (·.2) = (if o.emitGroups then (d.canonical p).groupBlocks else []).map
        (fun b => (b.title, b.members)) ∧
      Line.IsOrderly subgraphs groups ls := by
  have h := isCanonical_canonical p d
  -- There is a text since the checker accepts one, and its lines are known.
  rcases h.check_text? o with ⟨t, ht, -⟩
  have hread := h.mapM_ofText?_text o
  rw [text, ht, Option.getD_some] at hread
  rcases h.isOrderly_toLines o with ⟨subgraphs, groups, hsubgraphs, hgroups, horderly⟩
  exact ⟨t, _, subgraphs, groups, ht, hread, hsubgraphs, hgroups, horderly⟩

end Diagram

end Flowchart
