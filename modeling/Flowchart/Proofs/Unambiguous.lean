import Flowchart.Proofs.Line
import Flowchart.Proofs.Verdict

/-!
# What a Text Says

The text of a canonical diagram says what the diagram looks like: where it
flows, its nodes with their shapes and the lines of their labels, its edges with
their labels, and its subgraphs with their titles and members. All of that can
be read off the text, so diagrams with one text look the same. A build relies on
that when it takes a text that it has seen before for a diagram that it has seen
before.

The text is put together from sound lines, and these are read back one by one.
Nodes and edges are then picked from the lines. Subgraphs are blocks, and so are
groups, which look just like them. They differ in their names, which start in
one of two ways, and lengthening a name that is taken leaves its start alone.

## Main definitions

* `Diagram.View`: What is printed of a diagram.
* `Diagram.view?`: What is printed of a diagram whose labels wrap.
* `Diagram.View.read?`: What a text says.

## Theorems

* `Diagram.IsCanonical.isSound_toLines`: Canonical diagrams print sound lines.
* `Diagram.IsCanonical.mapM_ofText?_text`: The lines are read back from the text.
* `Diagram.IsCanonical.read?_text`: What is printed is read back.
* `Diagram.view?_eq_of_text_eq`: Diagrams with one text look the same.
-/

namespace Flowchart

open Identifier

/-! ### Labels have lines -/

theorem Wrap.length_changeLast? {change : Text → Option Text} {lines changed : List Text}
    (h : changeLast? change lines = some changed) : changed.length = lines.length := by
  fun_induction changeLast? change lines generalizing changed with
  | case1 =>
    rw [Option.some.injEq] at h
    rw [← h]
  | case2 line =>
    rcases Option.map_eq_some_iff.1 h with ⟨line', -, rfl⟩
    rfl
  | case3 line lines _ ih =>
    rcases Option.map_eq_some_iff.1 h with ⟨rest, hrest, rfl⟩
    rw [List.length_cons, List.length_cons, ih hrest]

/-- A wrapped text has at least one line. -/
theorem Text.ne_nil_of_wrap? {t : Text} {width maxLines : Nat} {lines : List Text}
    (h : t.wrap? width maxLines = some lines) : lines ≠ [] := by
  unfold wrap? at h
  split at h
  · rw [← Option.some.inj h]
    exact List.cons_ne_nil _ _
  · dsimp only at h
    split at h
    · rw [← Option.some.inj h]
      exact List.cons_ne_nil _ _
    · rename_i hempty
      rw [List.isEmpty_iff] at hempty
      split at h
      · -- Shortening the last line leaves as many as there were.
        rw [← List.length_pos_iff, Wrap.length_changeLast? h, List.length_pos_iff]
        exact hempty
      · rw [← Option.some.inj h]
        exact hempty

/-! ### Lines of nodes -/

namespace Node

variable {p : LabelPolicy} {n : Node}

/-- The lines of a label that wraps. -/
def drawnLines (width : Nat) (o : CompileOptions) (n : Node) : List Text :=
  (n.printedLines? width o.maxWrappedLines).getD []

/-- The lines that a node is printed as, as data. -/
def toLines (width : Nat) (o : CompileOptions) (n : Node) : List Line :=
  .node n.id n.shape (n.drawnLines width o) ::
    if o.emitBridges then (n.bridge.map fun b => .comment ((n.bridgeComment b).drop 2)).toList
    else []

theorem printedLines?_ne_nil {width maxLines : Nat} {lines : List Text}
    (h : n.printedLines? width maxLines = some lines) : lines ≠ [] := by
  unfold printedLines? at h
  split at h
  · rw [← Option.some.inj h]
    exact List.cons_ne_nil _ _
  · exact Text.ne_nil_of_wrap? h

/-- The lines of a canonical label exist, and they can be told apart when they
    are joined. -/
theorem IsCanonical.drawnLines_spec (h : n.IsCanonical p) (width : Nat) (o : CompileOptions) :
    n.printedLines? width o.maxWrappedLines = some (n.drawnLines width o) ∧
      n.drawnLines width o ≠ [] ∧ ∀ l ∈ n.drawnLines width o, '<' ∉ l ∧ '\n' ∉ l := by
  rcases h.printedLines? width o.maxWrappedLines with ⟨lines, hlines, hallowed⟩
  have hdrawn : n.drawnLines width o = lines := by
    rw [drawnLines, hlines, Option.getD_some]
  rw [hdrawn]
  refine ⟨hlines, printedLines?_ne_nil hlines, fun l hl => ⟨fun hangle => ?_, fun hfeed => ?_⟩⟩
  · -- No rules for labels allow angle brackets or what is not printable.
    have hnot := LabelRules.not_isAngle_of_allows (r := .ofPolicy p) rfl (hallowed l hl _ hangle).1
    exact absurd hnot (by decide)
  · have hprint := LabelRules.isPrintable_of_allows (hallowed l hl _ hfeed).1
    exact absurd hprint (by decide)

theorem IsCanonical.lines?_eq (h : n.IsCanonical p) (width : Nat) (o : CompileOptions) :
    n.lines? width o = some ((n.toLines width o).map Line.text) := by
  rw [Node.lines?, (h.drawnLines_spec width o).1, Option.map_some, toLines, List.map_cons]
  split
  · rcases n.bridge with _ | b
    · rfl
    · rfl
  · rfl

theorem IsCanonical.isSound_toLines (h : n.IsCanonical p) (width : Nat) (o : CompileOptions) :
    ∀ l ∈ n.toLines width o, l.IsSound := by
  intro l hl
  rcases List.mem_cons.1 hl with rfl | hl
  · exact ⟨h.name, (h.drawnLines_spec width o).2⟩
  · split at hl
    · rcases Option.map_eq_some_iff.1 (Option.mem_toList.1 hl) with ⟨b, -, rfl⟩
      exact trivial
    · exact absurd hl List.not_mem_nil

end Node

/-! ### Lines of edges -/

namespace Edge

/-- The line that an edge is printed as, as data. -/
def toLine (e : Edge) : Line := .edge e.source e.target e.label

theorem IsCanonical.isSound_toLine {hasNode : Text → Bool} {e : Edge}
    (h : e.IsCanonical hasNode) : e.toLine.IsSound := by
  refine ⟨h.source.1, fun t ht hangle => ?_⟩
  have hallowed := (h.label t ht).1.allowed _ hangle
  have hnot := LabelRules.not_isAngle_of_allows (r := .strict) rfl hallowed
  exact absurd hnot (by decide)

end Edge

/-! ### Lines of blocks -/

namespace Block

/-- The lines of a block, as data. -/
def toLines (name title : Text) (members : List Text) : List Line :=
  .opens name title :: members.map .member ++ [.closes]

/-- Blocks with the names that they are given one after the other. -/
def named (taken : List Text) : List Draft → List (Text × Draft)
  | [] => []
  | b :: bs =>
    let name := freeName taken b.wanted
    (name, b) :: named (name :: taken) bs

/-- The lines of named blocks. -/
def printed (bs : List (Text × Draft)) : List Line :=
  bs.flatMap fun b => toLines b.1 b.2.title b.2.members

theorem mem_toLines {name title : Text} {members : List Text} {l : Line} :
    l ∈ toLines name title members ↔
      l = .opens name title ∨ (∃ id ∈ members, .member id = l) ∨ l = .closes := by
  rw [toLines, List.cons_append, List.mem_cons, List.mem_append, List.mem_map, List.mem_singleton]

theorem map_text_toLines (name title : Text) (members : List Text) :
    (toLines name title members).map Line.text = lines name title members := by
  rw [toLines, List.map_append, List.map_cons, List.map_map]
  rfl

theorem map_text_printed (taken : List Text) (bs : List Draft) :
    (printed (named taken bs)).map Line.text = print taken bs := by
  induction bs generalizing taken with
  | nil => rfl
  | cons b bs ih =>
    have hrest := ih (freeName taken b.wanted :: taken)
    rw [printed] at hrest ⊢
    rw [named, List.flatMap_cons, List.map_append, hrest, map_text_toLines, print]

/-- The first block comes first, up to where it is closed. -/
theorem printed_cons_append (b : Text × Draft) (bs : List (Text × Draft)) (ls : List Line) :
    printed (b :: bs) ++ ls
      = .opens b.1 b.2.title :: (b.2.members.map .member ++ .closes :: (printed bs ++ ls)) := by
  rw [printed, List.flatMap_cons, toLines, ← printed]
  simp only [List.append_assoc, List.cons_append, List.nil_append]

/-- Lengthening leaves the start of a name alone. -/
theorem isPrefix_lengthen (taken : List Text) (more : Nat) (t : Text) :
    t <+: lengthen taken more t := by
  induction more generalizing t with
  | zero => exact List.prefix_rfl
  | succ more ih =>
    rw [lengthen]
    split
    · exact (List.prefix_append t ['_']).trans (ih _)
    · exact List.prefix_rfl

/-- What a block is named for can be seen from its name. -/
theorem isPrefixOf_of_isPrefix {wanted name : Text} (h : IsName wanted) (hname : wanted <+: name) :
    "sg".toList.isPrefixOf name = "sg".toList.isPrefixOf wanted := by
  rcases h.start with hsg | hgrp
  · rw [List.isPrefixOf_iff_prefix.2 hsg, List.isPrefixOf_iff_prefix.2 (hsg.trans hname)]
  · rcases hgrp with ⟨s, rfl⟩
    rcases hname with ⟨t, rfl⟩
    rfl

/-- Every block is given a name. -/
theorem map_snd_named (taken : List Text) (bs : List Draft) :
    (named taken bs).map Prod.snd = bs := by
  induction bs generalizing taken with
  | nil => rfl
  | cons b bs ih => rw [named, List.map_cons, ih]

/-- The names that blocks are given start as their wanted ones do. -/
theorem named_spec {bs : List Draft} (h : ∀ b ∈ bs, b.IsSound) (taken : List Text) :
    ∀ b ∈ named taken bs, IsName b.1 ∧
      "sg".toList.isPrefixOf b.1 = "sg".toList.isPrefixOf b.2.wanted := by
  induction bs generalizing taken with
  | nil => exact fun b hb => absurd hb List.not_mem_nil
  | cons b bs ih =>
    have hb := (h b List.mem_cons_self).wanted
    -- The name just given is taken for the blocks to come.
    have hrest := ih (fun c hc => h c (List.mem_cons_of_mem b hc))
      (freeName taken b.wanted :: taken)
    intro c hc
    rw [named] at hc
    rcases List.mem_cons.1 hc with rfl | hc
    · exact ⟨isName_lengthen hb, isPrefixOf_of_isPrefix hb (isPrefix_lengthen _ _ _)⟩
    · exact hrest c hc

end Block

/-! ### Reading lines -/

namespace Line

/-- The node that a line declares. -/
def declared? : Line → Option (Text × Shape × List Text)
  | node id shape label => some (id, shape, label)
  | _ => none

/-- The edge that a line draws. -/
def drawn? : Line → Option (Text × Text × Option Text)
  | edge source target label => some (source, target, label)
  | _ => none

/-- The line opens or closes a block. -/
def isFence : Line → Bool
  | opens _ _ => true
  | closes => true
  | _ => false

theorem isFence_of_mem_map_member (ids : List Text) : ∀ l ∈ ids.map member, l.isFence = false := by
  intro l hl
  rcases List.mem_map.1 hl with ⟨id, -, rfl⟩
  rfl

/-- The members that are named at the front of some lines. -/
def members : List Line → List Text
  | member id :: ls => id :: members ls
  | _ => []

/-- The blocks in some lines, each with its name, its title and its members. -/
def blocks : List Line → List (Text × Text × List Text)
  | opens name title :: ls => (name, title, members ls) :: blocks ls
  | _ :: ls => blocks ls
  | [] => []

theorem members_append (ids : List Text) (ls : List Line) :
    members (ids.map member ++ closes :: ls) = ids := by
  induction ids with
  | nil => rfl
  | cons id ids ih => rw [List.map_cons, List.cons_append, members, ih]

/-- Lines that open and close no block are passed over. -/
theorem blocks_append {front : List Line} (h : ∀ l ∈ front, l.isFence = false) (ls : List Line) :
    blocks (front ++ ls) = blocks ls := by
  induction front with
  | nil => rfl
  | cons l front ih =>
    have hrest := ih fun m hm => h m (List.mem_cons_of_mem l hm)
    rw [List.cons_append, blocks, hrest]
    rintro name title rfl
    exact absurd (h _ List.mem_cons_self) Bool.noConfusion

theorem blocks_printed (bs : List (Text × Block.Draft)) (ls : List Line) :
    blocks (Block.printed bs ++ ls)
      = bs.map (fun b => (b.1, b.2.title, b.2.members)) ++ blocks ls := by
  induction bs with
  | nil => rfl
  | cons b bs ih =>
    have hcloses : blocks (closes :: (Block.printed bs ++ ls)) = blocks (Block.printed bs ++ ls) :=
      rfl
    rw [Block.printed_cons_append, blocks, members_append,
      blocks_append (isFence_of_mem_map_member b.2.members), hcloses, ih, List.map_cons,
      List.cons_append]

end Line

/-- The lines of a node declare it or are comments. -/
theorem Node.eq_of_mem_toLines {width : Nat} {o : CompileOptions} {n : Node} {l : Line}
    (hl : l ∈ n.toLines width o) :
    (∃ id shape label, l = .node id shape label) ∨ ∃ remark, l = .comment remark := by
  rcases List.mem_cons.1 hl with rfl | hl
  · exact Or.inl ⟨_, _, _, rfl⟩
  · split at hl
    · rcases Option.map_eq_some_iff.1 (Option.mem_toList.1 hl) with ⟨b, -, rfl⟩
      exact Or.inr ⟨_, rfl⟩
    · exact absurd hl List.not_mem_nil

/-- A node is declared by the first of its lines, and the others say nothing of
    the drawing. -/
theorem Node.toLines_spec (width : Nat) (o : CompileOptions) (n : Node) :
    (n.toLines width o).filterMap Line.declared? = [(n.id, n.shape, n.drawnLines width o)] ∧
      (n.toLines width o).filterMap Line.drawn? = [] ∧
      ∀ l ∈ n.toLines width o, l.isFence = false := by
  refine ⟨?_, ?_, fun l hl => ?_⟩
  · rw [toLines]
    split
    · cases n.bridge <;> rfl
    · rfl
  · rw [toLines]
    split
    · cases n.bridge <;> rfl
    · rfl
  · rcases eq_of_mem_toLines hl with ⟨id, shape, label, rfl⟩ | ⟨remark, rfl⟩
    · rfl
    · rfl

/-- An edge is drawn by its line. -/
theorem Edge.map_toLine_spec (es : List Edge) :
    (es.map toLine).filterMap Line.declared? = [] ∧
      (es.map toLine).filterMap Line.drawn? = es.map signature ∧
      ∀ l ∈ es.map toLine, l.isFence = false := by
  refine ⟨?_, ?_, fun l hl => ?_⟩
  · rw [List.filterMap_map]
    exact List.filterMap_eq_nil_iff.2 fun _ _ => rfl
  · have hdrawn : Line.drawn? ∘ toLine = some ∘ signature := rfl
    rw [List.filterMap_map, hdrawn, List.filterMap_eq_map]
  · rcases List.mem_map.1 hl with ⟨e, -, rfl⟩
    rfl

namespace Block

/-- Blocks declare no node and draw no edge. -/
theorem printed_spec (bs : List (Text × Draft)) :
    (printed bs).filterMap Line.declared? = [] ∧ (printed bs).filterMap Line.drawn? = [] := by
  have hnone : ∀ l ∈ printed bs, l.declared? = none ∧ l.drawn? = none := by
    intro l hl
    rcases List.mem_flatMap.1 hl with ⟨b, -, hl⟩
    rcases mem_toLines.1 hl with rfl | ⟨id, -, rfl⟩ | rfl
    · exact ⟨rfl, rfl⟩
    · exact ⟨rfl, rfl⟩
    · exact ⟨rfl, rfl⟩
  exact ⟨List.filterMap_eq_nil_iff.2 fun l hl => (hnone l hl).1,
    List.filterMap_eq_nil_iff.2 fun l hl => (hnone l hl).2⟩

/-- The blocks of one kind can be picked by the names they were given. -/
theorem map_filter_named {bs : List Draft} (h : ∀ b ∈ bs, b.IsSound) (taken : List Text) :
    (((named taken bs).map fun b => (b.1, b.2.title, b.2.members)).filter
        fun b => "sg".toList.isPrefixOf b.1).map (·.2)
      = (bs.filter fun b => "sg".toList.isPrefixOf b.wanted).map fun b => (b.title, b.members) := by
  -- Names are lengthened at the end only, so they start as the wanted ones do.
  have hkind : (named taken bs).filter (fun b => "sg".toList.isPrefixOf b.1)
      = (named taken bs).filter fun b => "sg".toList.isPrefixOf b.2.wanted :=
    List.filter_congr fun b hb => (named_spec h taken b hb).2
  calc (((named taken bs).map fun b => (b.1, b.2.title, b.2.members)).filter
        fun b => "sg".toList.isPrefixOf b.1).map (·.2)
      = ((named taken bs).filter fun b => "sg".toList.isPrefixOf b.1).map
          fun b => (b.2.title, b.2.members) := by
        rw [List.filter_map, List.map_map]
        rfl
    _ = (((named taken bs).map Prod.snd).filter fun b => "sg".toList.isPrefixOf b.wanted).map
          fun b => (b.title, b.members) := by
        rw [hkind, List.filter_map, List.map_map]
        rfl
    _ = (bs.filter fun b => "sg".toList.isPrefixOf b.wanted).map
          fun b => (b.title, b.members) := by rw [map_snd_named]

end Block

namespace Diagram

/-- What is printed of a diagram. -/
structure View where
  direction : Direction
  nodes : List (Text × Shape × List Text)
  edges : List (Text × Text × Option Text)
  subgraphs : List (Text × List Text)
deriving DecidableEq, Repr

/-- What is printed of a diagram, if its labels wrap. -/
def view? (o : CompileOptions) (d : Diagram) : Option View :=
  (d.nodes.mapM fun (n : Node) => (n.printedLines? (d.wrapWidth o) o.maxWrappedLines).map fun lines =>
    (n.id, n.shape, lines)).map fun nodes =>
      { direction := d.direction
        nodes
        edges := d.edges.map Edge.signature
        subgraphs := d.subgraphs.map fun s => (s.title, s.members) }

namespace View

/-- What some lines say. -/
def ofLines? : List Line → Option View
  | .header direction :: ls =>
    some
      { direction
        nodes := ls.filterMap Line.declared?
        edges := ls.filterMap Line.drawn?
        subgraphs := ((Line.blocks ls).filter fun b => "sg".toList.isPrefixOf b.1).map (·.2) }
  | _ => none

/-- What a text says. -/
def read? (t : Text) : Option View := ((Text.segments t).mapM Line.ofText?).bind ofLines?

end View

/-- The lines of a diagram, as data. -/
def toLines (o : CompileOptions) (d : Diagram) : List Line :=
  .header d.direction :: (d.nodes.flatMap (Node.toLines (d.wrapWidth o) o)
    ++ (Block.printed (Block.named (d.nodes.map Node.id) (d.blocks o)) ++ d.edges.map Edge.toLine))

variable {p : LabelPolicy} {d : Diagram}

theorem IsCanonical.isSound_toLines (h : d.IsCanonical p) (o : CompileOptions) :
    ∀ l ∈ d.toLines o, l.IsSound := by
  intro l hl
  rw [toLines, List.mem_cons, List.mem_append, List.mem_append] at hl
  -- A line is the header, or it is one of a node, a block or an edge.
  rcases hl with rfl | hl | hl | hl
  · exact trivial
  · rcases List.mem_flatMap.1 hl with ⟨n, hn, hl⟩
    exact (h.nodes n hn).isSound_toLines _ o l hl
  · rcases List.mem_flatMap.1 hl with ⟨b, hb, hl⟩
    have hname := (Block.named_spec (h.isSound_blocks o) _ b hb).1
    rcases Block.mem_toLines.1 hl with rfl | ⟨id, -, rfl⟩ | rfl
    · exact hname.isName
    · exact trivial
    · exact trivial
  · rcases List.mem_map.1 hl with ⟨e, he, rfl⟩
    exact (h.edges e he).isSound_toLine

theorem IsCanonical.lines?_eq (h : d.IsCanonical p) (o : CompileOptions) :
    d.lines? o = some ((d.toLines o).map Line.text) := by
  have hnode : ∀ n ∈ d.nodes, n.lines? (d.wrapWidth o) o
      = some ((n.toLines (d.wrapWidth o) o).map Line.text) := fun n hn =>
    (h.nodes n hn).lines?_eq _ o
  rw [Diagram.lines?, mapM_eq_some_map hnode, Option.map_some, toLines, List.map_cons,
    List.map_append, List.map_append, Block.map_text_printed, List.map_flatMap, List.map_map,
    ← List.flatMap_def, List.append_assoc]
  rfl

theorem IsCanonical.view?_eq (h : d.IsCanonical p) (o : CompileOptions) :
    d.view? o = some
      { direction := d.direction
        nodes := d.nodes.map fun n => (n.id, n.shape, n.drawnLines (d.wrapWidth o) o)
        edges := d.edges.map Edge.signature
        subgraphs := d.subgraphs.map fun s => (s.title, s.members) } := by
  have hnode : ∀ n ∈ d.nodes,
      (n.printedLines? (d.wrapWidth o) o.maxWrappedLines).map (fun lines => (n.id, n.shape, lines))
        = some (n.id, n.shape, n.drawnLines (d.wrapWidth o) o) := by
    intro n hn
    rw [((h.nodes n hn).drawnLines_spec _ o).1, Option.map_some]
  rw [view?, mapM_eq_some_map hnode, Option.map_some]

/-! ### Reading a diagram back -/

theorem filterMap_declared?_toLines (o : CompileOptions) (d : Diagram) :
    (d.toLines o).filterMap Line.declared?
      = d.nodes.map fun n => (n.id, n.shape, n.drawnLines (d.wrapWidth o) o) := by
  have hheader : Line.declared? (.header d.direction) = none := rfl
  have hnodes : (fun n : Node => (n.toLines (d.wrapWidth o) o).filterMap Line.declared?)
      = fun n => [(n.id, n.shape, n.drawnLines (d.wrapWidth o) o)] :=
    funext fun n => (n.toLines_spec (d.wrapWidth o) o).1
  rw [toLines, List.filterMap_cons_none hheader, List.filterMap_append, List.filterMap_append,
    (Block.printed_spec _).1, (Edge.map_toLine_spec _).1, List.filterMap_flatMap, hnodes,
    ← List.map_eq_flatMap, List.append_nil, List.append_nil]

theorem filterMap_drawn?_toLines (o : CompileOptions) (d : Diagram) :
    (d.toLines o).filterMap Line.drawn? = d.edges.map Edge.signature := by
  have hheader : Line.drawn? (.header d.direction) = none := rfl
  have hnodes : (fun n : Node => (n.toLines (d.wrapWidth o) o).filterMap Line.drawn?)
      = fun _ => [] := funext fun n => (n.toLines_spec (d.wrapWidth o) o).2.1
  rw [toLines, List.filterMap_cons_none hheader, List.filterMap_append, List.filterMap_append,
    (Block.printed_spec _).2, (Edge.map_toLine_spec _).2.1, List.filterMap_flatMap, hnodes,
    flatMap_const_nil, List.nil_append, List.nil_append]

/-- No block is opened or closed before the blocks, where there are nodes, or after
    them, where there are edges. -/
theorem exists_toLines_eq (o : CompileOptions) (d : Diagram) :
    ∃ front back, d.toLines o
        = front ++ (Block.printed (Block.named (d.nodes.map Node.id) (d.blocks o)) ++ back) ∧
      (∀ l ∈ front, l.isFence = false) ∧ ∀ l ∈ back, l.isFence = false := by
  refine ⟨.header d.direction :: d.nodes.flatMap (Node.toLines (d.wrapWidth o) o),
    d.edges.map Edge.toLine, rfl, fun l hl => ?_, (Edge.map_toLine_spec d.edges).2.2⟩
  rcases List.mem_cons.1 hl with rfl | hl
  · rfl
  · rcases List.mem_flatMap.1 hl with ⟨n, -, hl⟩
    exact (n.toLines_spec (d.wrapWidth o) o).2.2 l hl

theorem blocks_toLines (o : CompileOptions) (d : Diagram) :
    Line.blocks (d.toLines o) = (Block.named (d.nodes.map Node.id) (d.blocks o)).map
      fun b => (b.1, b.2.title, b.2.members) := by
  rcases exists_toLines_eq o d with ⟨front, back, hlines, hfront, hback⟩
  have hrest : Line.blocks back = [] := by
    have hblocks := Line.blocks_append hback []
    rwa [List.append_nil] at hblocks
  rw [hlines, Line.blocks_append hfront, Line.blocks_printed, hrest, List.append_nil]

theorem map_subgraphBlocks (d : Diagram) :
    d.subgraphBlocks.map (fun b => (b.title, b.members))
      = d.subgraphs.map fun s => (s.title, s.members) := by
  have hzip : d.subgraphBlocks.map (fun b => (b.title, b.members))
      = (d.subgraphs.zipIdx.map Prod.fst).map fun s => (s.title, s.members) := by
    rw [subgraphBlocks, List.map_map, List.map_map]
    rfl
  rw [hzip, List.zipIdx_map_fst]

/-- The blocks whose names start as those of subgraphs do are those of the
    subgraphs. -/
theorem filter_blocks (o : CompileOptions) (d : Diagram) :
    ((d.blocks o).filter fun b => "sg".toList.isPrefixOf b.wanted).map
        (fun b => (b.title, b.members))
      = d.subgraphs.map fun s => (s.title, s.members) := by
  have hsubgraphs : d.subgraphBlocks.filter (fun b => "sg".toList.isPrefixOf b.wanted)
      = d.subgraphBlocks := by
    refine List.filter_eq_self.2 fun b hb => ?_
    rcases List.mem_map.1 hb with ⟨s, -, rfl⟩
    rfl
  -- Groups want names that start otherwise, whether they are printed or not.
  have hgroups : (if o.emitGroups then d.groupBlocks else []).filter
      (fun b => "sg".toList.isPrefixOf b.wanted) = [] := by
    refine List.filter_eq_nil_iff.2 fun b hb => ?_
    split at hb
    · rcases List.mem_map.1 hb with ⟨g, -, rfl⟩
      exact Bool.false_ne_true
    · exact absurd hb List.not_mem_nil
  rw [blocks, List.filter_append, hsubgraphs, hgroups, List.append_nil, map_subgraphBlocks]

theorem IsCanonical.ofLines?_toLines (h : d.IsCanonical p) (o : CompileOptions) :
    View.ofLines? (d.toLines o) = d.view? o := by
  have hsubgraphs := Block.map_filter_named (h.isSound_blocks o) (d.nodes.map Node.id)
  rw [filter_blocks, ← blocks_toLines] at hsubgraphs
  rw [h.view?_eq, ← filterMap_declared?_toLines, ← filterMap_drawn?_toLines, ← hsubgraphs]
  rfl

/-- The text of a canonical diagram falls apart into its lines. -/
theorem IsCanonical.segments_text (h : d.IsCanonical p) (o : CompileOptions) :
    Text.segments (d.text o) = (d.toLines o).map Line.text := by
  rcases h.lines? o with ⟨ls, hlines, hsection⟩
  have htext : d.text o = Text.join ['\n'] (d.header :: ls) := by
    rw [text, text?, hlines, Option.map_some, Option.getD_some]
  have hall : (d.toLines o).map Line.text = d.header :: ls :=
    Option.some.inj ((h.lines?_eq o).symm.trans hlines)
  rw [htext, hall]
  -- The lines can be told apart again, since no line has a line feed of its own.
  refine Text.segments_join (fun l hl hfeed => ?_) (List.cons_ne_nil _ _)
  have hprint : ∀ c ∈ l, isPrintable c = true := by
    rcases List.mem_cons.1 hl with rfl | hl
    · exact Grammar.isPrintable_header d.direction
    · exact (hsection.printable l hl).2
  exact absurd (hprint '\n' hfeed) (by decide)

/-- The lines of a canonical diagram are read back from its text. -/
theorem IsCanonical.mapM_ofText?_text (h : d.IsCanonical p) (o : CompileOptions) :
    (Text.segments (d.text o)).mapM Line.ofText? = some (d.toLines o) := by
  have hread : ∀ l ∈ d.toLines o, (Line.ofText? ∘ Line.text) l = some (id l) := fun l hl =>
    Line.ofText?_text (h.isSound_toLines o l hl)
  rw [h.segments_text, List.mapM_map, mapM_eq_some_map hread, List.map_id]

/-- What is printed of a canonical diagram is read back from its text. -/
theorem IsCanonical.read?_text (h : d.IsCanonical p) (o : CompileOptions) :
    View.read? (d.text o) = d.view? o := by
  rw [View.read?, h.mapM_ofText?_text, Option.bind_some, h.ofLines?_toLines]

/-- Canonical diagrams with one text look the same, whatever they were made
    from. -/
theorem view?_eq_of_text_eq (o : CompileOptions) (p q : LabelPolicy) (d e : Diagram)
    (h : (d.canonical p).text o = (e.canonical q).text o) :
    ∃ v, (d.canonical p).view? o = some v ∧ (e.canonical q).view? o = some v := by
  have hd := isCanonical_canonical p d
  have he := isCanonical_canonical q e
  refine ⟨_, hd.view?_eq o, ?_⟩
  rw [← he.read?_text, ← h, hd.read?_text, hd.view?_eq]

/-- A node with a labelled edge to itself. -/
def loop (label : Text) : Diagram :=
  { nodes := [{ id := "a".toList }]
    edges := [{ source := "a".toList, target := "a".toList, label := some label }] }

/-- An arrow in a label is not an arrow in print: without its angle bracket and
    its second dash it looks like a label that never had them. -/
theorem view?_loop :
    ((loop "b-->c".toList).canonical .strict).text {}
        = ((loop "b-c".toList).canonical .permissive).text {} ∧
      ∃ v, ((loop "b-->c".toList).canonical .strict).view? {} = some v ∧
        ((loop "b-c".toList).canonical .permissive).view? {} = some v := by
  have htext : ((loop "b-->c".toList).canonical .strict).text {}
      = ((loop "b-c".toList).canonical .permissive).text {} := by
    decide +kernel
  exact ⟨htext, view?_eq_of_text_eq {} .strict .permissive _ _ htext⟩

end Diagram

end Flowchart
