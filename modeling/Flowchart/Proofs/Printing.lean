import Flowchart.Diagram.Text
import Flowchart.Proofs.Acceptance
import Flowchart.Proofs.Canonical
import Flowchart.Proofs.Wrap

/-!
# Printing Canonical Diagrams

Every canonical diagram has a text, whatever the options, and the grammar
accepts that text.

Each printed line is a statement that the grammar was shown to accept, so what
is left to do is to match the two. The label of a node may come out of wrapping
with dots and spaces that it did not have, and it is joined by line breaks, but
none of these is a quote or closes a shape. A block may be called by any name
that starts as block names do, since no keyword starts that way and underscores
at the end do not change it.

## Main definitions

* `Block.IsName`: A name that a block can have.
* `Block.Draft.IsSound`: A block that can be printed.

## Theorems

* `Node.IsCanonical.lines?`: The lines of a canonical node are a section.
* `Block.isSection_print`: The lines of sound blocks are a section.
* `Edge.IsCanonical.isSection_line`: So is the line of a canonical edge.
* `Diagram.check_text?_canonical`: The text of a canonical diagram exists and is
  accepted.
-/

namespace Flowchart

open Identifier Grammar

/-! ### Nodes -/

namespace Node

/-- What is drawn of a canonical node is allowed by its policy and does not
    close its shape. -/
theorem IsCanonical.allows_displayLabel {p : LabelPolicy} {n : Node} (h : n.IsCanonical p)
    {c : Char} (hc : c ∈ n.displayLabel) :
    (LabelRules.ofPolicy p).allows c = true ∧ c ≠ n.shape.closer := by
  unfold displayLabel at hc
  rcases hfind : n.segments.find? (!·.isBlankText) with _ | t
  · rw [hfind, Option.getD_none] at hc
    have hword := h.name.isWordChar c hc
    refine ⟨LabelRules.allows_of_isWordChar _ hword, ?_⟩
    rintro rfl
    exact absurd hword (by rw [Shape.not_isWordChar_closer]; decide)
  · rw [hfind, Option.getD_some] at hc
    have ht : t ∈ n.segments := List.mem_of_find?_eq_some hfind
    refine ⟨h.allows (mem_texts_of_mem_segments ht) hc, ?_⟩
    rintro rfl
    exact Shape.isSafe_iff.1 h.safe t ht hc

/-- The label of a canonical node has printed lines, of characters that its
    policy allows and that do not close its shape. -/
theorem IsCanonical.printedLines? {p : LabelPolicy} {n : Node} (h : n.IsCanonical p)
    (width maxLines : Nat) :
    ∃ lines, n.printedLines? width maxLines = some lines ∧
      ∀ l ∈ lines, ∀ c ∈ l, (LabelRules.ofPolicy p).allows c = true ∧ c ≠ n.shape.closer := by
  unfold Node.printedLines?
  -- Several label lines are printed as they are, a label is wrapped.
  split
  · rename_i first second rest hlines
    refine ⟨_, rfl, fun l hl c hc => ?_⟩
    have hseg : l ∈ n.segments := by
      rw [h.lines _ hlines]
      exact hl
    refine ⟨h.allows (mem_texts_of_mem_segments hseg) hc, ?_⟩
    rintro rfl
    exact Shape.isSafe_iff.1 h.safe l hseg hc
  · have hascii : ∀ c ∈ n.displayLabel, isAsciiChar c = true := fun c hc =>
      isAsciiChar_of_isPrintable (LabelRules.isPrintable_of_allows (h.allows_displayLabel hc).1)
    rcases Text.wrap?_of_isAscii hascii width maxLines with ⟨lines, hlines, hmem⟩
    refine ⟨lines, hlines, fun l hl c hc => ?_⟩
    rcases hmem l hl c hc with rfl | rfl | hc
    · exact ⟨LabelRules.allows_space _, (Shape.closer_ne_space _).symm⟩
    · exact ⟨by cases p <;> decide, by cases n.shape <;> decide⟩
    · exact h.allows_displayLabel hc

section Declaration

variable {p : LabelPolicy} {n : Node} {lines : List Text}
  (hlines : ∀ l ∈ lines, ∀ c ∈ l, (LabelRules.ofPolicy p).allows c = true ∧ c ≠ n.shape.closer)

include hlines

/-- Line breaks are printable too, and they hold no quote and no closing
    delimiter. -/
theorem of_mem_join_lineBreak {c : Char} (hc : c ∈ Text.join lineBreak lines) :
    isPrintable c = true ∧ c ≠ '"' ∧ c ≠ n.shape.closer := by
  -- A character is one of a line break or one of a line.
  rcases Text.mem_join hc with hc | ⟨l, hl, hc⟩
  · have hbreak : ∀ s : Shape,
        lineBreak.all (fun c => isPrintable c && c != '"' && c != s.closer) = true := by
      intro s
      cases s <;> decide
    have hc' := List.all_eq_true.1 (hbreak n.shape) c hc
    simp only [Bool.and_eq_true, bne_iff_ne] at hc'
    exact ⟨hc'.1.1, hc'.1.2, hc'.2⟩
  · rcases hlines l hl c hc with ⟨hallowed, hcloser⟩
    have hquote := LabelRules.not_isQuote_of_allows (r := .ofPolicy p) rfl hallowed
    refine ⟨LabelRules.isPrintable_of_allows hallowed, ?_, hcloser⟩
    rintro rfl
    exact absurd hquote (by decide)

theorem IsCanonical.isFirm_declaration (h : n.IsCanonical p) : IsFirm (n.declaration lines) := by
  have hdelimiters : ∀ s : Shape, isPrintable s.opener = true ∧ isPrintable s.closer = true ∧
      isBlank s.closer = false ∧ s.closer ≠ ';' := by
    intro s
    cases s <;> decide
  rcases (isFirm_name h.name).head with ⟨first, hfirst, hword⟩
  -- The declaration begins with the id and ends with the delimiter that closes it.
  refine isFirm_append ⟨first, by rw [List.head?_append, hfirst]; rfl, hword⟩
    (List.cons_ne_nil _ _) (fun c hc => ?_) fun c hc => ?_
  · have hc' : n.shape.closer = c := Option.some.inj hc
    exact hc' ▸ (hdelimiters n.shape).2.2
  · simp only [List.mem_append, List.mem_cons, List.not_mem_nil, or_false] at hc
    rcases hc with (hc | rfl | rfl | hc) | rfl | rfl
    · exact isPrintable_of_isWordChar (h.name.isWordChar c hc)
    · exact (hdelimiters n.shape).1
    · decide
    · exact (of_mem_join_lineBreak hlines hc).1
    · decide
    · exact (hdelimiters n.shape).2.1

/-- The declaration of a canonical node is a statement. -/
theorem IsCanonical.isSection_declaration (h : n.IsCanonical p) :
    IsSection [n.declaration lines] := by
  have hquote : '"' ∉ Text.join lineBreak lines := fun hm =>
    (of_mem_join_lineBreak hlines hm).2.1 rfl
  have hcloser : n.shape.closer ∉ Text.join lineBreak lines := fun hm =>
    (of_mem_join_lineBreak hlines hm).2.2 rfl
  exact Grammar.isSection_line (h.isFirm_declaration hlines) (statement_label h.name hquote hcloser)

end Declaration

/-- The comment on a bridge of a canonical node. -/
theorem IsCanonical.isSection_bridgeComment {p : LabelPolicy} {n : Node} (h : n.IsCanonical p)
    {b : Bridge} (hb : n.bridge = some b) : IsSection [n.bridgeComment b] := by
  have htarget : b.targetLabel ∈ n.texts := by
    rw [texts, hb]
    exact List.mem_append_right _ (List.mem_singleton.2 rfl)
  have hsplit : n.bridgeComment b = "%% ".toList ++ ("bridge ".toList ++ (n.id
      ++ " -> diagram ".toList ++ Text.ofNat b.toDiagram ++ ": ".toList ++ b.targetLabel)) := by
    have hword : "%% bridge ".toList = "%% ".toList ++ "bridge ".toList := rfl
    unfold bridgeComment
    rw [hword]
    simp only [List.append_assoc]
  have hhead : ∃ c, ("bridge ".toList ++ (n.id ++ " -> diagram ".toList
      ++ Text.ofNat b.toDiagram ++ ": ".toList ++ b.targetLabel)).head? = some c
      ∧ isWordChar c = true := by
    have hb : "bridge ".toList.head? = some 'b' := by decide
    exact ⟨'b', by rw [List.head?_append, hb]; rfl, by decide⟩
  refine isSection_comment hsplit hhead fun c hc => ?_
  -- What is left is to go through the pieces of the comment.
  have hfixed : ∀ t ∈ ["%% bridge ".toList, " -> diagram ".toList, ": ".toList],
      t.all isPrintable = true := by decide
  unfold bridgeComment at hc
  simp only [List.mem_append] at hc
  rcases hc with ((((hc | hc) | hc) | hc) | hc) | hc
  · exact List.all_eq_true.1 (hfixed _ List.mem_cons_self) c hc
  · exact isPrintable_of_isWordChar (h.name.isWordChar c hc)
  · exact List.all_eq_true.1 (hfixed _ (List.mem_cons_of_mem _ List.mem_cons_self)) c hc
  · exact isPrintable_of_isWordChar (isWordChar_of_mem_ofNat hc)
  · exact List.all_eq_true.1
      (hfixed _ (List.mem_cons_of_mem _ (List.mem_cons_of_mem _ List.mem_cons_self))) c hc
  · exact LabelRules.isPrintable_of_allows (h.allows htarget hc)

/-- The lines of a canonical node exist and are a section. -/
theorem IsCanonical.lines? {p : LabelPolicy} {n : Node} (h : n.IsCanonical p) (width : Nat)
    (o : CompileOptions) : ∃ ls, n.lines? width o = some ls ∧ IsSection ls := by
  rcases h.printedLines? width o.maxWrappedLines with ⟨lines, hlines, hallowed⟩
  refine ⟨_, by rw [Node.lines?, hlines]; rfl, ?_⟩
  have hdeclaration := h.isSection_declaration hallowed
  have hcomment : IsSection
      (if o.emitBridges then (n.bridge.map n.bridgeComment).toList else []) := by
    split
    · rcases hb : n.bridge with _ | b
      · exact isSection_nil
      · exact h.isSection_bridgeComment hb
    · exact isSection_nil
  exact hdeclaration.append hcomment

end Node

/-! ### Edges -/

namespace Edge

theorem IsCanonical.isFirm_line {hasNode : Text → Bool} {e : Edge} (h : e.IsCanonical hasNode) :
    IsFirm e.line := by
  have htarget := isFirm_name h.target.1
  rcases (isFirm_name h.source.1).head with ⟨first, hfirst, hword⟩
  have hprint : ∀ c, c ∈ e.source ∨ c ∈ e.target → isPrintable c = true := by
    rintro c (hc | hc)
    · exact isPrintable_of_isWordChar (h.source.1.isWordChar c hc)
    · exact isPrintable_of_isWordChar (h.target.1.isWordChar c hc)
  have harrow : ∀ c ∈ " --> ".toList, isPrintable c = true := List.all_eq_true.1 (by decide)
  have hline : ∀ c ∈ " -- ".toList, isPrintable c = true := List.all_eq_true.1 (by decide)
  -- With or without a label, the line begins and ends with a name.
  rcases hl : e.label with _ | label
  · rw [line, hl]
    refine isFirm_append ⟨first, by rw [List.head?_append, hfirst]; rfl, hword⟩
      h.target.1.ne_nil htarget.last fun c hc => ?_
    rw [List.mem_append, List.mem_append] at hc
    rcases hc with (hc | hc) | hc
    · exact hprint c (Or.inl hc)
    · exact harrow c hc
    · exact hprint c (Or.inr hc)
  · rw [line, hl]
    refine isFirm_append ⟨first, by simp [List.head?_append, hfirst], hword⟩
      h.target.1.ne_nil htarget.last fun c hc => ?_
    rw [List.mem_append, List.mem_append, List.mem_append, List.mem_append] at hc
    rcases hc with (((hc | hc) | hc) | hc) | hc
    · exact hprint c (Or.inl hc)
    · exact hline c hc
    · exact (h.label label hl).1.isPrintable c hc
    · exact harrow c hc
    · exact hprint c (Or.inr hc)

theorem IsCanonical.isSection_line {hasNode : Text → Bool} {e : Edge} (h : e.IsCanonical hasNode) :
    IsSection [e.line] := by
  refine Grammar.isSection_line h.isFirm_line ?_
  rcases hl : e.label with _ | label
  · rw [line, hl]
    exact statement_edge h.source.1 h.target.1
  · rcases h.label label hl with ⟨hclean, hne⟩
    rw [line, hl]
    exact statement_labelledEdge h.source.1 hclean hne h.target.1

end Edge

/-! ### Blocks -/

namespace Block

/-- A name that a block can have: characters of words, begun in one of the two
    ways in which block names begin. -/
structure IsName (t : Text) : Prop where
  word : ∀ c ∈ t, isWordChar c = true
  start : "sg".toList <+: t ∨ "grp_".toList <+: t

/-- A block that can be printed. -/
structure Draft.IsSound (b : Draft) : Prop where
  wanted : IsName b.wanted
  title : Label.IsClean .strict b.title
  members : ∀ m ∈ b.members, Identifier.IsName m

/-- No keyword begins as block names do. -/
theorem IsName.isName {t : Text} (h : IsName t) : Identifier.IsName t := by
  rcases h.start with hsg | hgrp
  · exact isName_of_isPrefix hsg rfl (by decide) (by decide) (by decide) h.word
  · exact isName_of_isPrefix hgrp rfl (by decide) (by decide) (by decide) h.word

/-- Lengthening a block name keeps it one. -/
theorem isName_lengthen {taken : List Text} {more : Nat} {t : Text} (h : IsName t) :
    IsName (lengthen taken more t) := by
  induction more generalizing t with
  | zero => exact h
  | succ more ih =>
    rw [lengthen]
    split
    · refine ih ⟨fun c hc => ?_, ?_⟩
      · rcases List.mem_append.1 hc with hc | hc
        · exact h.word c hc
        · rw [List.mem_singleton.1 hc]
          decide
      · exact h.start.imp (·.trans (List.prefix_append _ _)) (·.trans (List.prefix_append _ _))
    · exact h

/-- What opens a block is followed by the name, so not by a blank. -/
theorem not_isBlank_head {name : Text} (hname : IsName name) (back : Text) {c : Char}
    (hc : (name ++ back).head? = some c) : isBlank c = false := by
  have hid := hname.isName
  rw [List.head?_append_of_ne_nil _ hid.ne_nil] at hc
  exact not_isBlank_of_isWordChar (hid.isWordChar c (List.mem_of_mem_head? hc))

theorem isPrintable_subgraph : ∀ c ∈ "subgraph ".toList, isPrintable c = true :=
  List.all_eq_true.1 (by decide)

/-- The line that opens a block without a title is a statement. -/
theorem header_untitled {name : Text} (hname : IsName name) :
    IsFirm ("subgraph ".toList ++ name) ∧ statement ("subgraph ".toList ++ name) = .ok .opens := by
  have hfirm := isFirm_name hname.isName
  constructor
  · refine isFirm_append ⟨'s', rfl, by decide⟩ hname.isName.ne_nil hfirm.last fun c hc => ?_
    rcases List.mem_append.1 hc with hc | hc
    · exact isPrintable_subgraph c hc
    · exact hfirm.printable c hc
  · refine statement_block (fun c hc => ?_) (blockHeader_name hname.isName)
    exact not_isBlank_head hname [] (by rwa [List.append_nil])

/-- The line that opens a block with a title is a statement. -/
theorem header_titled {name title : Text} (hname : IsName name)
    (htitle : Label.IsClean .strict title) :
    IsFirm ("subgraph ".toList ++ (name ++ "[\"".toList ++ title ++ "\"]".toList)) ∧
      statement ("subgraph ".toList ++ (name ++ "[\"".toList ++ title ++ "\"]".toList))
        = .ok .opens := by
  constructor
  · have hopen : ∀ c ∈ "[\"".toList, isPrintable c = true := List.all_eq_true.1 (by decide)
    have hclose : ∀ c ∈ "\"]".toList, isPrintable c = true := List.all_eq_true.1 (by decide)
    have hlast : ∀ c, "\"]".toList.getLast? = some c → isBlank c = false ∧ c ≠ ';' := by
      intro c hc
      have hbracket : ']' = c := Option.some.inj hc
      rw [← hbracket]
      decide
    have hassoc : "subgraph ".toList ++ (name ++ "[\"".toList ++ title ++ "\"]".toList)
        = ("subgraph ".toList ++ (name ++ "[\"".toList ++ title)) ++ "\"]".toList := by
      simp only [List.append_assoc]
    rw [hassoc]
    refine isFirm_append ⟨'s', rfl, by decide⟩ (by decide) hlast fun c hc => ?_
    simp only [List.mem_append] at hc
    rcases hc with (hc | (hc | hc) | hc) | hc
    · exact isPrintable_subgraph c hc
    · exact (isFirm_name hname.isName).printable c hc
    · exact hopen c hc
    · exact htitle.isPrintable c hc
    · exact hclose c hc
  · -- A clean title has neither a quote nor a bracket that would end it early.
    have hquote : '"' ∉ title := by
      intro hmem
      have hallowed := LabelRules.not_isQuote_of_allows (r := .strict) rfl (htitle.allowed _ hmem)
      exact absurd hallowed (by decide)
    have hcloser : ']' ∉ title := by
      intro hmem
      have hallowed := LabelRules.not_isBracket_of_allows (r := .strict) rfl (htitle.allowed _ hmem)
      exact absurd hallowed (by decide)
    refine statement_block (fun c hc => ?_) (blockHeader_title hname.isName hquote hcloser)
    rw [List.append_assoc, List.append_assoc] at hc
    exact not_isBlank_head hname _ hc

/-- The line that opens a block is a statement. -/
theorem header_spec {name title : Text} (hname : IsName name)
    (htitle : Label.IsClean .strict title) :
    IsFirm (header name title) ∧ statement (header name title) = .ok .opens := by
  unfold header
  by_cases hempty : title.isEmpty = true
  · rw [if_pos hempty, List.append_nil]
    exact header_untitled hname
  · rw [if_neg hempty]
    have htitled := header_titled hname htitle
    simp only [List.append_assoc] at htitled ⊢
    exact htitled

/-- The lines of a block are a section. -/
theorem isSection_lines {name title : Text} {members : List Text} (hname : IsName name)
    (htitle : Label.IsClean .strict title) (hmembers : ∀ m ∈ members, Identifier.IsName m) :
    IsSection (lines name title members) := by
  rcases header_spec hname htitle with ⟨hfirm, hstatement⟩
  refine IsSection.block hfirm hstatement ?_
  induction members with
  | nil => exact isSection_nil
  | cons m ms ih =>
    have hm := hmembers m List.mem_cons_self
    have hspaces : ∀ c ∈ List.replicate 2 ' ', c = ' ' := fun _ => List.eq_of_mem_replicate
    have hline : IsSection [memberLine m] :=
      isSection_indented _ hspaces (isFirm_name hm) (statement_name hm)
    exact hline.append (ih fun k hk => hmembers k (List.mem_cons_of_mem m hk))

/-- The lines of sound blocks are a section, whichever names are taken. -/
theorem isSection_print {bs : List Draft} (h : ∀ b ∈ bs, b.IsSound) (taken : List Text) :
    IsSection (print taken bs) := by
  induction bs generalizing taken with
  | nil => exact isSection_nil
  | cons b bs ih =>
    have hb := h b List.mem_cons_self
    have hname : IsName (freeName taken b.wanted) := isName_lengthen hb.wanted
    have hlines := isSection_lines hname hb.title hb.members
    exact hlines.append (ih (fun c hc => h c (List.mem_cons_of_mem b hc)) _)

end Block

/-! ### Diagrams -/

namespace Diagram

theorem IsCanonical.isSound_subgraphBlocks {p : LabelPolicy} {d : Diagram} (h : d.IsCanonical p) :
    ∀ b ∈ d.subgraphBlocks, b.IsSound := by
  intro b hb
  rcases List.mem_map.1 hb with ⟨⟨s, i⟩, hs, rfl⟩
  have hsub := h.subgraphs s (List.fst_mem_of_mem_zipIdx hs)
  refine ⟨⟨fun c hc => ?_, Or.inl (List.prefix_append _ _)⟩, hsub.title, fun m hm =>
    (hsub.members m hm).1⟩
  rcases List.mem_append.1 hc with hc | hc
  · have hword : ∀ c ∈ "sg".toList, isWordChar c = true := List.all_eq_true.1 (by decide)
    exact hword c hc
  · exact isWordChar_of_mem_ofNat hc

theorem IsCanonical.isSound_groupBlocks {p : LabelPolicy} {d : Diagram} (h : d.IsCanonical p) :
    ∀ b ∈ d.groupBlocks, b.IsSound := by
  have hloose : ∀ n ∈ d.looseNodes, n.IsCanonical p := fun n hn =>
    h.nodes n (List.mem_of_mem_filter hn)
  intro b hb
  rcases List.mem_map.1 hb with ⟨g, hg, rfl⟩
  rcases List.mem_filterMap.1 (mem_of_mem_firsts hg) with ⟨n, hn, hgroup⟩
  refine ⟨⟨fun c hc => ?_, Or.inr (List.prefix_append _ _)⟩, ((hloose n hn).group g hgroup).1,
    fun m hm => ?_⟩
  · rcases List.mem_append.1 hc with hc | hc
    · have hword : ∀ c ∈ "grp_".toList, isWordChar c = true := List.all_eq_true.1 (by decide)
      exact hword c hc
    · rcases List.mem_map.1 hc with ⟨d, -, rfl⟩
      -- What is no letter or digit in the name of a group becomes an underscore.
      split
      · rename_i hd
        rw [isWordChar, hd, Bool.true_or]
      · decide
  · rcases List.mem_map.1 hm with ⟨k, hk, rfl⟩
    exact (hloose k (List.mem_of_mem_filter hk)).name

theorem IsCanonical.isSound_blocks {p : LabelPolicy} {d : Diagram} (h : d.IsCanonical p)
    (o : CompileOptions) : ∀ b ∈ d.blocks o, b.IsSound := by
  intro b hb
  rcases List.mem_append.1 hb with hb | hb
  · exact h.isSound_subgraphBlocks b hb
  · split at hb
    · exact h.isSound_groupBlocks b hb
    · exact absurd hb List.not_mem_nil

/-- If every item has an image of some kind, they have a list of images of that
    kind. -/
theorem exists_mapM_eq_some {α β : Type} {f : α → Option β} {P : β → Prop} {l : List α}
    (h : ∀ a ∈ l, ∃ b, f a = some b ∧ P b) : ∃ bs, l.mapM f = some bs ∧ ∀ b ∈ bs, P b := by
  induction l with
  | nil => exact ⟨[], rfl, fun b hb => absurd hb List.not_mem_nil⟩
  | cons a l ih =>
    rcases h a List.mem_cons_self with ⟨b, hb, hp⟩
    rcases ih fun c hc => h c (List.mem_cons_of_mem a hc) with ⟨bs, hbs, hps⟩
    refine ⟨b :: bs, by rw [List.mapM_cons, hb, hbs]; rfl, fun c hc => ?_⟩
    rcases List.mem_cons.1 hc with rfl | hc
    · exact hp
    · exact hps c hc

/-- A canonical diagram is printed as its header and a section. -/
theorem IsCanonical.lines? {p : LabelPolicy} {d : Diagram} (h : d.IsCanonical p)
    (o : CompileOptions) : ∃ ls, d.lines? o = some (d.header :: ls) ∧ IsSection ls := by
  have hnodes : ∀ n ∈ d.nodes, ∃ ls, n.lines? (d.wrapWidth o) o = some ls ∧ IsSection ls :=
    fun n hn => (h.nodes n hn).lines? (d.wrapWidth o) o
  rcases exists_mapM_eq_some hnodes with ⟨nodes, hmap, hsections⟩
  -- Every edge is a section of its own line.
  have hedges : IsSection (d.edges.map Edge.line) := by
    have hlines : ∀ ls ∈ d.edges.map (fun e => [e.line]), IsSection ls := by
      intro ls hls
      rcases List.mem_map.1 hls with ⟨e, he, rfl⟩
      exact (h.edges e he).isSection_line
    have hflatten := isSection_flatten hlines
    rwa [← List.flatMap_def, ← List.map_eq_flatMap] at hflatten
  refine ⟨nodes.flatten ++ Block.print (d.nodes.map Node.id) (d.blocks o) ++ d.edges.map Edge.line,
    ?_, ?_⟩
  · rw [Diagram.lines?, hmap]
    rfl
  · exact ((isSection_flatten hsections).append (Block.isSection_print (h.isSound_blocks o) _)).append hedges

/-- A canonical diagram has a text, which the grammar accepts. -/
theorem IsCanonical.check_text? {p : LabelPolicy} {d : Diagram} (h : d.IsCanonical p)
    (o : CompileOptions) : ∃ t, d.text? o = some t ∧ check t = .ok () := by
  rcases h.lines? o with ⟨ls, hlines, hsection⟩
  refine ⟨Text.join ['\n'] (d.header :: ls), by rw [Diagram.text?, hlines]; rfl, ?_⟩
  exact check_join d.direction hsection

/-- Whatever the diagram, the policy and the options, the canonical form has a
    text, and the grammar accepts it. -/
theorem check_text?_canonical (p : LabelPolicy) (o : CompileOptions) (d : Diagram) :
    ∃ t, (d.canonical p).text? o = some t ∧ check t = .ok () :=
  (isCanonical_canonical p d).check_text? o

end Diagram

end Flowchart
