import Flowchart.Proofs.Printing
import Flowchart.Proofs.Reading
import Flowchart.Proofs.Survey

/-!
# The Verdict on Printed Diagrams

What the linter reports on the text of a canonical diagram. It accepts every
such text, and has two things to say at most: that the label of a node is too
long to be read, and that too many edges meet at a node. Canonical form keeps
neither of them out, since a label may have several lines and a node any number
of edges.

The text falls into parts: the lines of the nodes, those of the blocks, and
those of the edges. Each part closes the blocks it opens and refers to nothing
but nodes of the diagram. Parts like that can be put one after the other, and
what the whole text shows is the sum of what its parts show.

## Main definitions

* `Node.shown`: The label of a node as it is seen in print.
* `Diagram.findings`: What is reported on a canonical diagram.
* `Lint.Shows`: What a part of a text shows.

## Theorems

* `Lint.Shows.append`: Two parts, one after the other.
* `Lint.Shows.findings_eq`: What is wrong with a part that is a whole text.
* `Diagram.IsCanonical.shows_lines?`: What the lines of a canonical diagram show.
* `Diagram.lint_text?_canonical`: What is reported on the text of a canonical
  diagram.
-/

namespace Flowchart

open Identifier Grammar Lint

/-- The label of a node as it is seen in print, with a blank for every line
    break. -/
def Node.shown (width : Nat) (o : CompileOptions) (n : Node) : Text :=
  Text.join [' '] ((n.printedLines? width o.maxWrappedLines).getD [])

/-- What is reported on a canonical diagram: labels that are too long and nodes
    at which too many edges meet. -/
def Diagram.findings (o : CompileOptions) (d : Diagram) : List Finding :=
  ((d.nodes.filter fun n => maxLabelChars < (n.shown (d.wrapWidth o) o).length).map
      fun n => .longLabel n.id (n.shown (d.wrapWidth o) o).length)
    ++ (d.nodes.filter fun n => maxFanOut < d.degree n.id).map
      fun n => .fanOut n.id (d.degree n.id)

/-- If every item has an image, the images form a list. -/
theorem mapM_eq_some_map {α β : Type} {f : α → Option β} {g : α → β} {l : List α}
    (h : ∀ a ∈ l, f a = some (g a)) : l.mapM f = some (l.map g) := by
  induction l with
  | nil => rfl
  | cons a l ih =>
    rw [List.mapM_cons, h a List.mem_cons_self, ih fun b hb => h b (List.mem_cons_of_mem a hb)]
    rfl

theorem flatMap_const_nil {α β : Type} (l : List α) : (l.flatMap fun _ => ([] : List β)) = [] :=
  List.flatMap_eq_nil_iff.2 fun _ _ => rfl

namespace Lint

/-! ### Printable texts -/

/-- A printable line does not end in a carriage return. -/
theorem withoutReturn_of_printable {l : Text} (h : ∀ c ∈ l, isPrintable c = true) :
    Survey.withoutReturn l = l := by
  have hnone : Text.dropSuffix? ['\r'] l = none := by
    refine Text.dropSuffix?_eq_none fun hlast => ?_
    exact absurd (h _ (List.mem_of_getLast? hlast)) (by decide)
  rw [Survey.withoutReturn, hnone, Option.getD_none]

/-- The report about printable lines, of which the first is a header. -/
theorem lint_join {header : Text} {ls : List Text} (hheader : Survey.IsHeader header)
    (hprint : ∀ l ∈ header :: ls, ∀ c ∈ l, isPrintable c = true) :
    ((lint (Text.join ['\n'] (header :: ls))).issues.map Issue.unplaced).Perm
      ((findings (Survey.headerSights header ++ ls.flatMap sights)).map
        fun f => f.issue none none) := by
  -- Printable lines hold no line feed to cut them at and no carriage return to drop.
  have hreturn : ∀ l ∈ header :: ls, Survey.withoutReturn l = l := fun l hl =>
    withoutReturn_of_printable (hprint l hl)
  have hsegments : (Text.join ['\n'] (header :: ls)).segments = header :: ls := by
    refine Text.segments_join (fun l hl hfeed => ?_) (List.cons_ne_nil _ _)
    exact absurd (hprint l hl '\n' hfeed) (by decide)
  have hfirst := hreturn header List.mem_cons_self
  have hmore : (ls.flatMap fun l => sights (Survey.withoutReturn l)) = ls.flatMap sights :=
    List.flatMap_congr fun l hl => by rw [hreturn l (List.mem_cons_of_mem _ hl)]
  have hreport := lint_unplaced_perm hsegments (by rw [hfirst]; exact hheader)
  rwa [hfirst, hmore] at hreport

/-- How severe an issue is does not depend on its place. -/
theorem ok_of_perm {r : Report} {fs : List Finding}
    (h : (r.issues.map Issue.unplaced).Perm (fs.map fun f => f.issue none none))
    (hfs : ∀ f ∈ fs, (f.issue none none).isHigh = false) : r.ok = true := by
  rw [Report.ok, Bool.not_eq_true', List.any_eq_false]
  intro i hi
  rcases List.mem_map.1 (h.mem_iff.1 (List.mem_map_of_mem hi)) with ⟨f, hf, heq⟩
  have hseverity : i.isHigh = (f.issue none none).isHigh := by
    rw [heq]
    rfl
  rw [hseverity, hfs f hf]
  decide

/-! ### Parts of a text -/

/-- What a part of a text shows: its faults, the nodes it declares and the ends
    of its edges. It refers to known nodes only and closes the blocks it
    opens. -/
structure Shows (known : List Text) (faults : List Finding) (declared ends : List Text)
    (ss : List Sight) : Prop where
  faults : ss.filterMap Sight.fault? = faults
  declared : ss.filterMap Sight.declared? = declared
  ends : ss.flatMap Sight.ends = ends
  referred : ∀ id ∈ ss.filterMap Sight.referred?, id ∈ known
  balanced : ∀ depth, ss.foldl Sight.nest depth = depth

namespace Shows

variable {known : List Text}

theorem nil : Shows known [] [] [] [] where
  faults := rfl
  declared := rfl
  ends := rfl
  referred _ h := absurd h List.not_mem_nil
  balanced _ := rfl

/-- Two parts, one after the other. -/
theorem append {faults faults' : List Finding} {declared declared' ends ends' : List Text}
    {ss ss' : List Sight} (h : Shows known faults declared ends ss)
    (h' : Shows known faults' declared' ends' ss') :
    Shows known (faults ++ faults') (declared ++ declared') (ends ++ ends') (ss ++ ss') where
  faults := by rw [List.filterMap_append, h.faults, h'.faults]
  declared := by rw [List.filterMap_append, h.declared, h'.declared]
  ends := by rw [List.flatMap_append, h.ends, h'.ends]
  referred id hid := by
    rw [List.filterMap_append, List.mem_append] at hid
    exact hid.elim (h.referred id) (h'.referred id)
  balanced depth := by rw [List.foldl_append, h.balanced, h'.balanced]

theorem filterMap_block {α : Type} {f : Sight → Option α} {name : Text} (ss : List Sight)
    (hopens : f (.opens name) = none) (hcloses : f .closes = none) :
    (Sight.opens name :: ss ++ [Sight.closes]).filterMap f = ss.filterMap f := by
  rw [List.filterMap_append, List.filterMap_cons_none hopens, List.filterMap_cons_none hcloses,
    List.filterMap_nil, List.append_nil]

/-- A part inside a block. -/
theorem block {faults : List Finding} {declared ends : List Text} {ss : List Sight}
    (h : Shows known faults declared ends ss) (name : Text) :
    Shows known faults declared ends (.opens name :: ss ++ [.closes]) where
  faults := by rw [filterMap_block ss rfl rfl, h.faults]
  declared := by rw [filterMap_block ss rfl rfl, h.declared]
  ends := by
    rw [List.flatMap_append, List.flatMap_cons, h.ends]
    exact List.append_nil _
  referred id hid := by
    rw [filterMap_block ss rfl rfl] at hid
    exact h.referred id hid
  balanced depth := by
    -- The block that was opened is the one that is closed.
    rcases depth with ⟨opened, stray⟩
    rw [List.cons_append, List.foldl_cons, List.foldl_append, h.balanced]
    rfl

theorem flatMap {α : Type} {l : List α} {faults : α → List Finding} {declared ends : α → List Text}
    {sights : α → List Sight}
    (h : ∀ a ∈ l, Shows known (faults a) (declared a) (ends a) (sights a)) :
    Shows known (l.flatMap faults) (l.flatMap declared) (l.flatMap ends) (l.flatMap sights) := by
  induction l with
  | nil => exact nil
  | cons a l ih =>
    have hrest := ih fun b hb => h b (List.mem_cons_of_mem a hb)
    exact (h a List.mem_cons_self).append hrest

/-- What is wrong with a whole text, if the nodes it refers to are those it
    declares, each of them once. -/
theorem findings_eq {faults : List Finding} {ends : List Text} {ss : List Sight}
    (h : Shows known faults known ends ss) (hnodup : known.Nodup) :
    findings ss = faults
      ++ ((firsts id ends).filter fun id => maxFanOut < ends.count id).map
        fun id => .fanOut id (ends.count id) := by
  -- Nothing is declared twice, and every block that is closed was open.
  have hearly : earlyFindings ss = faults := by
    rw [earlyFindings, h.faults, h.declared, h.balanced, repeats_of_nodup hnodup]
    simp only [List.map_nil, List.replicate_zero, List.append_nil]
  have hmissing : missingNodes ss = [] := by
    rw [missingNodes, List.filter_eq_nil_iff.2 fun id hid => ?_]
    · rfl
    · rw [decide_eq_true_eq, h.declared]
      exact fun hnot => hnot.1 (h.referred id hid)
  rw [findings, crowdedNodes, hearly, hmissing, h.balanced, h.ends]
  simp only [List.replicate_zero, List.append_nil, List.map_nil]

end Shows

/-! ### Printed parts -/

theorem shows_node {known : List Text} (id shown : Text) :
    Shows known (lengthFinding? id shown).toList [id] []
      ((lengthFinding? id shown).toList.map .fault ++ [.declares id]) := by
  have hfault : Shows known (lengthFinding? id shown).toList [] []
      ((lengthFinding? id shown).toList.map .fault) := by
    cases lengthFinding? id shown with
    | none => exact Shows.nil
    | some f => exact ⟨rfl, rfl, rfl, fun _ h => absurd h List.not_mem_nil, fun _ => rfl⟩
  have hdeclares : Shows known [] [id] [] [.declares id] :=
    ⟨rfl, rfl, rfl, fun _ h => absurd h List.not_mem_nil, fun _ => rfl⟩
  have hboth := hfault.append hdeclares
  rwa [List.append_nil] at hboth

theorem shows_edge {known : List Text} {source target : Text} (hs : source ∈ known)
    (ht : target ∈ known) :
    Shows known [] [] [source, target]
      [.refersTo source, .refersTo target, .connects source target] := by
  refine ⟨rfl, rfl, rfl, fun id hid => ?_, fun _ => rfl⟩
  have hmem : id ∈ [source, target] := hid
  rw [List.mem_cons, List.mem_singleton] at hmem
  rcases hmem with rfl | rfl
  · exact hs
  · exact ht

theorem shows_members {known members : List Text} (h : ∀ m ∈ members, m ∈ known) :
    Shows known [] [] [] (members.map Sight.refersTo) := by
  have hall : Shows known (members.flatMap fun _ => []) (members.flatMap fun _ => [])
      (members.flatMap fun _ => []) (members.flatMap fun m => [Sight.refersTo m]) := by
    refine Shows.flatMap fun m hm => ⟨rfl, rfl, rfl, fun id hid => ?_, fun _ => rfl⟩
    have heq : id = m := List.mem_singleton.1 hid
    exact heq ▸ h m hm
  simpa only [flatMap_const_nil, ← List.map_eq_flatMap] using hall

end Lint

/-! ### Nodes -/

namespace Node

/-- The lines of a canonical node declare it. -/
theorem IsCanonical.sights_lines? {p : LabelPolicy} {n : Node} (h : n.IsCanonical p) (width : Nat)
    (o : CompileOptions) :
    ∃ ls, n.lines? width o = some ls ∧
      ls.flatMap sights
        = (lengthFinding? n.id (n.shown width o)).toList.map .fault ++ [.declares n.id] := by
  rcases h.printedLines? width o.maxWrappedLines with ⟨lines, hlines, hallowed⟩
  have hshown : n.shown width o = Text.join [' '] lines := by
    rw [shown, hlines, Option.getD_some]
  have hangle : ∀ l ∈ lines, '<' ∉ l := by
    intro l hl hmem
    have hnot := LabelRules.not_isAngle_of_allows (r := .ofPolicy p) rfl (hallowed l hl _ hmem).1
    exact absurd hnot (by decide)
  have hdeclaration := sights_declaration (h.isFirm_declaration hallowed) h.name
    (fun hm => (of_mem_join_lineBreak hallowed hm).2.1 rfl)
    (fun hm => (of_mem_join_lineBreak hallowed hm).2.2 rfl) hangle
  -- The comment on a bridge shows nothing.
  have hcomment : ∀ l ∈ if o.emitBridges then (n.bridge.map n.bridgeComment).toList else [],
      sights l = [] := by
    intro l hl
    refine sights_comment ?_
    split at hl
    · rw [Option.mem_toList, Option.map_eq_some_iff] at hl
      rcases hl with ⟨b, -, rfl⟩
      exact ⟨_, rfl⟩
    · exact absurd hl List.not_mem_nil
  refine ⟨_, by rw [Node.lines?, hlines]; rfl, ?_⟩
  rw [List.flatMap_cons, List.flatMap_eq_nil_iff.2 hcomment, List.append_nil, hdeclaration, hshown]

end Node

/-! ### Blocks -/

namespace Block

theorem sights_lines {name title : Text} {members : List Text} (hname : IsName name)
    (htitle : Label.IsClean .strict title) (hmembers : ∀ m ∈ members, Identifier.IsName m) :
    (lines name title members).flatMap sights
      = .opens name :: members.map .refersTo ++ [.closes] := by
  have hheader := sights_header (header_spec hname htitle).1 hname.isName
  have hlines : (members.map memberLine).flatMap sights = members.map Sight.refersTo := by
    rw [List.flatMap_map, List.map_eq_flatMap]
    exact List.flatMap_congr fun m hm => sights_memberLine (hmembers m hm)
  rw [lines, List.cons_append, List.flatMap_cons, List.flatMap_append, hheader, hlines,
    List.flatMap_singleton, sights_end]
  rfl

/-- Sound blocks show nothing but their members, whichever names are taken. -/
theorem shows_print {known : List Text} {bs : List Draft} (h : ∀ b ∈ bs, b.IsSound)
    (hknown : ∀ b ∈ bs, ∀ m ∈ b.members, m ∈ known) (taken : List Text) :
    Shows known [] [] [] ((print taken bs).flatMap sights) := by
  induction bs generalizing taken with
  | nil => exact Shows.nil
  | cons b bs ih =>
    have hb := h b List.mem_cons_self
    have hname : IsName (freeName taken b.wanted) := isName_lengthen hb.wanted
    have hrest := ih (fun c hc => h c (List.mem_cons_of_mem b hc))
      (fun c hc => hknown c (List.mem_cons_of_mem b hc)) (freeName taken b.wanted :: taken)
    rw [print, List.flatMap_append, sights_lines hname hb.title hb.members]
    exact ((shows_members (hknown b List.mem_cons_self)).block _).append hrest

end Block

/-! ### Diagrams -/

namespace Diagram

variable {p : LabelPolicy} {d : Diagram}

theorem IsCanonical.mem_of_mem_blocks (h : d.IsCanonical p) {o : CompileOptions}
    {b : Block.Draft} (hb : b ∈ d.blocks o) {m : Text} (hm : m ∈ b.members) :
    m ∈ d.nodes.map Node.id := by
  rcases List.mem_append.1 hb with hb | hb
  -- A subgraph has nodes for members, and a group is made of nodes.
  · rcases List.mem_map.1 hb with ⟨⟨s, i⟩, hs, rfl⟩
    have hsub := h.subgraphs s (List.fst_mem_of_mem_zipIdx hs)
    exact hasNode_iff.1 (hsub.members m hm).2
  · split at hb
    · rcases List.mem_map.1 hb with ⟨g, -, rfl⟩
      rcases List.mem_map.1 hm with ⟨n, hn, rfl⟩
      exact List.mem_map_of_mem (List.mem_of_mem_filter (List.mem_of_mem_filter hn))
    · exact absurd hb List.not_mem_nil

/-- The lines of a canonical diagram declare its nodes and connect the ends of
    its edges, and nothing is wrong with them apart from long labels. -/
theorem IsCanonical.shows_lines? (h : d.IsCanonical p) (o : CompileOptions) {ls : List Text}
    (hls : d.lines? o = some (d.header :: ls)) :
    Shows (d.nodes.map Node.id)
      (d.nodes.flatMap fun n => (lengthFinding? n.id (n.shown (d.wrapWidth o) o)).toList)
      (d.nodes.map Node.id) d.ends (ls.flatMap sights) := by
  have hnode : ∀ n ∈ d.nodes, Node.lines? (d.wrapWidth o) o n
      = some ((Node.lines? (d.wrapWidth o) o n).getD []) := by
    intro n hn
    rcases (h.nodes n hn).sights_lines? (d.wrapWidth o) o with ⟨lines, hlines, -⟩
    rw [hlines, Option.getD_some]
  -- The lines are taken apart as they were put together.
  have hsplit : ls = (d.nodes.flatMap fun n => (Node.lines? (d.wrapWidth o) o n).getD [])
      ++ Block.print (d.nodes.map Node.id) (d.blocks o) ++ d.edges.map Edge.line := by
    rw [Diagram.lines?, mapM_eq_some_map hnode, Option.map_some, Option.some.injEq,
      List.cons_append, List.cons_append] at hls
    exact (List.cons.inj hls).2.symm
  have hnodes : Shows (d.nodes.map Node.id)
      (d.nodes.flatMap fun n => (lengthFinding? n.id (n.shown (d.wrapWidth o) o)).toList)
      (d.nodes.flatMap fun n => [n.id]) (d.nodes.flatMap fun _ => [])
      (d.nodes.flatMap fun n => ((Node.lines? (d.wrapWidth o) o n).getD []).flatMap sights) := by
    refine Shows.flatMap fun n hn => ?_
    rcases (h.nodes n hn).sights_lines? (d.wrapWidth o) o with ⟨lines, hlines, hsights⟩
    rw [hlines, Option.getD_some, hsights]
    exact shows_node n.id _
  have hblocks := Block.shows_print (h.isSound_blocks o)
    (fun b hb m hm => h.mem_of_mem_blocks hb hm) (d.nodes.map Node.id)
  have hedges : Shows (d.nodes.map Node.id) (d.edges.flatMap fun _ => [])
      (d.edges.flatMap fun _ => []) d.ends (d.edges.flatMap fun e => sights e.line) := by
    refine Shows.flatMap fun e he => ?_
    have hcanonical := h.edges e he
    rw [sights_edge hcanonical.isFirm_line hcanonical.source.1 hcanonical.target.1
      fun t ht => (hcanonical.label t ht).1]
    exact shows_edge (hasNode_iff.1 hcanonical.source.2) (hasNode_iff.1 hcanonical.target.2)
  have hall := (hnodes.append hblocks).append hedges
  rw [hsplit]
  simpa only [List.flatMap_append, List.flatMap_assoc, List.flatMap_map, flatMap_const_nil,
    List.append_nil, List.nil_append, ← List.map_eq_flatMap] using hall

/-- Which labels are too long, node by node. -/
theorem flatMap_lengthFinding? (l : List Node) (shown : Node → Text) :
    (l.flatMap fun n => (lengthFinding? n.id (shown n)).toList)
      = (l.filter fun n => maxLabelChars < (shown n).length).map
        fun n => .longLabel n.id (shown n).length := by
  induction l with
  | nil => rfl
  | cons n l ih =>
    rw [List.flatMap_cons, ih, lengthFinding?]
    by_cases hlong : maxLabelChars < (shown n).length
    · rw [if_pos hlong, List.filter_cons, if_pos (decide_eq_true hlong)]
      rfl
    · rw [if_neg hlong, List.filter_cons, if_neg (by rwa [decide_eq_true_eq])]
      rfl

/-- The nodes at which too many edges meet are found among the ends of edges. -/
theorem IsCanonical.crowded_perm (h : d.IsCanonical p) :
    ((firsts id d.ends).filter fun id => maxFanOut < d.ends.count id).Perm
      ((d.nodes.filter fun n => maxFanOut < d.degree n.id).map Node.id) := by
  -- Both sides list distinct ids, so it is enough that they list the same ones.
  have hfirsts : (firsts id d.ends).Nodup := nodup_firsts_id d.ends
  have hnodes : ((d.nodes.filter fun n => maxFanOut < d.degree n.id).map Node.id).Nodup :=
    h.ids.sublist (List.filter_sublist.map Node.id)
  have hends : ∀ id ∈ d.ends, id ∈ d.nodes.map Node.id := by
    intro id hid
    rcases List.mem_flatMap.1 hid with ⟨e, he, hid⟩
    rw [List.mem_cons, List.mem_singleton] at hid
    rcases hid with rfl | rfl
    · exact hasNode_iff.1 (h.edges e he).source.2
    · exact hasNode_iff.1 (h.edges e he).target.2
  rw [List.perm_ext_iff_of_nodup (hfirsts.filter _) hnodes]
  intro id
  rw [List.mem_filter, decide_eq_true_eq, List.mem_map]
  constructor
  · rintro ⟨hid, hcount⟩
    rcases List.mem_map.1 (hends id (mem_firsts_id.1 hid)) with ⟨n, hn, rfl⟩
    exact ⟨n, List.mem_filter.2 ⟨hn, decide_eq_true hcount⟩, rfl⟩
  · rintro ⟨n, hn, rfl⟩
    have hcount := of_decide_eq_true (List.mem_filter.1 hn).2
    -- A node at which edges meet is an end of one.
    have hmem : n.id ∈ d.ends := List.count_pos_iff.1 (Nat.zero_lt_of_lt hcount)
    exact ⟨mem_firsts_id.2 hmem, hcount⟩

/-- What is wrong with the lines of a canonical diagram. -/
theorem IsCanonical.findings_perm (h : d.IsCanonical p) (o : CompileOptions) {ls : List Text}
    (hls : d.lines? o = some (d.header :: ls)) :
    (Lint.findings (ls.flatMap sights)).Perm (d.findings o) := by
  have hcrowded := (h.crowded_perm).map fun id => Finding.fanOut id (d.ends.count id)
  rw [List.map_map] at hcrowded
  rw [(h.shows_lines? o hls).findings_eq h.ids, flatMap_lengthFinding?]
  exact hcrowded.append_left _

/-- Nothing that is reported on a canonical diagram makes its text unacceptable. -/
theorem not_isHigh_of_mem_findings {o : CompileOptions} {f : Finding} (hf : f ∈ d.findings o) :
    (f.issue none none).isHigh = false := by
  rcases List.mem_append.1 hf with hf | hf
  · rcases List.mem_map.1 hf with ⟨n, -, rfl⟩
    rfl
  · rcases List.mem_map.1 hf with ⟨n, -, rfl⟩
    rfl

/-! ### The report -/

/-- The line that opens a diagram is a header with nothing wrong about it. -/
theorem header_spec (direction : Direction) :
    Survey.IsHeader ("flowchart ".toList ++ direction.keyword.toList) ∧
      Survey.headerSights ("flowchart ".toList ++ direction.keyword.toList) = [] := by
  refine ⟨Or.inl ?_, ?_⟩
  · cases direction <;> decide +kernel
  · cases direction <;> decide +kernel

/-- What is reported on a canonical diagram. -/
theorem IsCanonical.lint_text? (h : d.IsCanonical p) (o : CompileOptions) :
    ∃ t, d.text? o = some t ∧ (lint t).ok = true ∧
      ((lint t).issues.map Issue.unplaced).Perm
        ((d.findings o).map fun f => f.issue none none) := by
  rcases h.lines? o with ⟨ls, hlines, hsection⟩
  rcases header_spec d.direction with ⟨hheader, hsights⟩
  have hprintable : ∀ l ∈ d.header :: ls, ∀ c ∈ l, isPrintable c = true := by
    intro l hl
    rcases List.mem_cons.1 hl with rfl | hl
    · exact isPrintable_header d.direction
    · exact (hsection.printable l hl).2
  have hreport := lint_join hheader hprintable
  rw [hsights, List.nil_append] at hreport
  have hperm := hreport.trans ((h.findings_perm o hlines).map fun f => f.issue none none)
  refine ⟨Text.join ['\n'] (d.header :: ls), by rw [Diagram.text?, hlines]; rfl, ?_, hperm⟩
  exact ok_of_perm hperm fun f hf => not_isHigh_of_mem_findings hf

/-- Whatever the diagram, the policy and the options, the linter accepts the text
    of the canonical form, and reports its long labels and crowded nodes and
    nothing else. -/
theorem lint_text?_canonical (p : LabelPolicy) (o : CompileOptions) (d : Diagram) :
    ∃ t, (d.canonical p).text? o = some t ∧ (lint t).ok = true ∧
      ((lint t).issues.map Issue.unplaced).Perm
        (((d.canonical p).findings o).map fun f => f.issue none none) :=
  (isCanonical_canonical p d).lint_text? o

/-- A node with a label of two long lines and seven edges to itself. -/
def busy : Diagram where
  nodes := [{ id := ['a'], labelLines := some [List.replicate 60 'b', List.replicate 60 'c'] }]
  edges := ['1', '2', '3', '4', '5', '6', '7'].map fun c =>
    { source := ['a'], target := ['a'], label := some [c] }

/-- Both findings occur. -/
example : (busy.canonical .strict).findings {} = [.longLabel ['a'] 121, .fanOut ['a'] 14] := by
  decide +kernel

end Diagram

end Flowchart
