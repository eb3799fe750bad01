import Flowchart.Diagram.Json
import Flowchart.Proofs.Decoding
import Flowchart.Proofs.JsonText

/-!
# Diagrams Read Back

A diagram that was read is written as a text from which the same diagram is
read. How it was spelled the first time does not matter: as lists or as objects,
with nulls, with unknown names, under further names for fields.

Three things make this true. Every record that is written is read back, as long
as its numbers fit their words and its evidence is sorted. Every record that was
read has these properties, because its numbers went through the same checks and
its evidence is part of a sorted value. And a diagram is nested no deeper than
the value that it was read from, so that its text can be read again.

What remains to be asked is that numbers can be read back at all, which is part
of `Json.IsReadable`.

## Main definitions

* `Style.IsStorable`, `Edge.IsStorable`, `Node.IsStorable`,
  `Diagram.IsStorable`: The numbers fit their words, and all evidence has some
  property.
* `Diagram.entries`: The entries of a diagram in the order of their keys.

## Theorems

* `Diagram.ofJson?_toJson`: The value of a diagram is read back.
* `Diagram.isStorable_of_ofJson?`: What is read can be stored.
* `Diagram.isReadable_of_ofJson?`: What is read takes no more room when it is
  written.
* `Diagram.parse?_print`: The text of a diagram is read back.
-/

namespace Flowchart

/-! ### What can be stored -/

/-- The sizes fit sixteen bits. -/
structure Style.IsStorable (s : Style) : Prop where
  wrapLabelsAt : ∀ n ∈ s.wrapLabelsAt, n < halfWordLimit
  nodeSpacing : ∀ n ∈ s.nodeSpacing, n < halfWordLimit
  rankSpacing : ∀ n ∈ s.rankSpacing, n < halfWordLimit

/-- The evidence has some property. -/
structure Edge.IsStorable (P : Json → Prop) (e : Edge) : Prop where
  evidence : ∀ v ∈ e.evidence, P v

/-- The evidence has some property, and the number of the other diagram fits a
    word. -/
structure Node.IsStorable (P : Json → Prop) (n : Node) : Prop where
  evidence : ∀ v ∈ n.evidence, P v
  bridge : ∀ b ∈ n.bridge, b.toDiagram < wordLimit

/-- All parts of the diagram can be stored. -/
structure Diagram.IsStorable (P : Json → Prop) (d : Diagram) : Prop where
  nodes : ∀ n ∈ d.nodes, n.IsStorable P
  edges : ∀ e ∈ d.edges, e.IsStorable P
  style : ∀ s ∈ d.style, s.IsStorable

/-! ### Records are read back

The entries are those of the record in the order of their keys. The drafts that
the reader goes through are written out, with the field that comes next open. -/

theorem Bridge.ofJson?_toJson {b : Bridge} (h : b.toDiagram < wordLimit) :
    Bridge.ofJson? b.toJson.sorted = .ok b := by
  have hkeys : ["targetLabel", "toDiagram"].Pairwise fun k k' => k.toList < k'.toList := by decide
  -- The entries are read in the order of their keys, which is not that of the fields.
  refine Layout.decode_sorted_record
    [("targetLabel", some (.str b.targetLabel)), ("toDiagram", some (.ofNat b.toDiagram))]
    (List.Perm.swap _ _ _) hkeys ?_ ?_ ?_
  · refine .cons (Layout.puts_some (Bridge.mk 0) (fun _ => rfl) rfl) ?_
    refine .cons (Layout.puts_some (Bridge.mk · b.targetLabel) (fun _ => rfl)
      (Json.toBounded_ofNat h _)) ?_
    exact .nil b
  · simp [Bridge.layout]
  · simp [Bridge.layout]

theorem Subgraph.ofJson?_toJson (s : Subgraph) : Subgraph.ofJson? s.toJson.sorted = .ok s := by
  have hkeys : ["nodeIds", "title"].Pairwise fun k k' => k.toList < k'.toList := by decide
  refine Layout.decode_sorted_record
    [("nodeIds", some (.ofTexts s.members)), ("title", some (.str s.title))]
    (List.Perm.swap _ _ _) hkeys ?_ ?_ ?_
  · refine .cons (Layout.puts_some (Subgraph.mk []) (fun _ => rfl)
      (Json.toList_sorted_ofTexts s.members)) ?_
    refine .cons (Layout.puts_some (Subgraph.mk · s.members) (fun _ => rfl) rfl) ?_
    exact .nil s
  · simp [Subgraph.layout]
  · simp [Subgraph.layout]

theorem Style.ofJson?_toJson {s : Style} (h : s.IsStorable) :
    Style.ofJson? s.toJson.sorted = .ok s := by
  have hkeys : ["nodeSpacing", "rankSpacing", "renderer", "wrapLabelsAt"].Pairwise
      fun k k' => k.toList < k'.toList := by decide
  -- A number that fits is written as it is, and there is nothing in it to sort.
  have hsize : ∀ {n : Nat}, n < halfWordLimit →
      (Json.ofNat n).sorted.toOption Json.toHalfWord = .ok (some n) := fun hn =>
    Json.toOption_eq_some nofun (Json.toBounded_ofNat hn _)
  have hrenderer : ∀ r ∈ s.renderer,
      (Json.ofString r.name).sorted.toOption (·.toVariant Renderer.spellings) = .ok (some r) := by
    intro r _
    cases r <;> rfl
  refine Layout.decode_sorted_record
    [("nodeSpacing", s.nodeSpacing.map .ofNat), ("rankSpacing", s.rankSpacing.map .ofNat),
      ("renderer", s.renderer.map fun r => .ofString r.name),
      ("wrapLabelsAt", s.wrapLabelsAt.map .ofNat)]
    (by simp [List.cons_perm_iff_perm_erase]) hkeys ?_ ?_ ?_
  · refine .cons (Layout.puts_map (Style.mk none · none none) (fun _ => rfl) rfl
      fun n hn => hsize (h.nodeSpacing n hn)) ?_
    refine .cons (Layout.puts_map (Style.mk none s.nodeSpacing · none) (fun _ => rfl) rfl
      fun n hn => hsize (h.rankSpacing n hn)) ?_
    refine .cons (Layout.puts_map (Style.mk none s.nodeSpacing s.rankSpacing) (fun _ => rfl) rfl
      hrenderer) ?_
    refine .cons (Layout.puts_map (Style.mk · s.nodeSpacing s.rankSpacing s.renderer)
      (fun _ => rfl) rfl fun n hn => hsize (h.wrapLabelsAt n hn)) ?_
    exact .nil s
  · simp [Style.layout]
  · simp [Style.layout]

theorem Edge.ofJson?_toJson {e : Edge} (h : e.IsStorable fun v => v.sorted = v) :
    Edge.ofJson? e.toJson.sorted = .ok e := by
  have hkeys : ["evidence", "from", "kind", "label", "to"].Pairwise
      fun k k' => k.toList < k'.toList := by decide
  have hrelation : ∀ r ∈ e.relation,
      Relation.ofJson? (Json.ofString r.name).sorted = .ok (some r) := by
    intro r _
    cases r <;> rfl
  refine Layout.decode_sorted_record
    [("evidence", Json.unlessEmpty e.evidence), ("from", some (.str e.source)),
      ("kind", e.relation.map fun r => .ofString r.name), ("label", e.label.map .str),
      ("to", some (.str e.target))]
    (by simp [List.cons_perm_iff_perm_erase]) hkeys ?_ ?_ ?_
  · -- Evidence is left out if there is none, and a blank edge has none either.
    refine .cons (Layout.puts_unlessEmpty (Edge.mk [] [] none none) (fun _ => rfl) rfl
      (fun hnil => hnil) (Json.toList_ok_sorted h.evidence)) ?_
    refine .cons (Layout.puts_some (Edge.mk · [] none none e.evidence) (fun _ => rfl) rfl) ?_
    refine .cons (Layout.puts_map (Edge.mk e.source [] none · e.evidence) (fun _ => rfl) rfl
      hrelation) ?_
    refine .cons (Layout.puts_map (Edge.mk e.source [] · e.relation e.evidence) (fun _ => rfl) rfl
      fun _ _ => rfl) ?_
    exact .cons rfl (.nil e)
  · simp [Edge.layout]
  · simp [Edge.layout]

theorem Node.ofJson?_toJson {n : Node} (h : n.IsStorable fun v => v.sorted = v) :
    Node.ofJson? n.toJson.sorted = .ok n := by
  have hkeys : ["bridge", "evidence", "group", "id", "label", "labelLines", "shape",
      "weight"].Pairwise fun k k' => k.toList < k'.toList := by decide
  have hbridge : ∀ b ∈ n.bridge, b.toJson.sorted.toOption Bridge.ofJson? = .ok (some b) :=
    fun b hb => Json.toOption_eq_some nofun (Bridge.ofJson?_toJson (h.bridge b hb))
  have hlines : ∀ ts ∈ n.labelLines,
      (Json.ofTexts ts).sorted.toOption (·.toList Json.toText) = .ok (some ts) :=
    fun ts _ => Json.toOption_eq_some nofun (Json.toList_sorted_ofTexts ts)
  -- An unknown shape is lost when it is read, so only the known names are written.
  have hshape : Shape.ofJson? (Json.ofString n.shape.name).sorted = .ok n.shape := by
    cases n.shape <;> rfl
  refine Layout.decode_sorted_record
    [("bridge", n.bridge.map Bridge.toJson), ("evidence", Json.unlessEmpty n.evidence),
      ("group", n.group.map .str), ("id", some (.str n.id)), ("label", some (.str n.label)),
      ("labelLines", n.labelLines.map .ofTexts), ("shape", some (.ofString n.shape.name)),
      ("weight", some (.float n.weight))]
    (by simp [List.cons_perm_iff_perm_erase]) hkeys ?_ ?_ ?_
  · refine .cons (Layout.puts_map (Node.mk [] [] none .rect .zero none · []) (fun _ => rfl) rfl
      hbridge) ?_
    refine .cons (Layout.puts_unlessEmpty (Node.mk [] [] none .rect .zero none n.bridge)
      (fun _ => rfl) rfl (fun hnil => hnil) (Json.toList_ok_sorted h.evidence)) ?_
    refine .cons (Layout.puts_map (Node.mk [] [] none .rect .zero · n.bridge n.evidence)
      (fun _ => rfl) rfl fun _ _ => rfl) ?_
    refine .cons (Layout.puts_some (Node.mk · [] none .rect .zero n.group n.bridge n.evidence)
      (fun _ => rfl) rfl) ?_
    refine .cons (Layout.puts_some (Node.mk n.id · none .rect .zero n.group n.bridge n.evidence)
      (fun _ => rfl) rfl) ?_
    refine .cons (Layout.puts_map
      (Node.mk n.id n.label · .rect .zero n.group n.bridge n.evidence) (fun _ => rfl) rfl hlines) ?_
    refine .cons (Layout.puts_some
      (Node.mk n.id n.label n.labelLines · .zero n.group n.bridge n.evidence) (fun _ => rfl)
      hshape) ?_
    exact .cons rfl (.nil n)
  · simp [Node.layout]
  · simp [Node.layout]

namespace Diagram

/-- The entries of a diagram in the order of their keys. -/
def entries (d : Diagram) : List (String × Option Json) :=
  [("direction", some d.direction.toJson), ("edges", some (.arr (d.edges.map Edge.toJson))),
    ("kind", some (.ofString diagramKind)), ("nodes", some (.arr (d.nodes.map Node.toJson))),
    ("style", d.style.map Style.toJson),
    ("subgraphs", Json.unlessEmpty (d.subgraphs.map Subgraph.toJson))]

theorem increasing_entries (d : Diagram) :
    (d.entries.map Prod.fst).Pairwise fun k k' => k.toList < k'.toList := by
  change ["direction", "edges", "kind", "nodes", "style", "subgraphs"].Pairwise
    fun k k' => k.toList < k'.toList
  decide

theorem entries_perm (d : Diagram) : d.entries.Perm [
    ("kind", some (.ofString diagramKind)), ("direction", some d.direction.toJson),
    ("nodes", some (.arr (d.nodes.map Node.toJson))),
    ("edges", some (.arr (d.edges.map Edge.toJson))),
    ("subgraphs", Json.unlessEmpty (d.subgraphs.map Subgraph.toJson)),
    ("style", d.style.map Style.toJson)] := by
  simp [entries, List.cons_perm_iff_perm_erase]

theorem foreignKind?_toJson (d : Diagram) : foreignKind? d.toJson.sorted = none := by
  -- The kind stands behind the direction and the edges, which are always there.
  have hkind : d.toJson.sorted.field? "kind".toList = some (.ofString diagramKind) := by
    rw [toJson, Json.sorted_record d.entries_perm d.increasing_entries]
    simp [Json.record, Json.field?, entries, Json.ofString, Json.sorted]
  rw [foreignKind?, hkind]
  rfl

/-- The value of a diagram is read back. -/
theorem ofJson?_toJson {d : Diagram} (h : d.IsStorable fun v => v.sorted = v) :
    ofJson? d.toJson.sorted = .ok d := by
  have hdirection : Direction.ofJson? d.direction.toJson = .ok d.direction := by
    cases d.direction <;> rfl
  have hnodes : (Json.arr (d.nodes.map Node.toJson)).sorted.toList Node.ofJson? = .ok d.nodes :=
    Json.toList_sorted_map Node.toJson fun n hn => Node.ofJson?_toJson (h.nodes n hn)
  have hedges : (Json.arr (d.edges.map Edge.toJson)).sorted.toList Edge.ofJson? = .ok d.edges :=
    Json.toList_sorted_map Edge.toJson fun e he => Edge.ofJson?_toJson (h.edges e he)
  have hsubgraphs : (Json.arr (d.subgraphs.map Subgraph.toJson)).sorted.toList Subgraph.ofJson?
      = .ok d.subgraphs :=
    Json.toList_sorted_map Subgraph.toJson fun s _ => Subgraph.ofJson?_toJson s
  have hstyle : ∀ s ∈ d.style, s.toJson.sorted.toOption Style.ofJson? = .ok (some s) :=
    fun s hs => Json.toOption_eq_some nofun (Style.ofJson?_toJson (h.style s hs))
  have hdecode : layout.decode {} d.toJson.sorted = .ok d := by
    refine Layout.decode_sorted_record d.entries d.entries_perm d.increasing_entries ?_ ?_ ?_
    · refine .cons (Layout.puts_some (Diagram.mk · [] [] [] none) (fun _ => rfl) hdirection) ?_
      refine .cons (Layout.puts_some (Diagram.mk d.direction [] · [] none) (fun _ => rfl) hedges) ?_
      -- The kind is checked but not kept.
      refine .cons rfl ?_
      refine .cons (Layout.puts_some (Diagram.mk d.direction · d.edges [] none) (fun _ => rfl)
        hnodes) ?_
      refine .cons (Layout.puts_map (Diagram.mk d.direction d.nodes d.edges []) (fun _ => rfl) rfl
        hstyle) ?_
      refine .cons (Layout.puts_unlessEmpty (Diagram.mk d.direction d.nodes d.edges · d.style)
        (fun _ => rfl) rfl List.map_eq_nil_iff.1 hsubgraphs) ?_
      exact .nil d
    · simp [layout, entries]
    · simp [layout]
  rw [ofJson?, foreignKind?_toJson]
  exact congrArg (Except.mapError _) hdecode

end Diagram

/-! ### What is read can be stored -/

theorem Bridge.toDiagram_lt {v : Json} {b : Bridge} (h : Bridge.ofJson? v = .ok b) :
    b.toDiagram < wordLimit := by
  let P : Bridge → Prop := fun b => b.toDiagram < wordLimit
  refine Layout.decode_induction (P := P) (by decide) ?_ h
  intro field w _ a c ha hput
  simp only [layout] at hput
  split at hput
  · exact Decoded.holds_of_bind (P := P) hput fun n hn => Json.toBounded_lt hn
  · exact Decoded.holds_of_bind (P := P) hput fun _ _ => ha
  · exact Except.ok.inj hput ▸ ha

theorem Style.isStorable_of_ofJson? {v : Json} {s : Style} (h : Style.ofJson? v = .ok s) :
    s.IsStorable := by
  have hsize : ∀ {w : Json} {x : Option Nat}, w.toOption Json.toHalfWord = .ok x →
      ∀ n ∈ x, n < halfWordLimit := fun hx n hn =>
    Json.toBounded_lt (Json.of_mem_toOption hx n hn)
  refine Layout.decode_induction (P := Style.IsStorable) ⟨by simp, by simp, by simp⟩ ?_ h
  intro field w _ a c ha hput
  simp only [layout] at hput
  split at hput
  · exact Decoded.holds_of_bind hput fun x hx => { ha with wrapLabelsAt := hsize hx }
  · exact Decoded.holds_of_bind hput fun x hx => { ha with nodeSpacing := hsize hx }
  · exact Decoded.holds_of_bind hput fun x hx => { ha with rankSpacing := hsize hx }
  · exact Decoded.holds_of_bind hput fun _ _ => { ha with }
  · exact Except.ok.inj hput ▸ ha

section Evidence

variable {P : Json → Prop}

theorem of_mem_evidence {v : Json} {items : List Json} (hparts : ∀ w ∈ v.parts, P w)
    (h : v.toList .ok = .ok items) : ∀ w ∈ items, P w := by
  intro w hw
  rcases Json.of_mem_toList h w hw with ⟨u, hu, heq⟩
  exact Except.ok.inj heq ▸ hparts u hu

theorem Edge.isStorable_of_ofJson? {v : Json} {e : Edge}
    (hparts : ∀ w ∈ v.parts, ∀ u ∈ w.parts, P u) (h : Edge.ofJson? v = .ok e) :
    e.IsStorable P := by
  refine Layout.decode_induction (P := Edge.IsStorable P) ⟨by simp⟩ ?_ h
  intro field w hw a c ha hput
  simp only [layout] at hput
  -- Only evidence is asked about, so the other fields leave what held of the edge.
  split at hput
  case h_5 =>
    exact Decoded.holds_of_bind hput fun items hitems =>
      { evidence := of_mem_evidence (hparts w hw) hitems }
  case h_6 => exact Except.ok.inj hput ▸ ha
  all_goals exact Decoded.holds_of_bind hput fun _ _ => { ha with }

theorem Node.isStorable_of_ofJson? {v : Json} {n : Node}
    (hparts : ∀ w ∈ v.parts, ∀ u ∈ w.parts, P u) (h : Node.ofJson? v = .ok n) :
    n.IsStorable P := by
  refine Layout.decode_induction (P := Node.IsStorable P) ⟨by simp, by simp⟩ ?_ h
  intro field w hw a c ha hput
  simp only [layout] at hput
  -- Besides evidence, the number in a bridge has to fit, and reading it checks that.
  split at hput
  case h_7 =>
    exact Decoded.holds_of_bind hput fun x hx =>
      { ha with bridge := fun b hb => Bridge.toDiagram_lt (Json.of_mem_toOption hx b hb) }
  case h_8 =>
    exact Decoded.holds_of_bind hput fun items hitems =>
      { ha with evidence := of_mem_evidence (hparts w hw) hitems }
  case h_9 => exact Except.ok.inj hput ▸ ha
  all_goals exact Decoded.holds_of_bind hput fun _ _ => { ha with }

theorem Diagram.layout_decode {v : Json} {d : Diagram} (h : Diagram.ofJson? v = .ok d) :
    Diagram.layout.decode {} v = .ok d := by
  rw [Diagram.ofJson?] at h
  split at h
  · exact nomatch h
  · cases hread : Diagram.layout.decode {} v with
    | error e =>
      rw [hread] at h
      exact nomatch h
    | ok c =>
      rw [hread] at h
      exact congrArg Except.ok (Except.ok.inj h)

/-- The evidence of a diagram stands four deep in the value it is read from. -/
theorem Diagram.isStorable_of_ofJson? {v : Json} {d : Diagram}
    (hparts : ∀ w ∈ v.parts, ∀ u ∈ w.parts, ∀ x ∈ u.parts, ∀ y ∈ x.parts, P y)
    (h : Diagram.ofJson? v = .ok d) : d.IsStorable P := by
  refine Layout.decode_induction (P := Diagram.IsStorable P) ⟨by simp, by simp, by simp⟩ ?_
    (layout_decode h)
  intro field w hw a c ha hput
  simp only [layout] at hput
  split at hput
  · rcases Decoded.map_eq_ok hput with ⟨_, _, rfl⟩
    exact ha
  · exact Decoded.holds_of_bind hput fun _ _ => { ha with }
  · refine Decoded.holds_of_bind hput fun ns hns => { ha with nodes := fun n hn => ?_ }
    -- A node is read from an item of the list, one level further in.
    rcases Json.of_mem_toList hns n hn with ⟨u, hu, hok⟩
    exact Node.isStorable_of_ofJson? (hparts w hw u hu) hok
  · refine Decoded.holds_of_bind hput fun es hes => { ha with edges := fun e he => ?_ }
    rcases Json.of_mem_toList hes e he with ⟨u, hu, hok⟩
    exact Edge.isStorable_of_ofJson? (hparts w hw u hu) hok
  · exact Decoded.holds_of_bind hput fun _ _ => { ha with }
  · exact Decoded.holds_of_bind hput fun x hx =>
      { ha with style := fun s hs => Style.isStorable_of_ofJson? (Json.of_mem_toOption hx s hs) }
  · exact Except.ok.inj hput ▸ ha

end Evidence

/-! ### The room that is taken -/

namespace Json

theorem isReadable_of_mem_parts {room : Nat} {v w : Json} (h : v.IsReadable (room + 1))
    (hw : w ∈ v.parts) : w.IsReadable room := by
  cases h with
  | arr hitems => exact hitems w hw
  | obj hfields =>
    rcases List.mem_map.1 hw with ⟨f, hf, rfl⟩
    exact hfields f hf
  | _ => exact absurd hw List.not_mem_nil

theorem isReadable_record {room : Nat} {entries : List (String × Option Json)}
    (h : ∀ e ∈ entries, ∀ v ∈ e.2, v.IsReadable room) : (record entries).IsReadable (room + 1) := by
  refine .obj fun f hf => ?_
  rcases List.mem_filterMap.1 hf with ⟨e, he, hfield⟩
  rcases Option.map_eq_some_iff.1 hfield with ⟨v, hv, rfl⟩
  exact h e he v hv

theorem isReadable_map {α : Type} {room : Nat} {encode : α → Json} {xs : List α}
    (h : ∀ x ∈ xs, (encode x).IsReadable room) :
    ∀ v ∈ xs.map encode, v.IsReadable room := by
  intro v hv
  rcases List.mem_map.1 hv with ⟨x, hx, rfl⟩
  exact h x hx

theorem isReadable_optionMap {α : Type} {room : Nat} {encode : α → Json} {x : Option α}
    (h : ∀ a ∈ x, (encode a).IsReadable room) : ∀ v ∈ x.map encode, v.IsReadable room := by
  intro v hv
  rcases Option.map_eq_some_iff.1 hv with ⟨a, ha, rfl⟩
  exact h a ha

theorem isReadable_unlessEmpty {room : Nat} {items : List Json}
    (h : ∀ v ∈ items, v.IsReadable room) :
    ∀ v ∈ unlessEmpty items, v.IsReadable (room + 1) := by
  intro v hv
  rw [unlessEmpty] at hv
  split at hv
  · exact nomatch hv
  · cases hv
    exact .arr h

theorem isReadable_ofTexts (room : Nat) (ts : List Text) : (ofTexts ts).IsReadable (room + 1) :=
  .arr (isReadable_map fun t _ => .str room t)

theorem isReadable_ofNat (room : Nat) {n : Nat} (h : n < wordLimit) : (ofNat n).IsReadable room := by
  refine .int room ?_
  rw [fitsWord, Bool.and_eq_true, decide_eq_true_eq, decide_eq_true_eq]
  omega

end Json

section Readable

variable {room : Nat}

theorem Bridge.isReadable_toJson {b : Bridge} (h : b.toDiagram < wordLimit) :
    b.toJson.IsReadable (room + 1) := by
  refine Json.isReadable_record ?_
  simp only [List.forall_mem_cons, Option.mem_some_iff, forall_eq']
  exact ⟨Json.isReadable_ofNat room h, .str _ _, List.forall_mem_nil _⟩

theorem Subgraph.isReadable_toJson (s : Subgraph) : s.toJson.IsReadable (room + 2) := by
  refine Json.isReadable_record ?_
  simp only [List.forall_mem_cons, Option.mem_some_iff, forall_eq']
  exact ⟨.str _ _, Json.isReadable_ofTexts room _, List.forall_mem_nil _⟩

theorem Style.isReadable_toJson {s : Style} (h : s.IsStorable) : s.toJson.IsReadable (room + 1) := by
  have hsize : ∀ {n : Nat}, n < halfWordLimit → (Json.ofNat n).IsReadable room := fun hn =>
    Json.isReadable_ofNat room (Nat.lt_trans hn (by decide))
  refine Json.isReadable_record ?_
  simp only [List.forall_mem_cons]
  exact ⟨Json.isReadable_optionMap fun n hn => hsize (h.wrapLabelsAt n hn),
    Json.isReadable_optionMap fun n hn => hsize (h.nodeSpacing n hn),
    Json.isReadable_optionMap fun n hn => hsize (h.rankSpacing n hn),
    Json.isReadable_optionMap fun _ _ => .str _ _, List.forall_mem_nil _⟩

theorem Edge.isReadable_toJson {e : Edge} (h : e.IsStorable (·.IsReadable room)) :
    e.toJson.IsReadable (room + 2) := by
  refine Json.isReadable_record ?_
  simp only [List.forall_mem_cons, Option.mem_some_iff, forall_eq']
  exact ⟨.str _ _, .str _ _, Json.isReadable_optionMap fun _ _ => .str _ _,
    Json.isReadable_optionMap fun _ _ => .str _ _, Json.isReadable_unlessEmpty h.evidence,
    List.forall_mem_nil _⟩

theorem Node.isReadable_toJson {n : Node} (h : n.IsStorable (·.IsReadable room))
    (hweight : n.weight.ReadsBack) : n.toJson.IsReadable (room + 2) := by
  refine Json.isReadable_record ?_
  simp only [List.forall_mem_cons, Option.mem_some_iff, forall_eq']
  exact ⟨.str _ _, .str _ _, Json.isReadable_optionMap fun ts _ => Json.isReadable_ofTexts room ts,
    .str _ _, .float _ hweight, Json.isReadable_optionMap fun _ _ => .str _ _,
    Json.isReadable_optionMap fun b hb => Bridge.isReadable_toJson (h.bridge b hb),
    Json.isReadable_unlessEmpty h.evidence, List.forall_mem_nil _⟩

/-- A diagram is nested four deep around the evidence. -/
theorem Diagram.isReadable_toJson {d : Diagram} (h : d.IsStorable (·.IsReadable room))
    (hweights : ∀ n ∈ d.nodes, n.weight.ReadsBack) : d.toJson.IsReadable (room + 4) := by
  refine Json.isReadable_record ?_
  simp only [List.forall_mem_cons, Option.mem_some_iff, forall_eq']
  exact ⟨.str _ _, .str _ _,
    .arr (Json.isReadable_map fun n hn => Node.isReadable_toJson (h.nodes n hn) (hweights n hn)),
    .arr (Json.isReadable_map fun e he => Edge.isReadable_toJson (h.edges e he)),
    Json.isReadable_unlessEmpty (Json.isReadable_map fun s _ => s.isReadable_toJson),
    Json.isReadable_optionMap fun s hs => Style.isReadable_toJson (h.style s hs),
    List.forall_mem_nil _⟩

end Readable

/-! ### The round trip -/

namespace Diagram

/-- A diagram takes no more room than the value it is read from. -/
theorem isReadable_of_ofJson? {room : Nat} {v : Json} {d : Diagram} (hv : v.IsReadable (room + 4))
    (hd : ofJson? v = .ok d) (hweights : ∀ n ∈ d.nodes, n.weight.ReadsBack) :
    d.toJson.IsReadable (room + 4) := by
  refine isReadable_toJson (isStorable_of_ofJson? (fun w hw u hu x hx y hy => ?_) hd) hweights
  have hw' : w.IsReadable (room + 3) := Json.isReadable_of_mem_parts hv hw
  have hu' : u.IsReadable (room + 2) := Json.isReadable_of_mem_parts hw' hu
  have hx' : x.IsReadable (room + 1) := Json.isReadable_of_mem_parts hu' hx
  exact Json.isReadable_of_mem_parts hx' hy

/-- A diagram that was read is read back from its text. The objects of the value
    are sorted, as they are in a value that comes from a text. -/
theorem parse?_print {v : Json} {d : Diagram} (hsorted : v.sorted = v) (hd : ofJson? v = .ok d)
    (hread : d.toJson.IsReadable Json.maxDepth) : parse? d.print = .ok d := by
  have hstorable : d.IsStorable fun w => w.sorted = w := by
    refine isStorable_of_ofJson? (fun w hw u hu x hx y hy => ?_) hd
    have hw' : w.sorted = w := Json.sorted_of_mem_parts hsorted hw
    have hu' : u.sorted = u := Json.sorted_of_mem_parts hw' hu
    have hx' : x.sorted = x := Json.sorted_of_mem_parts hu' hx
    exact Json.sorted_of_mem_parts hx' hy
  rw [parse?, print, Json.parse?_indented hread]
  exact ofJson?_toJson hstorable

/-- A node as a list with an unknown shape and no label lines, and one that uses
    a further name for a field and null. -/
def lenientJson : Json := .record [
  ("edges", some (.arr [.arr [.str "a".toList, .str "b".toList, .null, .str "likes".toList]])),
  ("nodes", some (.arr [
    .arr [.str "a".toList, .str "A".toList, .arr [], .str "blob".toList],
    .record [
      ("bridge", some (.record [
        ("targetLabel", some (.str "C".toList)), ("toDiagramIndex", some (.int 1))])),
      ("evidence", some (.arr [.record [("line", some (.int 3))], .null])),
      ("group", some .null),
      ("id", some (.str "b".toList)),
      ("weight", some .null)]]))]

/-- What is read of it. -/
def lenient : Diagram where
  nodes := [
    { id := "a".toList, label := "A".toList, labelLines := some [] },
    { id := "b".toList, bridge := some { toDiagram := 1, targetLabel := "C".toList },
      evidence := [.record [("line", some (.int 3))], .null] }]
  edges := [{ source := "a".toList, target := "b".toList }]

theorem parse?_print_lenient :
    lenientJson.sorted = lenientJson ∧ ofJson? lenientJson = .ok lenient ∧
      lenient.toJson.IsReadable Json.maxDepth ∧ parse? lenient.print = .ok lenient := by
  have hsorted : lenientJson.sorted = lenientJson := by decide +kernel
  have hd : ofJson? lenientJson = .ok lenient := by decide +kernel
  have hzero : Binary64.zero.ReadsBack := by decide +kernel
  have hline : (Json.record [("line", some (.int 3))]).IsReadable 123 := by
    refine Json.isReadable_record ?_
    simp only [List.forall_mem_cons, Option.mem_some_iff, forall_eq']
    exact ⟨.int _ (by decide), List.forall_mem_nil _⟩
  -- Four levels are for the diagram, and the rest is for what the evidence holds.
  have hread : lenient.toJson.IsReadable (123 + 4) := by
    refine isReadable_toJson ⟨?_, ?_, nofun⟩ ?_
    · simp only [lenient, List.forall_mem_cons]
      refine ⟨⟨List.forall_mem_nil _, by simp⟩, ⟨?_, by simp [wordLimit]⟩, List.forall_mem_nil _⟩
      simp only [List.forall_mem_cons]
      exact ⟨hline, .null _, List.forall_mem_nil _⟩
    · simp only [lenient, List.forall_mem_cons]
      exact ⟨⟨List.forall_mem_nil _⟩, List.forall_mem_nil _⟩
    · simp only [lenient, List.forall_mem_cons]
      exact ⟨hzero, hzero, List.forall_mem_nil _⟩
  exact ⟨hsorted, hd, hread, parse?_print hsorted hd hread⟩

end Diagram

end Flowchart
