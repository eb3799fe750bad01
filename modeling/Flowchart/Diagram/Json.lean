import Flowchart.Diagram.Basic
import Flowchart.Json.Decode
import Flowchart.Json.Encode
import Flowchart.Json.Reader

/-!
# Diagrams in JSON

A diagram is written as an object with its fields in declared order. Fields
that say nothing are left out: an absent label, an empty list of evidence, no
subgraphs. An empty list of label lines does say something, since it is not the
same as no label lines at all, and is written.

Reading is lenient where a generator of diagrams is likely to be sloppy. Every
field but the ids and the ends of edges has a default, several fields may be
null, an unknown shape is a rectangle and an unknown relation is none. The one
thing that is checked before anything else is that the diagram does not claim
to be of another kind.

## Main definitions

* `Diagram.toJson`: The value of a diagram.
* `Diagram.ofJson?`: The diagram of a value.
* `Diagram.print`: The text of a diagram.
* `Diagram.parse?`: The diagram of a text.
* `Diagram.ReadError`: Why there is no diagram.
-/

namespace Flowchart

/-- The name of the only kind of diagram there is. -/
def diagramKind : String := "flowchart"

/-! ### Writing -/

/-- The value of a bridge. -/
def Bridge.toJson (b : Bridge) : Json :=
  .record [("toDiagram", some (.ofNat b.toDiagram)), ("targetLabel", some (.str b.targetLabel))]

/-- The value of a node. -/
def Node.toJson (n : Node) : Json :=
  .record [
    ("id", some (.str n.id)),
    ("label", some (.str n.label)),
    ("labelLines", n.labelLines.map .ofTexts),
    ("shape", some (.ofString n.shape.name)),
    ("weight", some (.float n.weight)),
    ("group", n.group.map .str),
    ("bridge", n.bridge.map Bridge.toJson),
    ("evidence", Json.unlessEmpty n.evidence)]

/-- The value of an edge. -/
def Edge.toJson (e : Edge) : Json :=
  .record [
    ("from", some (.str e.source)),
    ("to", some (.str e.target)),
    ("label", e.label.map .str),
    ("kind", e.relation.map fun r => .ofString r.name),
    ("evidence", Json.unlessEmpty e.evidence)]

/-- The value of a subgraph. -/
def Subgraph.toJson (s : Subgraph) : Json :=
  .record [("title", some (.str s.title)), ("nodeIds", some (.ofTexts s.members))]

/-- The value of rendering hints. -/
def Style.toJson (s : Style) : Json :=
  .record [
    ("wrapLabelsAt", s.wrapLabelsAt.map .ofNat),
    ("nodeSpacing", s.nodeSpacing.map .ofNat),
    ("rankSpacing", s.rankSpacing.map .ofNat),
    ("renderer", s.renderer.map fun r => .ofString r.name)]

/-- The value of a direction. -/
def Direction.toJson (d : Direction) : Json := .ofString d.keyword

/-- The value of a diagram. -/
def Diagram.toJson (d : Diagram) : Json :=
  .record [
    ("kind", some (.ofString diagramKind)),
    ("direction", some d.direction.toJson),
    ("nodes", some (.arr (d.nodes.map Node.toJson))),
    ("edges", some (.arr (d.edges.map Edge.toJson))),
    ("subgraphs", Json.unlessEmpty (d.subgraphs.map Subgraph.toJson)),
    ("style", d.style.map Style.toJson)]

/-- The text of a diagram. -/
def Diagram.print (d : Diagram) : Text := d.toJson.indented

/-! ### Reading -/

/-- How a bridge is written. -/
def Bridge.layout : Layout Bridge where
  name := "Bridge"
  fields := ["toDiagram", "targetLabel"]
  required := ["toDiagram", "targetLabel"]
  aliases := [("toDiagramIndex", "toDiagram")]
  put
    | "toDiagram", v, b => return { b with toDiagram := ← v.toWord }
    | "targetLabel", v, b => return { b with targetLabel := ← v.toText }
    | _, _, b => return b

/-- The bridge of a value. -/
def Bridge.ofJson? (v : Json) : Decoded Bridge := Bridge.layout.decode {} v

/-- A shape by name, or the default one for null. -/
def Shape.ofJson? (v : Json) : Decoded Shape :=
  (v.toOption Json.toText).map fun name => (name.map Shape.ofName).getD .rect

/-- A relation by name, or none for null and for names that are not known. -/
def Relation.ofJson? (v : Json) : Decoded (Option Relation) :=
  (v.toOption Json.toText).map (·.bind Relation.ofName?)

/-- A direction by keyword. -/
def Direction.ofJson? (v : Json) : Decoded Direction := v.toVariant Direction.spellings

/-- How a node is written. -/
def Node.layout : Layout Node where
  name := "Node"
  fields := ["id", "label", "labelLines", "shape", "weight", "group", "bridge", "evidence"]
  required := ["id"]
  put
    | "id", v, n => return { n with id := ← v.toText }
    | "label", v, n => return { n with label := ← v.toText }
    | "labelLines", v, n => return { n with labelLines := ← v.toOption (·.toList Json.toText) }
    | "shape", v, n => return { n with shape := ← Shape.ofJson? v }
    | "weight", v, n =>
      return { n with weight := (← v.toOption Json.toBinary64).getD Binary64.zero }
    | "group", v, n => return { n with group := ← v.toOption Json.toText }
    | "bridge", v, n => return { n with bridge := ← v.toOption Bridge.ofJson? }
    | "evidence", v, n => return { n with evidence := ← v.toList .ok }
    | _, _, n => return n

/-- The node of a value. -/
def Node.ofJson? (v : Json) : Decoded Node := Node.layout.decode {} v

/-- How an edge is written. -/
def Edge.layout : Layout Edge where
  name := "Edge"
  fields := ["from", "to", "label", "kind", "evidence"]
  required := ["from", "to"]
  put
    | "from", v, e => return { e with source := ← v.toText }
    | "to", v, e => return { e with target := ← v.toText }
    | "label", v, e => return { e with label := ← v.toOption Json.toText }
    | "kind", v, e => return { e with relation := ← Relation.ofJson? v }
    | "evidence", v, e => return { e with evidence := ← v.toList .ok }
    | _, _, e => return e

/-- The edge of a value. -/
def Edge.ofJson? (v : Json) : Decoded Edge := Edge.layout.decode {} v

/-- How a subgraph is written. -/
def Subgraph.layout : Layout Subgraph where
  name := "Subgraph"
  fields := ["title", "nodeIds"]
  aliases := [("nodes", "nodeIds")]
  put
    | "title", v, s => return { s with title := ← v.toText }
    | "nodeIds", v, s => return { s with members := ← v.toList Json.toText }
    | _, _, s => return s

/-- The subgraph of a value. -/
def Subgraph.ofJson? (v : Json) : Decoded Subgraph := Subgraph.layout.decode {} v

/-- How rendering hints are written. -/
def Style.layout : Layout Style where
  name := "Style"
  fields := ["wrapLabelsAt", "nodeSpacing", "rankSpacing", "renderer"]
  put
    | "wrapLabelsAt", v, s => return { s with wrapLabelsAt := ← v.toOption Json.toHalfWord }
    | "nodeSpacing", v, s => return { s with nodeSpacing := ← v.toOption Json.toHalfWord }
    | "rankSpacing", v, s => return { s with rankSpacing := ← v.toOption Json.toHalfWord }
    | "renderer", v, s =>
      return { s with renderer := ← v.toOption (·.toVariant Renderer.spellings) }
    | _, _, s => return s

/-- The rendering hints of a value. -/
def Style.ofJson? (v : Json) : Decoded Style := Style.layout.decode {} v

/-- How a diagram is written. -/
def Diagram.layout : Layout Diagram where
  name := "Diagram"
  fields := ["kind", "direction", "nodes", "edges", "subgraphs", "style"]
  put
    | "kind", v, d => (v.toVariant [(diagramKind, ())]).map fun _ => d
    | "direction", v, d => return { d with direction := ← Direction.ofJson? v }
    | "nodes", v, d => return { d with nodes := ← v.toList Node.ofJson? }
    | "edges", v, d => return { d with edges := ← v.toList Edge.ofJson? }
    | "subgraphs", v, d => return { d with subgraphs := ← v.toList Subgraph.ofJson? }
    | "style", v, d => return { d with style := ← v.toOption Style.ofJson? }
    | _, _, d => return d

namespace Diagram

/-- Why there is no diagram. -/
inductive ReadError where
  /-- The diagram says that it is of another kind. -/
  | unsupportedKind (kind : Text)
  /-- The text is not JSON. -/
  | syntaxError
  /-- The value is not a diagram. -/
  | malformed (error : DecodeError)
deriving DecidableEq, Repr

/-- The error in words. What exactly is wrong with a text that is not JSON is
    not said. -/
def ReadError.message : ReadError → Text
  | .unsupportedKind kind => "unsupported diagram kind ".toList ++ DecodeError.ticked kind
  | .syntaxError => "invalid diagram JSON: <syntax>".toList
  | .malformed error => "invalid diagram JSON: ".toList ++ error.message

/-- The kind that a value claims to be of, if that is not a flow diagram. A
    kind that is not even a string is named by its JSON. -/
def foreignKind? (v : Json) : Option Text :=
  match v.field? "kind".toList with
  | none => none
  | some (.str kind) => if kind = diagramKind.toList then none else some kind
  | some kind => some kind.compact

/-- The diagram of a value. -/
def ofJson? (v : Json) : Except ReadError Diagram :=
  match foreignKind? v with
  | some kind => .error (.unsupportedKind kind)
  | none => (Diagram.layout.decode {} v).mapError .malformed

/-- The diagram of a text. -/
def parse? (t : Text) : Except ReadError Diagram :=
  match Json.parse? t with
  | some v => ofJson? v
  | none => .error .syntaxError

end Diagram

end Flowchart
