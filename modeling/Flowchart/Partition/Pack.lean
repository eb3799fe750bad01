import Flowchart.Diagram.Canonical
import Flowchart.Diagram.Json
import Flowchart.Partition.Options

/-!
# Packs

A diagram too large to read is split into a pack of linked diagrams. The nodes
of its canonical form, which come heaviest first, are cut into runs of one
length, and every run becomes a unit with the edges and subgraphs that lie
within it. An edge between two units is kept beside them, and a node that such
an edge leaves carries a bridge that names the unit at the other end, as long
as there are bridges to give.

A unit is brought into canonical form once more, since a bridge it has been
given needs a clean label.

## Main definitions

* `Partition.CrossEdge`: An edge between two units.
* `Partition.Heading`: The title lines of a unit.
* `Partition.Piece`: A unit.
* `Partition.Pack`: The units of a diagram and how they were made.
* `Partition.split`: The pack of a diagram.
-/

namespace Flowchart

namespace Partition

/-- The most bullets in the summary of a unit. -/
def maxSummaryBullets : Nat := 4

/-- An edge between two units. -/
structure CrossEdge where
  source : Text
  target : Text
  fromDiagram : Nat
  toDiagram : Nat
deriving DecidableEq, Repr

/-- The title lines of a unit. -/
structure Heading where
  title : Text
  subtitle : Text
deriving DecidableEq, Repr

/-- One diagram of a pack. -/
structure Piece where
  index : Nat
  diagram : Diagram
  heading : Heading
  summary : List Text
deriving DecidableEq, Repr

/-- The diagrams that a diagram was split into, and how. -/
structure Pack where
  mode : Mode
  limits : Limits
  crossEdges : List CrossEdge
  pieces : List Piece
deriving DecidableEq, Repr

namespace Pack

/-- The number of nodes over all units. -/
def nodeCount (p : Pack) : Nat := p.pieces.foldr (fun u n => u.diagram.nodes.length + n) 0

/-- The number of edges inside units. -/
def edgeCount (p : Pack) : Nat := p.pieces.foldr (fun u n => u.diagram.edges.length + n) 0

end Pack

/-- The order of nodes in a summary: the heavier first, and by what is drawn
    where weights agree. -/
def summaryBefore (m n : Node) : Bool :=
  n.weight.key < m.weight.key
    || (n.weight.key == m.weight.key && Text.upTo m.displayLabel n.displayLabel)

/-- What is drawn of the first few nodes. -/
def summary (d : Diagram) : List Text :=
  (((d.nodes.mergeSort summaryBefore).map (·.displayLabel.trim)).filter (· ≠ [])).take
    maxSummaryBullets

/-- A unit made of part of a diagram, with those of the subgraphs of which the
    part holds two members. -/
def piece (p : LabelPolicy) (index : Nat) (subgraphs : List Subgraph) (part : Diagram) : Piece :=
  let kept := (subgraphs.map fun s => { s with members := s.members.filter part.hasNode }).filter
    (2 ≤ ·.members.length)
  let d := Diagram.canonical p { part with subgraphs := kept }
  { index
    diagram := d
    heading :=
      { title :=
          (d.nodes.head?.map (·.displayLabel)).getD ("Diagram ".toList ++ Text.ofNat (index + 1))
        subtitle :=
          "Nodes ".toList ++ Text.ofNat d.nodes.length ++ ", edges ".toList
            ++ Text.ofNat d.edges.length }
    summary := summary d }

/-- The unit that a node falls into when nodes are cut into runs. -/
def unitOf (runLength : Nat) (d : Diagram) (id : Text) : Nat :=
  d.nodes.findIdx (·.id = id) / runLength

/-- The edges between units, in order. -/
def crossEdges (runLength : Nat) (d : Diagram) : List CrossEdge :=
  (d.edges.map fun e => CrossEdge.mk e.source e.target (unitOf runLength d e.source)
    (unitOf runLength d e.target)).filter fun c => c.fromDiagram ≠ c.toDiagram

/-- What is drawn of the node with an id. -/
def drawnLabel (d : Diagram) (id : Text) : Text := ((d.node? id).map (·.displayLabel)).getD id

/-- The nodes that get a bridge, with the bridge: the first few that an edge
    between units leaves, with the first such edge. -/
def bridges (most : Nat) (d : Diagram) (cross : List CrossEdge) : List (Text × Bridge) :=
  ((firsts (·.source) cross).take most).map fun c =>
    (c.source, ⟨c.toDiagram, drawnLabel d c.target⟩)

/-- A node with the bridge it is given, if it is given one. -/
def withBridge (given : List (Text × Bridge)) (n : Node) : Node :=
  match given.find? (·.1 = n.id) with
  | some (_, b) => { n with bridge := some b }
  | none => n

/-- The part of a diagram that falls into a unit. -/
def part (runLength : Nat) (given : List (Text × Bridge)) (d : Diagram) (index : Nat) : Diagram :=
  let holds (id : Text) : Bool := unitOf runLength d id = index
  { d with
    nodes := (d.nodes.filter (holds ·.id)).map (withBridge given)
    edges := d.edges.filter fun e => holds e.source && holds e.target }

/-- The pack of a diagram. -/
def split (o : Options) (p : LabelPolicy) (d : Diagram) : Pack :=
  let base := Diagram.canonical p d
  let nodes := base.nodes.length
  let k := min (o.parts nodes base.edges.length base.density) (max nodes 1)
  if k ≤ 1 then
    { mode := o.mode
      limits := o.limits
      crossEdges := []
      pieces := [piece p 0 base.subgraphs base] }
  else
    let runLength := max (ceilDiv nodes k) 1
    let cross := crossEdges runLength base
    let given := bridges o.limits.maxBridges base cross
    { mode := o.mode
      limits := o.limits
      crossEdges := cross
      pieces := (List.range (ceilDiv nodes runLength)).map fun i =>
        piece p i base.subgraphs (part runLength given base i) }

/-! ### Writing -/

/-- A number, or null if it is not finite. -/
def densityJson (x : Binary64) : Json := if x.isFinite then .float x else .null

/-- The value of limits. -/
def Limits.toJson (l : Limits) : Json :=
  .record [
    ("maxNodes", some (.ofNat l.maxNodes)),
    ("maxEdges", some (.ofNat l.maxEdges)),
    ("targetDensity", some (densityJson l.targetDensity)),
    ("maxBridges", some (.ofNat l.maxBridges))]

/-- The value of options. -/
def Options.toJson (o : Options) : Json :=
  .record [
    ("mode", some (.ofString o.mode.name)),
    ("budgets", some o.limits.toJson),
    ("count", some (.orNull .ofNat o.count))]

/-- The value of an edge between units. -/
def CrossEdge.toJson (c : CrossEdge) : Json :=
  .record [
    ("from", some (.str c.source)),
    ("to", some (.str c.target)),
    ("fromDiagram", some (.ofNat c.fromDiagram)),
    ("toDiagram", some (.ofNat c.toDiagram))]

/-- The value of a unit. -/
def Piece.toJson (u : Piece) : Json :=
  .record [
    ("index", some (.ofNat u.index)),
    ("ir", some u.diagram.toJson),
    ("heading", some (.record [
      ("title", some (.str u.heading.title)), ("subtitle", some (.str u.heading.subtitle))])),
    ("summaryBullets", some (.ofTexts u.summary))]

/-- The value of a pack. -/
def Pack.toJson (p : Pack) : Json :=
  .record [
    ("meta", some (.record [
      ("k", some (.ofNat p.pieces.length)),
      ("method", some (.ofString p.mode.name)),
      ("budgets", some p.limits.toJson),
      ("crossEdges", some (.arr (p.crossEdges.map CrossEdge.toJson)))])),
    ("diagrams", some (.arr (p.pieces.map Piece.toJson)))]

end Partition

end Flowchart
