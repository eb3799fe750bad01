import Flowchart.Diagram.Basic
import Flowchart.Distinct
import Flowchart.Identifier
import Flowchart.Label.Basic

/-!
# Canonical Form

Any diagram, however malformed, is brought into a form that can be printed.
Ids become identifiers that can name a node, and of several nodes with one id
the first of the heaviest is kept. Edges that end nowhere are dropped, and so
are repeated ones. A subgraph keeps the members that exist and needs two of
them. Labels are cleaned under a policy. Nodes are put in order, the heaviest
first and by id where weights agree.

References go through the same function as ids, so a reference follows
its node wherever that goes.

A label needs a shape whose closing delimiter it does not contain. If it
contains all three of them, the one of the rectangle is taken out and the node
becomes a rectangle.

## Main definitions

* `Binary64.normalized`: A weight that can be ordered.
* `Node.canonical`: One node in canonical form.
* `Diagram.canonical`: A diagram in canonical form.
-/

namespace Flowchart

/-- A weight as a finite number that is not -0.0, where anything else counts as
    no weight at all. -/
def Binary64.normalized (x : Binary64) : Binary64 :=
  if x.isFinite && !x.isZero then x else Binary64.zero

namespace Node

/-- Segments cleaned, without those that come out empty, and no more of them
    than a label may have. -/
def cleanSegments (r : LabelRules) (segments : List Text) : List Text :=
  ((segments.map (Label.clean r)).filter (· ≠ [])).take maxLabelLines

/-- The closing delimiter of the rectangle made a blank. -/
def openRect (t : Text) : Text := t.map fun c => if c = Shape.rect.closer then ' ' else c

/-- The cleaned segments of a node and a shape that is safe for them. -/
def drawing (r : LabelRules) (n : Node) : List Text × Shape :=
  let segments := cleanSegments r n.segments
  match n.shape.safe? segments with
  | some shape => (segments, shape)
  | none =>
    let segments := cleanSegments r (segments.map openRect)
    (segments, Shape.rect.safeOrRect segments)

/-- A cleaned group name, if anything is left of it. -/
def cleanGroup (group : Option Text) : Option Text :=
  (group.map (Label.clean .strict)).filter (· ≠ [])

/-- A bridge with a clean label, taken from the node or its id if nothing is
    left of its own. -/
def cleanBridge (id label : Text) (b : Bridge) : Bridge :=
  let candidates := [b.targetLabel, label].map (Label.clean .strict)
  { b with targetLabel := (candidates.find? (· ≠ [])).getD id }

/-- A node in canonical form. A label of which nothing is left is the id. Label
    lines are kept if there are several or if the node came with some. -/
def canonical (r : LabelRules) (n : Node) : Node :=
  let id := Identifier.ofText n.id
  let (drawn, shape) := drawing r n
  let segments := if drawn.isEmpty then [id] else drawn
  let label := segments.headD id
  { id
    label
    labelLines := if 1 < segments.length || n.labelLines.isSome then some segments else none
    shape
    weight := n.weight.normalized
    group := cleanGroup n.group
    bridge := n.bridge.map (cleanBridge id label)
    evidence := n.evidence }

/-- Put a node among nodes with distinct ids. A node with its id already there
    gives way only to a heavier one. -/
def keepHeaviest (nodes : List Node) (n : Node) : List Node :=
  match nodes with
  | [] => [n]
  | m :: rest =>
    if m.id = n.id then (if m.weight.lt n.weight then n else m) :: rest
    else m :: keepHeaviest rest n

/-- The order of nodes: the heavier first, and by id where weights agree. -/
def precedes (m n : Node) : Bool :=
  n.weight.key < m.weight.key || (n.weight.key == m.weight.key && Text.upTo m.id n.id)

end Node

namespace Edge

/-- An edge in canonical form, apart from whether its ends exist. -/
def canonical (e : Edge) : Edge :=
  { e with
    source := Identifier.ofText e.source
    target := Identifier.ofText e.target
    label := (e.label.map Label.cleanEdge).filter (· ≠ []) }

/-- What makes two edges the same one. -/
def signature (e : Edge) : Text × Text × Option Text := (e.source, e.target, e.label)

end Edge

namespace Subgraph

/-- A subgraph in canonical form, if two of its members exist. -/
def canonical? (hasNode : Text → Bool) (s : Subgraph) : Option Subgraph :=
  let members := firsts id ((s.members.map Identifier.ofText).filter hasNode)
  if 2 ≤ members.length then some ⟨Label.clean .strict s.title, members⟩ else none

end Subgraph

namespace Diagram

/-- The nodes in canonical form, one for every id, in the order in which their
    ids first occur. -/
def mergedNodes (p : LabelPolicy) (d : Diagram) : List Node :=
  (d.nodes.map (Node.canonical (.ofPolicy p))).foldl Node.keepHeaviest []

/-- A diagram in canonical form. -/
def canonical (p : LabelPolicy) (d : Diagram) : Diagram :=
  let merged := d.mergedNodes p
  let hasNode (id : Text) : Bool := merged.any (·.id = id)
  { direction := d.direction
    nodes := merged.mergeSort Node.precedes
    edges := firsts Edge.signature
      ((d.edges.map Edge.canonical).filter fun e => hasNode e.source && hasNode e.target)
    subgraphs := d.subgraphs.filterMap (Subgraph.canonical? hasNode)
    style := d.style }

end Diagram

end Flowchart
