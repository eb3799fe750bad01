import Flowchart.Json.Basic
import Flowchart.Text.Ascii
import Flowchart.Text.Blank

/-!
# Diagrams

A flow diagram: nodes, directed edges between them, titled groupings of nodes,
and hints for the renderer. It is the unit of work of every stage, and no stage
trusts it. Ids may collide or be illegal, edges may end nowhere and labels may
hold anything, until the diagram has been brought into canonical form.

A node is drawn as its label between the two delimiters of its shape. What is
drawn is a list of label segments, which are the label lines if the node has
any and otherwise its one label.

## Main definitions

* `Direction`, `Shape`, `Relation`, `Renderer`: The closed vocabularies.
* `Node`, `Edge`, `Subgraph`, `Style`, `Diagram`: The parts and the whole.
* `Node.segments`, `Node.displayLabel`: What is drawn of a node.
* `Diagram.degree`: How many edge ends meet at an id.
* `Diagram.density`: Edges per node.
* `Diagram.agrees`: Two diagrams are equal with their weights taken as numbers.
-/

namespace Flowchart

/-- The longest a segment of a node label may be, in characters. -/
def maxNodeLabel : Nat := 60

/-- The longest an edge label may be, in characters. -/
def maxEdgeLabel : Nat := 30

/-- The most segments a node label may have. -/
def maxLabelLines : Nat := 6

/-! ### Vocabularies -/

/-- Where the diagram flows: to the bottom, top, right or left. -/
inductive Direction where
  | down
  | up
  | right
  | left
deriving DecidableEq, Repr, Inhabited

namespace Direction

/-- The keyword of a direction. -/
def keyword : Direction → String
  | .down => "TB"
  | .up => "BT"
  | .right => "LR"
  | .left => "RL"

/-- The spellings of the directions, of which the downward one has two. -/
def spellings : List (String × Direction) :=
  [("TB", .down), ("TD", .down), ("BT", .up), ("LR", .right), ("RL", .left)]

/-- A direction by any spelling, without regard to case and outer blanks. -/
def ofText? (t : Text) : Option Direction :=
  (spellings.find? (·.1.toList = t.trim.upperAscii)).map (·.2)

/-- What is said of a text that spells no direction. -/
def unknown (t : Text) : Text :=
  "unknown direction ".toList ++ '\x60' :: t.trim.upperAscii ++ ['\x60']

end Direction

/-- The shape of a node. -/
inductive Shape where
  | rect
  | decision
  | terminator
deriving DecidableEq, Repr, Inhabited

namespace Shape

/-- Every shape, in the order in which they stand in for one another. -/
def all : List Shape := [.rect, .decision, .terminator]

/-- The name of a shape. -/
def name : Shape → String
  | .rect => "rect"
  | .decision => "decision"
  | .terminator => "terminator"

/-- The character that opens a label of this shape. -/
def opener : Shape → Char
  | .rect => '['
  | .decision => '\x7b'
  | .terminator => '('

/-- The character that closes a label of this shape. -/
def closer : Shape → Char
  | .rect => ']'
  | .decision => '\x7d'
  | .terminator => ')'

/-- The names under which shapes other than the rectangle are known. -/
def spellings : List (String × Shape) :=
  [("decision", .decision), ("diamond", .decision), ("rhombus", .decision),
    ("terminator", .terminator), ("stadium", .terminator), ("round", .terminator),
    ("rounded", .terminator)]

/-- A shape by name, without regard to case and outer blanks. Any other name
    is a rectangle. -/
def ofName (t : Text) : Shape :=
  ((spellings.find? (·.1.toList = t.trim.lowerAscii)).map (·.2)).getD .rect

end Shape

/-- What an edge says of its two ends. -/
inductive Relation where
  | causes
  | leadsTo
  | computes
  | dependsOn
  | configures
  | constrains
  | readsFrom
  | writesTo
  | validates
  | triggers
  | emits
deriving DecidableEq, Repr

namespace Relation

/-- Every relation. -/
def all : List Relation :=
  [.causes, .leadsTo, .computes, .dependsOn, .configures, .constrains, .readsFrom, .writesTo,
    .validates, .triggers, .emits]

/-- The name of a relation. -/
def name : Relation → String
  | .causes => "causes"
  | .leadsTo => "leads_to"
  | .computes => "computes"
  | .dependsOn => "depends_on"
  | .configures => "configures"
  | .constrains => "constrains"
  | .readsFrom => "reads_from"
  | .writesTo => "writes_to"
  | .validates => "validates"
  | .triggers => "triggers"
  | .emits => "emits"

/-- A relation by name, without regard to case and outer blanks. -/
def ofName? (t : Text) : Option Relation := all.find? (·.name.toList = t.trim.lowerAscii)

end Relation

/-- The layout engine that a diagram asks for. -/
inductive Renderer where
  | dagre
  | elk
deriving DecidableEq, Repr

namespace Renderer

/-- The name of a layout engine. -/
def name : Renderer → String
  | .dagre => "dagre"
  | .elk => "elk"

/-- Every layout engine under its name. -/
def spellings : List (String × Renderer) := [("dagre", .dagre), ("elk", .elk)]

end Renderer

/-! ### Parts of a diagram -/

/-- A pointer from a node to the diagram that holds the other end of one of its
    edges. -/
structure Bridge where
  toDiagram : Nat := 0
  targetLabel : Text := []
deriving DecidableEq, Repr

/-- A node. -/
structure Node where
  id : Text := []
  label : Text := []
  /-- Several lines of label, which go before the one label. -/
  labelLines : Option (List Text) := none
  shape : Shape := .rect
  /-- How central the node is; more is more important. -/
  weight : Binary64 := Binary64.zero
  /-- The name of a cluster. -/
  group : Option Text := none
  bridge : Option Bridge := none
  /-- Where the node comes from, carried through untouched. -/
  evidence : List Json := []
deriving DecidableEq, Repr

/-- A directed edge. -/
structure Edge where
  source : Text := []
  target : Text := []
  label : Option Text := none
  relation : Option Relation := none
  /-- Where the edge comes from, carried through untouched. -/
  evidence : List Json := []
deriving DecidableEq, Repr

/-- A titled grouping of nodes. -/
structure Subgraph where
  title : Text := []
  members : List Text := []
deriving DecidableEq, Repr

/-- Hints for the renderer, which never decide whether a diagram is valid. -/
structure Style where
  wrapLabelsAt : Option Nat := none
  nodeSpacing : Option Nat := none
  rankSpacing : Option Nat := none
  renderer : Option Renderer := none
deriving DecidableEq, Repr

/-- A flow diagram. -/
structure Diagram where
  direction : Direction := .down
  nodes : List Node := []
  edges : List Edge := []
  subgraphs : List Subgraph := []
  style : Option Style := none
deriving DecidableEq, Repr

/-! ### What is drawn, and how large it is -/

namespace Node

/-- The label segments that are drawn: the label lines if there are any, and
    otherwise the one label. -/
def segments (n : Node) : List Text :=
  match n.labelLines with
  | some (line :: lines) => line :: lines
  | _ => [n.label]

/-- The first segment that is not blank, or else the id. -/
def displayLabel (n : Node) : Text := (n.segments.find? (!·.isBlankText)).getD n.id

end Node

namespace Diagram

/-- The first node with an id. -/
def node? (d : Diagram) (id : Text) : Option Node := d.nodes.find? (·.id = id)

/-- Some node has the id. -/
def hasNode (d : Diagram) (id : Text) : Bool := d.nodes.any (·.id = id)

/-- The ends of all edges, edge by edge, the source first. -/
def ends (d : Diagram) : List Text := d.edges.flatMap fun e => [e.source, e.target]

/-- The number of edge ends at an id. An edge from a node to itself counts
    twice. -/
def degree (d : Diagram) (id : Text) : Nat := d.ends.count id

/-- Edges per node, where no node counts as one. -/
def density (d : Diagram) : Binary64 :=
  Binary64.ofFraction false d.edges.length (max d.nodes.length 1)

/-- The diagram with every weight of -0.0 written as 0.0. -/
def unsignedZeros (d : Diagram) : Diagram :=
  { d with nodes := d.nodes.map fun n => { n with weight := n.weight.unsignedZero } }

/-- The diagrams are equal when weights are taken as numbers, so that the two
    zeros agree. -/
def agrees (d e : Diagram) : Bool := d.unsignedZeros = e.unsignedZeros

end Diagram

end Flowchart
