import Flowchart.Diagram.Basic
import Flowchart.Distinct
import Flowchart.Text.Wrap

/-!
# Diagrams as Text

A canonical diagram is printed one statement to a line: the header, the nodes
in order, the subgraphs, a block for every group, and the edges. Nothing is
checked here, since canonical form is what makes each statement one that the
grammar accepts.

A label of several lines is printed as it stands, with line breaks between the
lines. A label of one line is wrapped. A node that points into another diagram
is followed by a comment that says so.

Blocks need names of their own. A subgraph is named for its position and a
group block for its group, which two groups may share once their names are
spelled in letters, and nodes may be called the same. A name that is taken is
lengthened by underscores until it is free.

Wrapping may fail on labels that are not ASCII, so there is a text only
for diagrams whose labels wrap; canonical diagrams always have one.

## Main definitions

* `CompileOptions`: How labels wrap and what else is printed.
* `Diagram.lines?`: The lines of a diagram.
* `Diagram.text?`: The text of a diagram.
* `Diagram.text`: The text of a diagram whose labels wrap.
-/

namespace Flowchart

/-- How a diagram is printed. -/
structure CompileOptions where
  /-- The width at which labels wrap, unless the diagram names one. -/
  wrapWidth : Nat := 28
  /-- The most lines a wrapped label may have. -/
  maxWrappedLines : Nat := 4
  /-- Print a block for every group. -/
  emitGroups : Bool := true
  /-- Print a comment for every bridge. -/
  emitBridges : Bool := true
deriving DecidableEq, Repr

/-- The width that a diagram's own hint asks for, kept between ten and
    eighty. -/
def Style.wrapWidth? (s : Style) : Option Nat := s.wrapLabelsAt.map fun w => max 10 (min w 80)

/-- What separates the lines of a label in print. -/
def lineBreak : Text := "<br/>".toList

namespace Node

/-- The lines of a label as they are printed. -/
def printedLines? (width maxLines : Nat) (n : Node) : Option (List Text) :=
  match n.labelLines with
  | some (first :: second :: rest) => some (first :: second :: rest)
  | _ => n.displayLabel.wrap? width maxLines

/-- The statement that declares a node with its printed lines. -/
def declaration (n : Node) (lines : List Text) : Text :=
  n.id ++ n.shape.opener :: '"' :: Text.join lineBreak lines ++ ['"', n.shape.closer]

/-- The comment that names where a node's bridge leads. -/
def bridgeComment (n : Node) (b : Bridge) : Text :=
  "%% bridge ".toList ++ n.id ++ " -> diagram ".toList ++ Text.ofNat b.toDiagram ++ ": ".toList
    ++ b.targetLabel

/-- The lines that a node is printed as. -/
def lines? (width : Nat) (o : CompileOptions) (n : Node) : Option (List Text) :=
  (n.printedLines? width o.maxWrappedLines).map fun lines =>
    n.declaration lines :: (if o.emitBridges then (n.bridge.map n.bridgeComment).toList else [])

end Node

namespace Block

/-- A line inside a block that names a member. -/
def memberLine (id : Text) : Text := ' ' :: ' ' :: id

/-- The line that opens a block. -/
def header (name title : Text) : Text :=
  "subgraph ".toList ++ name ++
    (if title.isEmpty then [] else "[\"".toList ++ title ++ "\"]".toList)

/-- The lines of a block. -/
def lines (name title : Text) (members : List Text) : List Text :=
  header name title :: members.map memberLine ++ ["end".toList]

/-- A name lengthened by underscores until it is not among those taken. Each
    underscore rules one of them out, so their number is enough. -/
def lengthen (taken : List Text) : Nat → Text → Text
  | 0, name => name
  | more + 1, name => if taken.contains name then lengthen taken more (name ++ ['_']) else name

/-- A free name made from a wanted one. -/
def freeName (taken : List Text) (wanted : Text) : Text := lengthen taken taken.length wanted

/-- A block before it has a free name. -/
structure Draft where
  wanted : Text
  title : Text
  members : List Text
deriving DecidableEq, Repr

/-- A group name in the letters of an identifier. -/
def spelled (group : Text) : Text := group.map fun c => if c.isAlphanum then c else '_'

/-- The lines of blocks that are named one after the other. -/
def print (taken : List Text) : List Draft → List Text
  | [] => []
  | b :: bs =>
    let name := freeName taken b.wanted
    lines name b.title b.members ++ print (name :: taken) bs

end Block

namespace Edge

/-- The statement that draws an edge. -/
def line (e : Edge) : Text :=
  match e.label with
  | some label => e.source ++ " -- ".toList ++ label ++ " --> ".toList ++ e.target
  | none => e.source ++ " --> ".toList ++ e.target

end Edge

namespace Diagram

/-- The blocks of the subgraphs. -/
def subgraphBlocks (d : Diagram) : List Block.Draft :=
  d.subgraphs.zipIdx.map fun (s, i) => ⟨"sg".toList ++ Text.ofNat i, s.title, s.members⟩

/-- The nodes that are in a group and in no subgraph. -/
def looseNodes (d : Diagram) : List Node :=
  d.nodes.filter fun n => n.group.isSome && !d.subgraphs.any (·.members.contains n.id)

/-- The blocks of the groups, in the order in which the groups first occur. -/
def groupBlocks (d : Diagram) : List Block.Draft :=
  (firsts id (d.looseNodes.filterMap (·.group))).map fun g =>
    ⟨"grp_".toList ++ Block.spelled g, g, (d.looseNodes.filter (·.group = some g)).map (·.id)⟩

/-- The blocks of a diagram. -/
def blocks (o : CompileOptions) (d : Diagram) : List Block.Draft :=
  d.subgraphBlocks ++ if o.emitGroups then d.groupBlocks else []

/-- The line that opens a diagram. -/
def header (d : Diagram) : Text := "flowchart ".toList ++ d.direction.keyword.toList

/-- The width at which the labels of a diagram wrap. -/
def wrapWidth (o : CompileOptions) (d : Diagram) : Nat :=
  (d.style.bind Style.wrapWidth?).getD o.wrapWidth

/-- The lines of a diagram, if its labels wrap. -/
def lines? (o : CompileOptions) (d : Diagram) : Option (List Text) :=
  (d.nodes.mapM (Node.lines? (d.wrapWidth o) o)).map fun nodes =>
    d.header :: nodes.flatten ++ Block.print (d.nodes.map (·.id)) (d.blocks o)
      ++ d.edges.map Edge.line

/-- The text of a diagram, if its labels wrap. -/
def text? (o : CompileOptions) (d : Diagram) : Option Text := (d.lines? o).map (Text.join ['\n'])

/-- The text of a diagram whose labels wrap, as those of canonical diagrams
    do. -/
def text (o : CompileOptions) (d : Diagram) : Text := (d.text? o).getD []

end Diagram

end Flowchart
