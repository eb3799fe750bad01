import Flowchart.Diagram.Json
import Flowchart.Diagram.Term
import Flowchart.Settings

/-!
# Focus

What a build made from a long text should be about: a topic, terms that must
come up, terms to stay away from, and how large the diagram may get. The nodes
that the terms name can be gathered in a subgraph of their own.

## Main definitions

* `Focus`: What a build should be about.
* `Focus.budget`: How large its diagram may get.
* `Diagram.gather`: The nodes that terms name, in a subgraph of their own.
-/

namespace Flowchart

/-- What a build should be about. -/
structure Focus where
  topic : Text := []
  mustInclude : List Text := []
  exclude : List Text := []
  maxNodes : Option Nat := none
  maxEdges : Option Nat := none
  direction : Option Direction := none
  /-- The title under which the nodes that must come up are gathered. -/
  subgraphTitle : Option Text := none
deriving DecidableEq, Repr

/-- How a focus is written. -/
def Focus.layout : Layout Focus where
  name := "FocusProfile"
  fields := [
    "topic", "mustInclude", "exclude", "maxNodes", "maxEdges", "direction", "subgraphTitle"]
  put
    | "topic", v, f => return { f with topic := ← v.toText }
    | "mustInclude", v, f => return { f with mustInclude := ← v.toList Json.toText }
    | "exclude", v, f => return { f with exclude := ← v.toList Json.toText }
    | "maxNodes", v, f => return { f with maxNodes := ← v.toOption Json.toWord }
    | "maxEdges", v, f => return { f with maxEdges := ← v.toOption Json.toWord }
    | "direction", v, f => return { f with direction := ← v.toOption Direction.ofJson? }
    | "subgraphTitle", v, f => return { f with subgraphTitle := ← v.toOption Json.toText }
    | _, _, f => return f

namespace Focus

/-- The focus of a value. -/
def ofJson? (v : Json) : Decoded Focus := layout.decode {} v

/-- The value of a focus. -/
def toJson (f : Focus) : Json :=
  .record [
    ("topic", some (.str f.topic)),
    ("mustInclude", some (.ofTexts f.mustInclude)),
    ("exclude", some (.ofTexts f.exclude)),
    ("maxNodes", some (.orNull .ofNat f.maxNodes)),
    ("maxEdges", some (.orNull .ofNat f.maxEdges)),
    ("direction", some (.orNull Direction.toJson f.direction)),
    ("subgraphTitle", some (.orNull .str f.subgraphTitle))]

/-- The budget of the final diagram. What the focus leaves open is taken from
    the default sizes, except that edges follow nodes that it does give. -/
def budget (f : Focus) (sizes : SizeLimits) : Budget :=
  let edges := match f.maxEdges, f.maxNodes with
    | some edges, _ => edges
    | none, some nodes => (Budget.forNodes nodes).maxEdges
    | none, none => sizes.budget.maxEdges
  ⟨f.maxNodes.getD sizes.budget.maxNodes, edges⟩

end Focus

/-- The nodes that terms name, put in a subgraph of their own and taken out of
    all others. Nothing changes for fewer than two nodes or a blank title. -/
def Diagram.gather (title : Text) (terms : List Text) (d : Diagram) : Diagram :=
  let members := (d.nodes.filter (·.isNamedBy terms)).map (·.id)
  if members.length < 2 || title.isBlankText then d
  else
    let others := d.subgraphs.map fun s =>
      { s with members := s.members.filter (!members.contains ·) }
    { d with subgraphs := others.filter (!·.members.isEmpty) ++ [⟨title, members⟩] }

end Flowchart
