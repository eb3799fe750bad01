import Flowchart.Diagram.Term
import Flowchart.Number.Word

/-!
# Budgets

How many nodes and edges a diagram may have. A diagram over its budget is
pruned, lightest nodes first, but never of a node that matters: one that a term
names, a decision, or a hub at which many edges meet. Edges of pruned nodes go
with them. Of the edges that are left, those that say most are kept: those with
a relation, then those with a label, then those that start where most edges
meet.

## Main definitions

* `Budget`: The most nodes and edges.
* `Budget.forNodes`: A budget derived from a number of nodes.
* `Budget.hasHeadroom`: A diagram could grow.
* `Budget.expansionTarget`: How far it should grow next.
* `Budget.enforce`: A diagram pruned to a budget.
-/

namespace Flowchart

/-- The number of edge ends from which a node is a hub. -/
def hubDegree : Nat := 4

/-- The least number of edges that is derived from a number of nodes. -/
def minEdgeBudget : Nat := 16

/-- A quotient rounded up. -/
def ceilDiv (n d : Nat) : Nat := (n + d - 1) / d

/-- The most nodes and edges that a diagram may have. -/
structure Budget where
  maxNodes : Nat
  maxEdges : Nat
deriving DecidableEq, Repr, Inhabited

namespace Budget

/-- Half as many edges again as nodes, but not too few. The threefold is taken
    in a 64-bit word. -/
def forNodes (nodes : Nat) : Budget := ⟨nodes, max (ceilDiv (wrapWord (nodes * 3)) 2) minEdgeBudget⟩

/-- The diagram could grow in nodes or in edges. -/
def hasHeadroom (b : Budget) (d : Diagram) : Bool :=
  d.nodes.length < b.maxNodes || d.edges.length < b.maxEdges

/-- A third of the budget more than there is, within the budget. -/
def expansionTarget (b : Budget) (d : Diagram) : Budget :=
  ⟨min (d.nodes.length + ceilDiv b.maxNodes 3) b.maxNodes,
    min (d.edges.length + ceilDiv b.maxEdges 3) b.maxEdges⟩

/-- The node matters: a term names it, it is a decision, or it is a hub. -/
def isProtected (terms : List Text) (d : Diagram) (n : Node) : Bool :=
  n.isNamedBy terms || n.shape == .decision || hubDegree ≤ d.degree n.id

/-- The order in which nodes are pruned: the lighter first, and the later id
    where weights agree. -/
def prunedBefore (m n : Node) : Bool :=
  m.weight.key < n.weight.key || (m.weight.key == n.weight.key && Text.upTo n.id m.id)

/-- The ids of the nodes that are pruned. -/
def pruned (b : Budget) (terms : List Text) (d : Diagram) : List Text :=
  let candidates := (d.nodes.filter (!isProtected terms d ·)).mergeSort prunedBefore
  (candidates.take (d.nodes.length - b.maxNodes)).map (·.id)

/-- How much an edge says: whether it has a relation, whether it has a label,
    and how many edges meet where it starts. -/
def rank (d : Diagram) (e : Edge) : List Nat :=
  [if e.relation.isSome then 1 else 0,
    if (e.label.map (!·.isEmpty)).getD false then 1 else 0,
    d.degree e.source]

/-- A diagram pruned to a budget. -/
def enforce (b : Budget) (terms : List Text) (d : Diagram) : Diagram :=
  let gone := b.pruned terms d
  let edges := d.edges.filter fun e => !gone.contains e.source && !gone.contains e.target
  { d with
    nodes := d.nodes.filter (!gone.contains ·.id)
    edges := (edges.mergeSort fun e f => !(rank d e < rank d f)).take b.maxEdges
    subgraphs := d.subgraphs.map fun s =>
      { s with members := s.members.filter (!gone.contains ·) } }

end Budget

end Flowchart
