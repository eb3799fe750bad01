import Flowchart.Diagram.Canonical
import Flowchart.Reason

/-!
# Repairs

Three mechanical repairs, each against one class of failure. The token repair
cleans every id and label as strictly as can be. The arity repair gives edges
that end nowhere a node to end at. The block repair takes away the smallest
block there is, a subgraph if there are any and a group otherwise. Each of them
ends in canonical form.

Findings and reasons say which repairs can help. They are tried in a fixed
order, and the first that changes the diagram is taken.

## Main definitions

* `RepairKind`: Which repair.
* `RepairKind.forIssue?`, `RepairKind.forReason`: Which repairs can help.
* `Diagram.fixTokens`, `Diagram.fixArity`, `Diagram.fixBlocks`: The repairs.
* `RepairKind.repair?`: The first repair that changes a diagram.
-/

namespace Flowchart

/-- Which mechanical repair. -/
inductive RepairKind where
  /-- Strict cleaning of every id and label. -/
  | token
  /-- Nodes for edges that end nowhere. -/
  | arity
  /-- The smallest block taken away. -/
  | block
deriving DecidableEq, Repr

namespace Diagram

/-- Every id and label cleaned strictly. -/
def fixTokens (d : Diagram) : Diagram := canonical .strict d

/-- A node of no weight that is labelled with its id. -/
def placeholder (id : Text) : Node := { id, label := id }

/-- The ids that edges end at and no node has, in the order in which they first
    occur. -/
def missingEnds (d : Diagram) : List Text := firsts id (d.ends.filter (!d.hasNode ·))

/-- A placeholder for every id that edges end at and no node has. Members of
    subgraphs that then still name no node are dropped. -/
def fixArity (d : Diagram) : Diagram :=
  let nodes := d.nodes ++ d.missingEnds.map placeholder
  canonical .strict
    { d with
      nodes
      subgraphs := d.subgraphs.map fun s =>
        { s with members := s.members.filter fun m => nodes.any (·.id = m) } }

/-- The first of the least items of a list. -/
def firstLeast {α : Type} (le : α → α → Bool) : List α → Option α
  | [] => none
  | a :: l => match firstLeast le l with
    | none => some a
    | some b => if le a b then some a else some b

/-- By number of members, then by title. -/
def smallerSubgraph (s t : Subgraph × Nat) : Bool :=
  s.1.members.length < t.1.members.length
    || (s.1.members.length == t.1.members.length && Text.upTo s.1.title t.1.title)

/-- The place of the smallest subgraph. -/
def smallestSubgraph? (d : Diagram) : Option Nat :=
  (firstLeast smallerSubgraph d.subgraphs.zipIdx).map (·.2)

/-- Every group with the number of its nodes, in the order in which the groups
    first occur. -/
def groupSizes (d : Diagram) : List (Text × Nat) :=
  let groups := d.nodes.filterMap (·.group)
  (firsts id groups).map fun g => (g, groups.count g)

/-- By number of nodes, then by name. -/
def smallerGroup (g h : Text × Nat) : Bool := g.2 < h.2 || (g.2 == h.2 && Text.upTo g.1 h.1)

/-- The smallest group. -/
def smallestGroup? (d : Diagram) : Option Text := (firstLeast smallerGroup d.groupSizes).map (·.1)

/-- The smallest subgraph taken away, or without subgraphs the smallest group
    dissolved. -/
def fixBlocks (d : Diagram) : Diagram :=
  canonical .strict <|
    match d.smallestSubgraph? with
    | some i => { d with subgraphs := d.subgraphs.eraseIdx i }
    | none => match d.smallestGroup? with
      | some g =>
        { d with
          nodes := d.nodes.map fun n => if n.group = some g then { n with group := none } else n }
      | none => d

end Diagram

namespace RepairKind

/-- The repairs in the order in which they are tried. -/
def order : List RepairKind := [.token, .arity, .block]

/-- The name of a repair. -/
def name : RepairKind → String
  | .token => "token"
  | .arity => "arity"
  | .block => "block"

/-- The repairs by name. -/
def spellings : List (String × RepairKind) :=
  [("token", .token), ("arity", .arity), ("block", .block)]

/-- A diagram after a repair. -/
def apply (k : RepairKind) (d : Diagram) : Diagram :=
  match k with
  | .token => d.fixTokens
  | .arity => d.fixArity
  | .block => d.fixBlocks

/-- The repair that helps against a finding. Nothing mechanical helps a crowded
    node. -/
def forIssue? : IssueCode → Option RepairKind
  | .undeclaredNode => some .arity
  | .unclosedSubgraph | .unmatchedEnd => some .block
  | .fanOutExceeded => none
  | _ => some .token

/-- The repairs that help against a reason. Against an unknown one, all of them
    may. -/
def forReason : ReasonCode → List RepairKind
  | .missingHeader | .bannedTokenInLabel | .unicodePunct | .unknownToken => [.token]
  | .unclosedBlock => [.block]
  | .other => order
  | .oracleFailure => []
  | .lint code => (forIssue? code).toList

/-- The repairs that help against some of the findings, in order. -/
def forIssues (codes : List IssueCode) : List RepairKind :=
  order.filter fun k => codes.any fun c => forIssue? c == some k

/-- The first of some repairs, in the fixed order, that changes the diagram. -/
def repair? (kinds : List RepairKind) (d : Diagram) : Option (RepairKind × Diagram) :=
  ((order.filter kinds.contains).map fun k => (k, k.apply d)).find? fun (_, e) => !e.agrees d

end RepairKind

end Flowchart
