import Flowchart.Budget
import Flowchart.Json.Decode

/-!
# Partition Options

Into how many parts a diagram is split. A fixed number can be asked for, or no
split at all. Otherwise a diagram is split when it has too many nodes, too many
edges or too many edges per node, into as many parts as the worst of the three
calls for, up to six.

## Main definitions

* `Partition.Mode`: How the number of parts is found.
* `Partition.Limits`: What a part may hold.
* `Partition.Options`: A mode with its settings.
* `Partition.Options.parts`: The number of parts for a size of diagram.
-/

namespace Flowchart

namespace Partition

/-- The most parts that a diagram is split into unless more are asked for. -/
def maxAutoParts : Nat := 6

/-- How the number of parts is found. -/
inductive Mode where
  /-- There is never more than one. -/
  | none
  /-- There are as many as the limits call for. -/
  | auto
  /-- There is a fixed number. -/
  | byCount
deriving DecidableEq, Repr

namespace Mode

/-- The name of a mode. -/
def name : Mode → String
  | .none => "none"
  | .auto => "auto"
  | .byCount => "byCount"

/-- The modes by name. -/
def spellings : List (String × Mode) := [("none", .none), ("auto", .auto), ("byCount", .byCount)]

end Mode

/-- What a part may hold before a diagram is split. -/
structure Limits where
  maxNodes : Nat := 18
  maxEdges : Nat := 22
  /-- The most edges per node. -/
  targetDensity : Binary64 := .ofFraction false 11 10
  /-- The most bridges over all parts together. -/
  maxBridges : Nat := 6
deriving DecidableEq, Repr

/-- A mode with its settings. -/
structure Options where
  mode : Mode := .auto
  limits : Limits := {}
  /-- The number of parts when it is fixed. -/
  count : Option Nat := none
deriving DecidableEq, Repr

namespace Options

/-- A fixed number of parts. -/
def byCount (n : Nat) : Options := { mode := .byCount, count := some n }

/-- A diagram of some size is over one of the limits. -/
def isOver (o : Options) (nodes edges : Nat) (density : Binary64) : Bool :=
  o.limits.maxNodes < nodes || o.limits.maxEdges < edges || o.limits.targetDensity.lt density

/-- The number of parts that a density calls for. -/
def partsByDensity (o : Options) (density : Binary64) : Nat :=
  if Binary64.zero.lt o.limits.targetDensity then
    (density.div o.limits.targetDensity).ceil maxAutoParts
  else 1

/-- The number of parts for a diagram of some size. -/
def parts (o : Options) (nodes edges : Nat) (density : Binary64) : Nat :=
  match o.mode with
  | .none => 1
  | .byCount => max (o.count.getD 1) 1
  | .auto =>
    if o.isOver nodes edges density then
      let byNodes := ceilDiv nodes (max o.limits.maxNodes 1)
      let byEdges := ceilDiv edges (max o.limits.maxEdges 1)
      min (max 1 (max (max byNodes byEdges) (o.partsByDensity density))) maxAutoParts
    else 1

end Options

/-- How limits are written. -/
def Limits.layout (d : Dialect) : Layout Limits where
  name := "PartitionBudgets"
  fields := ["maxNodes", "maxEdges", "targetDensity", "maxBridges"]
  dialect := d
  put
    | "maxNodes", v, l => return { l with maxNodes := ← v.toWord }
    | "maxEdges", v, l => return { l with maxEdges := ← v.toWord }
    | "targetDensity", v, l => return { l with targetDensity := ← v.toBinary64 }
    | "maxBridges", v, l => return { l with maxBridges := ← v.toWord }
    | _, _, l => return l

/-- How options are written. -/
def Options.layout (d : Dialect) : Layout Options where
  name := "PartitionOptions"
  fields := ["mode", "budgets", "count"]
  dialect := d
  put
    | "mode", v, o => return { o with mode := ← d.toVariant Mode.spellings v }
    | "budgets", v, o => return { o with limits := ← (Limits.layout d).decode {} v }
    | "count", v, o => return { o with count := ← v.toOption Json.toWord }
    | _, _, o => return o

/-- The options of a value. -/
def Options.ofJson? (v : Json) : Decoded Options := (Options.layout .json).decode {} v

end Partition

end Flowchart
