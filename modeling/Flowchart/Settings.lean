import Flowchart.Diagram.Text
import Flowchart.Json.Encode
import Flowchart.Label.Basic
import Flowchart.Partition.Options

/-!
# Settings

What a build can be told: how often it may ask again, how often it may repair,
how strictly it cleans labels, how large its diagrams may get, how they are
split and how they are printed. Everything has a default, and settings that are
read from a value name only what differs from it. They are written in more than
one format, so their layouts take the dialect that they are read in.

## Main definitions

* `BuildLimits`: The limits of the build loop.
* `SizeLimits`: The default budgets.
* `Settings`: All settings together.
* `Settings.ofJson?`: The settings of a value.
-/

namespace Flowchart

/-- The limits of the build loop. -/
structure BuildLimits where
  /-- How often the generator may be asked to refine or expand. -/
  maxIterations : Nat := 3
  /-- How many repairs a candidate may go through. -/
  maxRepairs : Nat := 8
  policy : LabelPolicy := .strict
  /-- How many bytes an excerpt may have. -/
  excerptSize : Nat := 2000
deriving DecidableEq, Repr

/-- The default budgets of a final diagram and of its outline. -/
structure SizeLimits where
  maxNodes : Nat := 12
  /-- Derived from the number of nodes unless it is given. -/
  maxEdges : Option Nat := none
  outlineMaxNodes : Nat := 6
  outlineMaxEdges : Nat := 8
deriving DecidableEq, Repr

namespace SizeLimits

/-- The budget of a final diagram. -/
def budget (l : SizeLimits) : Budget :=
  match l.maxEdges with
  | some edges => ⟨l.maxNodes, edges⟩
  | none => .forNodes l.maxNodes

/-- The budget of the outline of a diagram that has a budget. -/
def outlineBudget (l : SizeLimits) (target : Budget) : Budget :=
  ⟨min l.outlineMaxNodes target.maxNodes, min l.outlineMaxEdges target.maxEdges⟩

end SizeLimits

/-- All settings together. -/
structure Settings where
  limits : BuildLimits := {}
  sizes : SizeLimits := {}
  split : Partition.Options := {}
  compile : CompileOptions := {}
deriving DecidableEq, Repr

/-- How the limits of the build loop are written. -/
def BuildLimits.layout (d : Dialect) : Layout BuildLimits where
  name := "EngineConfig"
  fields := ["max_iterations", "max_repairs_per_candidate", "label_policy", "focus_excerpt_chars"]
  dialect := d
  put
    | "max_iterations", v, l => return { l with maxIterations := ← v.toWord }
    | "max_repairs_per_candidate", v, l => return { l with maxRepairs := ← v.toWord }
    | "label_policy", v, l => return { l with policy := ← d.toVariant LabelPolicy.spellings v }
    | "focus_excerpt_chars", v, l => return { l with excerptSize := ← v.toWord }
    | _, _, l => return l

/-- How the default budgets are written. -/
def SizeLimits.layout (d : Dialect) : Layout SizeLimits where
  name := "BudgetConfig"
  fields := ["max_nodes", "max_edges", "outline_max_nodes", "outline_max_edges"]
  dialect := d
  put
    | "max_nodes", v, l => return { l with maxNodes := ← v.toWord }
    | "max_edges", v, l => return { l with maxEdges := ← v.toOption Json.toWord }
    | "outline_max_nodes", v, l => return { l with outlineMaxNodes := ← v.toWord }
    | "outline_max_edges", v, l => return { l with outlineMaxEdges := ← v.toWord }
    | _, _, l => return l

/-- The default budgets of a value. -/
def SizeLimits.ofJson? (v : Json) : Decoded SizeLimits := (SizeLimits.layout .json).decode {} v

/-- How print options are written. -/
def CompileOptions.layout (d : Dialect) : Layout CompileOptions where
  name := "CompileOptions"
  fields := ["wrap_width", "max_wrapped_lines", "emit_groups", "emit_bridges"]
  dialect := d
  put
    | "wrap_width", v, o => return { o with wrapWidth := ← v.toWord }
    | "max_wrapped_lines", v, o => return { o with maxWrappedLines := ← v.toWord }
    | "emit_groups", v, o => return { o with emitGroups := ← v.toBool }
    | "emit_bridges", v, o => return { o with emitBridges := ← v.toBool }
    | _, _, o => return o

/-- The print options of a value. -/
def CompileOptions.ofJson? (v : Json) : Decoded CompileOptions :=
  (CompileOptions.layout .json).decode {} v

/-- The value of print options. -/
def CompileOptions.toJson (o : CompileOptions) : Json :=
  .record [
    ("wrap_width", some (.ofNat o.wrapWidth)),
    ("max_wrapped_lines", some (.ofNat o.maxWrappedLines)),
    ("emit_groups", some (.bool o.emitGroups)),
    ("emit_bridges", some (.bool o.emitBridges))]

/-- How settings are written. -/
def Settings.layout (d : Dialect) : Layout Settings where
  name := "AppConfig"
  fields := ["engine", "budgets", "split", "compile"]
  dialect := d
  put
    | "engine", v, s => return { s with limits := ← (BuildLimits.layout d).decode {} v }
    | "budgets", v, s => return { s with sizes := ← (SizeLimits.layout d).decode {} v }
    | "split", v, s => return { s with split := ← (Partition.Options.layout d).decode {} v }
    | "compile", v, s => return { s with compile := ← (CompileOptions.layout d).decode {} v }
    | _, _, s => return s

/-- The settings of a value in a format. -/
def Settings.decode (d : Dialect) (v : Json) : Decoded Settings := (Settings.layout d).decode {} v

/-- The settings of a value. -/
def Settings.ofJson? (v : Json) : Decoded Settings := Settings.decode .json v

end Flowchart
