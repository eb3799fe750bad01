import Flowchart.Build.Loop
import Flowchart.Focus.Excerpt
import Flowchart.Partition.Pack

/-!
# Builds

A build starts from a specification or from a long text with a focus. A
specification that is a diagram is used as it stands, and any other is handed to
the generator to outline, unless it claims to be a diagram of another kind. For
a focus, the generator outlines an excerpt of the text in a small budget, and
the outline is expanded towards the full one.

A diagram that comes out of the loop is split into a pack, and every unit of the
pack is printed.

## Main definitions

* `Success`: A finished build.
* `Engine.fromSpec`: A build from a specification.
* `Engine.focused`: A build from a text with a focus.
-/

namespace Flowchart

/-- A finished build. -/
structure Success where
  pack : Partition.Pack
  /-- The text of every unit. -/
  texts : List Text
  /-- The accepted diagram before it was split. -/
  diagram : Diagram
  reasons : Trail
  /-- How often the generator was asked to refine or expand. -/
  iterations : Nat
  usage : Usage
deriving DecidableEq, Repr

namespace Engine

variable {σ : Type} (e : Engine σ)

/-- A diagram split into a pack and printed. -/
def finish (split : Partition.Options) (s : Solved) : Success :=
  let pack := Partition.split split e.settings.limits.policy s.diagram
  { pack
    texts := pack.pieces.map fun u => e.print u.diagram
    diagram := s.diagram
    reasons := s.reasons
    iterations := s.iterations
    usage := s.usage }

/-- A build that ended, with what it came to split and printed. -/
def conclude (split : Partition.Options) (r : Ended σ) : Except Failure Success × Progress σ :=
  (r.1.map (e.finish split), r.2)

/-- The request to outline a whole source. -/
def sourceRequest (spec : Text) (direction : Direction) : OutlineRequest :=
  { source := spec, direction, budget := e.settings.sizes.budget }

/-- Where a build from a specification starts, unless the specification is a
    diagram of another kind. -/
def seedOf (spec : Text) (direction : Direction) : Except Text Seed :=
  match Diagram.parse? spec with
  | .ok d => .ok (if d.nodes.isEmpty then .outline (e.sourceRequest spec direction) else .diagram d)
  | .error (.unsupportedKind kind) => .error kind
  | .error _ => .ok (.outline (e.sourceRequest spec direction))

/-- A build from a specification. -/
def fromSpec (spec : Text) (direction : Direction) (split : Partition.Options) (world : σ) :
    Except Failure Success × Progress σ :=
  match e.seedOf spec direction with
  | .error kind => (.error { error := .unsupportedKind kind }, { world })
  | .ok seed => e.conclude split (e.solve seed { direction } world)

/-- A build from a text with a focus. -/
def focused (source : Text) (f : Focus) (split : Partition.Options) (world : σ) :
    Except Failure Success × Progress σ :=
  let direction := f.direction.getD .down
  let budget := f.budget e.settings.sizes
  let excerpt := (Excerpt.select source f e.settings.limits.excerptSize).text
  let request : OutlineRequest :=
    { source := excerpt
      direction
      topic := some f.topic
      mustInclude := f.mustInclude
      exclude := f.exclude
      budget := e.settings.sizes.outlineBudget budget }
  let goal : Goal :=
    { direction
      budget := some budget
      mustInclude := f.mustInclude
      exclude := f.exclude
      expandFrom := some excerpt
      subgraphTitle := f.subgraphTitle }
  e.conclude split (e.solve (.outline request) goal world)

/-- The validator's word on a text, if it ever answers. -/
def check (t : Text) (world : σ) : Option (Except BuildError Unit) × σ :=
  let (verdict, world) := e.validate t world
  (verdict.map (·.mapError .ofObjection), world)

end Engine

/-- The engine that has no generator and validates by the grammar. It builds
    diagrams that are given to it, as far as repairs go. -/
def Engine.offline (settings : Settings) : Engine Unit where
  settings
  ask _ _ := (some (.error (.unavailable "no oracle configured".toList)), ())
  validate t _ := (some (Grammar.verdict t), ())
  isCancelled _ := false
  remembers := false
  record _ _ := ()
  recent _ _ := ([], ())

end Flowchart
