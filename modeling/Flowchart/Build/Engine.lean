import Flowchart.Build.Request
import Flowchart.Lint.Survey
import Flowchart.Repair
import Flowchart.Settings

/-!
# Those a Build Works With

A build is a pure function of those it works with. They share a state of any
type: asking one of them, or looking whether the build is cancelled, is a
function of that state. A theorem about all builds is then a theorem about all
such functions, and a concrete build needs nothing but a state to run on.

Everything a build does that can be observed is written to a log, in order:
each text it prints, each request with its reply, each text it has validated
with the verdict, each repair it takes and each example it records.

## Main definitions

* `Engine`: Those a build works with, and its settings.
* `Event`: Something that happened during a build.
* `Progress`: What a build keeps track of.
* `Goal`: What a build aims for.
-/

namespace Flowchart

/-- Those a build works with, as functions of a state that they share, and the
    settings of the build. -/
structure Engine (σ : Type) where
  settings : Settings := {}
  /-- Ask the generator. -/
  ask : Request → σ → Reply × σ
  /-- Ask the validator. -/
  validate : Text → σ → Verdict × σ
  /-- The build has been cancelled. -/
  isCancelled : σ → Bool
  /-- Some memory is attached to the build. -/
  remembers : Bool
  /-- Record an example in the memory. -/
  record : Example → σ → σ
  /-- The last few examples in the memory. -/
  recent : Nat → σ → List Example × σ

/-- The number of examples that go with a request. -/
def examplesPerRequest : Nat := 4

/-- Something that happened during a build. -/
inductive Event where
  /-- A candidate was printed, in canonical form. -/
  | printed (d : Diagram) (text : Text)
  /-- The generator was asked. -/
  | asked (request : Request) (reply : Reply)
  /-- The validator was asked. -/
  | validated (text : Text) (verdict : Verdict)
  /-- A candidate was repaired. -/
  | repaired (kind : RepairKind) (candidate : Diagram)
  /-- An example was recorded. -/
  | recorded (e : Example)
deriving Repr

/-- What a build aims for. -/
structure Goal where
  direction : Direction
  /-- The budget that every candidate of the generator is pruned to. -/
  budget : Option Budget := none
  mustInclude : List Text := []
  exclude : List Text := []
  /-- What accepted diagrams are expanded from. Without it they are not. -/
  expandFrom : Option Text := none
  subgraphTitle : Option Text := none
deriving DecidableEq, Repr

/-- What a build keeps track of. -/
structure Progress (σ : Type) where
  world : σ
  log : List Event := []
  reasons : Trail := []
  usage : Usage := {}
  /-- How often the generator was asked to refine or expand. -/
  iterations : Nat := 0
  /-- How many repairs the candidate has gone through. -/
  repairs : Nat := 0
  /-- The texts printed so far. -/
  seen : List Text := []
  /-- The last diagram that was accepted. -/
  accepted : Option Diagram := none
  lastText : Option Text := none
  lastDiagram : Option Diagram := none
  /-- The error and text that led to the last request to refine, until they
      have been recorded with their fix. -/
  pendingFix : Option Example := none

namespace Progress

variable {σ : Type}

/-- One more event. -/
def happen (p : Progress σ) (e : Event) : Progress σ := { p with log := p.log ++ [e] }

/-- One more reason. -/
def blame (p : Progress σ) (r : Reason) : Progress σ := { p with reasons := p.reasons.push r }

end Progress

/-- A build that came to a diagram. -/
structure Solved where
  diagram : Diagram
  reasons : Trail
  iterations : Nat
  usage : Usage
deriving DecidableEq, Repr

/-- A build that did not. -/
structure Failure where
  error : BuildError
  lastText : Option Text := none
  lastDiagram : Option Diagram := none
  reasons : Trail := []
  iterations : Nat := 0
  usage : Usage := {}
deriving DecidableEq, Repr

end Flowchart
