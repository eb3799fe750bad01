import Flowchart.Build.Build

/-!
# Requests and Results in JSON

How the requests of a build and what it comes to are written.

## Main definitions

* `Request.toJson`: The value of a request.
* `Trail.toJson`: The value of a trail.
* `Success.toJson`: The value of a finished build.
-/

namespace Flowchart

/-- The value of a budget. -/
def Budget.toJson (b : Budget) : Json :=
  .record [("maxNodes", some (.ofNat b.maxNodes)), ("maxEdges", some (.ofNat b.maxEdges))]

/-- How a budget is written. -/
def Budget.layout : Layout Budget where
  name := "Budget"
  fields := ["maxNodes", "maxEdges"]
  required := ["maxNodes", "maxEdges"]
  put
    | "maxNodes", v, b => return { b with maxNodes := ← v.toWord }
    | "maxEdges", v, b => return { b with maxEdges := ← v.toWord }
    | _, _, b => return b

/-- The budget of a value. -/
def Budget.ofJson? (v : Json) : Decoded Budget := Budget.layout.decode ⟨0, 0⟩ v

/-- The value of a reason. -/
def Reason.toJson (r : Reason) : Json :=
  .record [("code", some (.ofString r.code.name)), ("message", some (.str r.message))]

/-- How a reason is written. -/
def Reason.layout : Layout Reason where
  name := "Reason"
  fields := ["code", "message"]
  required := ["code", "message"]
  put
    | "code", v, r => return { r with code := .ofName (← v.toText) }
    | "message", v, r => return { r with message := ← v.toText }
    | _, _, r => return r

/-- The reason of a value. -/
def Reason.ofJson? (v : Json) : Decoded Reason := Reason.layout.decode ⟨.other, []⟩ v

/-- The value of a trail. -/
def Trail.toJson (t : Trail) : Json := .arr (List.map Reason.toJson t)

/-- The trail of a value, taken as it stands. -/
def Trail.ofJson? (v : Json) : Decoded Trail := v.toList Reason.ofJson?

/-- The value of a request to outline. -/
def OutlineRequest.toJson (r : OutlineRequest) : Json :=
  .record [
    ("source", some (.str r.source)),
    ("direction", some r.direction.toJson),
    ("topic", some (.orNull .str r.topic)),
    ("mustInclude", some (.ofTexts r.mustInclude)),
    ("exclude", some (.ofTexts r.exclude)),
    ("budget", some r.budget.toJson)]

/-- The value of a request to refine. -/
def RefineRequest.toJson (r : RefineRequest) : Json :=
  .record [
    ("ir", some r.diagram.toJson),
    ("error", some (.str r.error)),
    ("reasons", some r.reasons.toJson),
    ("examples", some (.arr (r.examples.map Example.toJson))),
    ("budget", some (.orNull Budget.toJson r.budget))]

/-- The value of a request to expand. -/
def ExpandRequest.toJson (r : ExpandRequest) : Json :=
  .record [
    ("ir", some r.diagram.toJson),
    ("excerpt", some (.str r.excerpt)),
    ("target", some r.target.toJson),
    ("mustInclude", some (.ofTexts r.mustInclude)),
    ("exclude", some (.ofTexts r.exclude))]

/-- The value of a request. -/
def Request.toJson : Request → Json
  | .outline r => r.toJson
  | .refine r => r.toJson
  | .expand r => r.toJson

/-- The value of a finished build. -/
def Success.toJson (s : Success) : Json :=
  .record [
    ("pack", some s.pack.toJson),
    ("compiledDiagrams", some (.ofTexts s.texts)),
    ("ir", some s.diagram.toJson),
    ("reasons", some s.reasons.toJson),
    ("iterations", some (.ofNat s.iterations)),
    ("usage", some s.usage.toJson)]

end Flowchart
