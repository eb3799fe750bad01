import Flowchart.Json.Encode
import Flowchart.Lint.Report

/-!
# Lint Reports in JSON

How findings and reports are written.

## Main definitions

* `Issue.toJson`: The value of a finding.
* `Report.toJson`: The value of a report.
-/

namespace Flowchart

/-- The value of a range. -/
def Span.toJson (s : Span) : Json :=
  .record [("start", some (.ofNat s.first)), ("end", some (.ofNat s.last))]

/-- The value of a finding. What is not known about it is left out. -/
def Issue.toJson (i : Issue) : Json :=
  .record [
    ("code", some (.ofString i.code.name)),
    ("severity", some (.ofString i.severity.name)),
    ("message", some (.str i.message)),
    ("line", i.line.map .ofNat),
    ("span", i.span.map Span.toJson),
    ("help", i.help.map .str)]

/-- The value of a report. -/
def Report.toJson (r : Report) : Json :=
  .record [("ok", some (.bool r.ok)), ("issues", some (.arr (r.issues.map Issue.toJson)))]

end Flowchart
