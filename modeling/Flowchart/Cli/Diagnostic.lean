import Flowchart.Build.Engine
import Flowchart.Lint.Report
import Flowchart.Text.Ascii

/-!
# Diagnostics

What goes wrong in a run, and how it is shown. A text that the linter refuses is
shown as its findings one by one, the most severe first, each pointing at its
place in the text. Anything else is shown as a whole.

## Main definitions

* `Cli.RunError`: What goes wrong in a run.
* `Cli.Diagnostic`: A thing to show.
* `Cli.RunError.diagnostics`: All there is to show about an error.
-/

namespace Flowchart

namespace Cli

/-- What goes wrong in a run. -/
inductive RunError where
  /-- A file or the settings are at fault. -/
  | setup (e : BuildError)
  /-- A text has severe findings. -/
  | lint (r : Report)
  /-- A build ended without a diagram. -/
  | build (f : Failure)
deriving DecidableEq, Repr

namespace RunError

/-- An error in words. -/
def message : RunError → Text
  | .setup e => e.message
  | .lint r => "Lint failed: ".toList ++ r.text
  | .build f => "Build failed: ".toList ++ f.error.message

/-- The stable name of an error. -/
def code : RunError → String
  | .setup e => e.code
  | .lint _ => "LINT"
  | .build f => f.error.code

/-- What may help with an error. -/
def help? : RunError → Option Text
  | .setup (.config _) => some "check the TOML file passed with --config".toList
  | .build f =>
    if f.reasons.isEmpty then none
    else
      let codes := (Trail.codes f.reasons).map (·.name.toList)
      some ("reasons: ".toList ++ Text.join ", ".toList codes)
  | _ => none

end RunError

/-- A thing to show: a finding with the text it is about, or an error. -/
inductive Diagnostic where
  | issue (i : Issue)
  | failure (e : RunError)
deriving DecidableEq, Repr

namespace Diagnostic

/-- What is said. -/
def text : Diagnostic → Text
  | .issue i => i.message
  | .failure e => e.message

/-- The code that is shown. -/
def code : Diagnostic → Text
  | .issue i => i.code.name.toList
  | .failure e => "flowsmith::".toList ++ Text.lowerAscii e.code.toList

/-- How much a finding matters. -/
def severity? : Diagnostic → Option Severity
  | .issue i => some i.severity
  | .failure _ => none

/-- What may help. -/
def help? : Diagnostic → Option Text
  | .issue i => i.help
  | .failure e => e.help?

/-- A place in the text that is pointed at, with a word on it. -/
def label? : Diagnostic → Option (String × Span)
  | .issue i => i.span.map fun s => (i.code.description, s)
  | .failure _ => none

end Diagnostic

/-- All there is to show about an error. Findings of one severity stay in the
    order of the report. -/
def RunError.diagnostics : RunError → List Diagnostic
  | .lint r => (r.issues.mergeSort fun a b => b.severity.rank ≤ a.severity.rank).map .issue
  | e => [.failure e]

end Cli

end Flowchart
