import Flowchart.Distinct
import Flowchart.Lint.Issue

/-!
# Lint Reports

All findings about one text, sorted by line. Findings without a line come last,
and findings on one line stay in the order in which they were made. A report is
good if none of its findings is severe.

## Main definitions

* `Report`: The findings about a text.
* `Report.ofFindings`: A report of findings in any order.
* `Report.ok`: No finding is severe.
* `Report.codes`, `Report.highCodes`: What the findings are about.
-/

namespace Flowchart

/-- The findings about a text. -/
structure Report where
  issues : List Issue := []
deriving DecidableEq, Repr

namespace Report

/-- Where a finding without a line is sorted: after every line there is. -/
def lineKey (i : Issue) : Nat := i.line.getD (wordLimit - 1)

/-- A report of findings in the order in which they were made. -/
def ofFindings (issues : List Issue) : Report := ⟨issues.mergeSort fun a b => lineKey a ≤ lineKey b⟩

/-- No finding is severe. -/
def ok (r : Report) : Bool := !r.issues.any (·.isHigh)

/-- The severe findings. -/
def high (r : Report) : List Issue := r.issues.filter (·.isHigh)

/-- What the findings are about, each code once. -/
def codes (r : Report) : List IssueCode := firsts id (r.issues.map (·.code))

/-- What the severe findings are about, each code once. -/
def highCodes (r : Report) : List IssueCode := firsts id (r.high.map (·.code))

/-- The number of findings of a severity. -/
def count (s : Severity) (r : Report) : Nat := r.issues.countP (·.severity == s)

/-- A report on one line: its first finding and how many more there are. -/
def text (r : Report) : Text :=
  match r.issues with
  | [] => "no issues".toList
  | [i] => i.text
  | i :: more => i.text ++ " (+".toList ++ Text.ofNat more.length ++ " more)".toList

end Report

end Flowchart
