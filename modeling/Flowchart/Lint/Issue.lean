import Flowchart.Lint.Code
import Flowchart.Number.Word

/-!
# Issues

A single finding of the linter: its code, its severity, what it says, and where
it was found if that is known. Places are byte ranges of the text.

## Main definitions

* `Span`: A range of bytes.
* `Issue`: A finding.
* `Issue.text`: A finding on one line.
-/

namespace Flowchart

/-- A range of bytes, from its first to just after its last. -/
structure Span where
  first : Nat
  last : Nat
deriving DecidableEq, Repr

namespace Span

/-- The range between two positions, whichever comes first. -/
def between (a b : Nat) : Span := ⟨min a b, max a b⟩

/-- The number of bytes in a range. -/
def size (s : Span) : Nat := s.last - s.first

/-- There is nothing in the range. -/
def isEmpty (s : Span) : Bool := s.first == s.last

/-- The range moved to the right, with positions counted in 64-bit words. -/
def shift (s : Span) (distance : Nat) : Span :=
  between (wrapWord (s.first + distance)) (wrapWord (s.last + distance))

end Span

/-- A finding of the linter. -/
structure Issue where
  code : IssueCode
  severity : Severity := code.severity
  message : Text
  line : Option Nat := none
  span : Option Span := none
  help : Option Text := none
deriving DecidableEq, Repr

namespace Issue

/-- The grammar will refuse the text for this. -/
def isHigh (i : Issue) : Bool := i.severity == .high

/-- A finding on one line. -/
def text (i : Issue) : Text :=
  i.severity.name.toList ++ '[' :: i.code.name.toList ++ "]: ".toList ++ i.message ++
    match i.line with
    | some line => " (line ".toList ++ Text.ofNat line ++ [')']
    | none => []

end Issue

end Flowchart
