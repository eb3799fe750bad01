import Flowchart.Diagram.Basic
import Flowchart.Lint.Issue

/-!
# Findings

What the linter can find in a text, as causes that hold what was found. The
code, the wording and the advice of a finding follow from its cause.

## Main definitions

* `Finding`: A cause.
* `Finding.issue`: The issue that reports a cause.
-/

namespace Flowchart

/-- The most edge ends a node should have. -/
def maxFanOut : Nat := 12

/-- The most characters a printed label should have. -/
def maxLabelChars : Nat := 100

/-- What the linter can find. -/
inductive Finding where
  /-- A text without a single statement. -/
  | noHeader
  /-- A first statement that is no header. -/
  | wrongHeader (keyword : Text)
  | unclosedSubgraph
  | unmatchedEnd
  | reservedId (id : Text)
  | digitLeadingId (id : Text)
  | nonAsciiId (id : Text)
  | duplicateNode (id : Text)
  /-- A label that is not closed on its line. -/
  | unclosedLabel (id : Text) (shape : Shape)
  | closerInLabel (id : Text) (shape : Shape)
  | quoteInLabel (id : Text)
  | htmlInLabel (id : Text)
  | longLabel (id : Text) (length : Nat)
  | undeclaredNode (id : Text)
  | fanOut (id : Text) (degree : Nat)
  | quotedEdgeLabel (label : Text)
  | nonAsciiEdgeLabel (label : Text)
  /-- Text on an arrow that is not closed by a bar. -/
  | unclosedEdgeLabel
  /-- Text after dashes with no arrow to follow. -/
  | missingArrow
  | unknownArrow (token : Text)
  | typographic (c : Char)
deriving DecidableEq, Repr

namespace Finding

/-- A text between backticks. -/
def ticked (t : Text) : Text := '\x60' :: t ++ ['\x60']

/-- What a finding is about. -/
def code : Finding → IssueCode
  | .noHeader | .wrongHeader _ => .missingHeader
  | .unclosedSubgraph => .unclosedSubgraph
  | .unmatchedEnd => .unmatchedEnd
  | .reservedId _ => .reservedKeywordId
  | .digitLeadingId _ => .digitLeadingId
  | .nonAsciiId _ => .nonAsciiId
  | .duplicateNode _ => .duplicateNodeId
  | .unclosedLabel _ _ | .closerInLabel _ _ => .closerInLabel
  | .quoteInLabel _ => .quoteInLabel
  | .htmlInLabel _ => .htmlInLabel
  | .longLabel _ _ => .tooLongLabel
  | .undeclaredNode _ => .undeclaredNode
  | .fanOut _ _ => .fanOutExceeded
  | .quotedEdgeLabel _ => .quotedEdgeLabel
  | .nonAsciiEdgeLabel _ => .nonAsciiEdgeLabel
  | .unclosedEdgeLabel | .missingArrow | .unknownArrow _ => .invalidEdgeSyntax
  | .typographic _ => .unicodePunct

/-- A finding in words. -/
def message : Finding → Text
  | .noHeader => "text has no `flowchart` header".toList
  | .wrongHeader keyword =>
    "first statement ".toList ++ ticked keyword ++ " is not a `flowchart` header".toList
  | .unclosedSubgraph => "`subgraph` is never closed".toList
  | .unmatchedEnd => "`end` without an open `subgraph`".toList
  | .reservedId id => "node id ".toList ++ ticked id ++ " is a reserved keyword".toList
  | .digitLeadingId id => "node id ".toList ++ ticked id ++ " starts with a digit".toList
  | .nonAsciiId id => "node id ".toList ++ ticked id ++ " contains non-ASCII characters".toList
  | .duplicateNode id => "node ".toList ++ ticked id ++ " is declared more than once".toList
  | .unclosedLabel id shape =>
    "label of ".toList ++ ticked id ++ " is missing its closing ".toList ++ ticked [shape.closer]
  | .closerInLabel id shape =>
    "label of ".toList ++ ticked id ++ " contains its shape closer ".toList ++ ticked [shape.closer]
  | .quoteInLabel id => "label of ".toList ++ ticked id ++ " contains a quote".toList
  | .htmlInLabel id => "label of ".toList ++ ticked id ++ " contains HTML".toList
  | .longLabel id length =>
    "label of ".toList ++ ticked id ++ " is ".toList ++ Text.ofNat length
      ++ " chars long (max ".toList
      ++ Text.ofNat maxLabelChars ++ [')']
  | .undeclaredNode id => "node ".toList ++ ticked id ++ " is never declared".toList
  | .fanOut id degree =>
    "node ".toList ++ ticked id ++ " has ".toList ++ Text.ofNat degree ++ " edges (max ".toList
      ++ Text.ofNat maxFanOut ++ [')']
  | .quotedEdgeLabel label => "edge label ".toList ++ ticked label ++ " contains quotes".toList
  | .nonAsciiEdgeLabel label =>
    "edge label ".toList ++ ticked label ++ " contains non-ASCII characters".toList
  | .unclosedEdgeLabel => "edge label is missing its closing `|`".toList
  | .missingArrow => "edge text is missing its `-->` arrow".toList
  | .unknownArrow token => ticked token ++ " is not a supported arrow".toList
  | .typographic c => "typographic punctuation ".toList ++ ticked [c]

/-- Advice on a finding. -/
def help? : Finding → Option Text
  | .noHeader | .wrongHeader _ => some "start the text with `flowchart TB`".toList
  | .unclosedSubgraph => some "add a matching `end`".toList
  | .reservedId id | .digitLeadingId id =>
    some ("rename it, e.g. ".toList ++ ticked ('n' :: '_' :: id))
  | .closerInLabel _ _ => some "pick a shape whose closer does not occur in the label".toList
  | .fanOut _ _ => some "split the diagram or group the targets".toList
  | .unclosedEdgeLabel | .missingArrow | .unknownArrow _ =>
    some "use `a --> b` or `a -- text --> b`".toList
  | .typographic _ => some "use plain ASCII quotes and dashes".toList
  | _ => none

/-- The issue that reports a finding at a place. -/
def issue (f : Finding) (line : Option Nat) (span : Option Span) : Issue :=
  { code := f.code, message := f.message, line, span, help := f.help? }

end Finding

end Flowchart
