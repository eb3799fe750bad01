import Flowchart.Text.Basic

/-!
# Issue Codes

Every finding has a stable code, and every code has the severity its findings
carry unless that is overridden. A high severity means that the grammar will
refuse the text; the others are advice.

## Main definitions

* `Severity`: Low, medium or high.
* `IssueCode`: What a finding is about.
-/

namespace Flowchart

/-- How much a finding matters. -/
inductive Severity where
  | low
  | medium
  /-- The grammar will refuse the text. -/
  | high
deriving DecidableEq, Repr

namespace Severity

/-- The name of a severity. -/
def name : Severity → String
  | .low => "low"
  | .medium => "medium"
  | .high => "high"

/-- The severities by name. -/
def spellings : List (String × Severity) := [("low", .low), ("medium", .medium), ("high", .high)]

/-- The rank of a severity, the highest last. -/
def rank : Severity → Nat
  | .low => 0
  | .medium => 1
  | .high => 2

end Severity

/-- What a finding is about. -/
inductive IssueCode where
  | missingHeader
  | unclosedSubgraph
  | unmatchedEnd
  | reservedKeywordId
  | digitLeadingId
  | nonAsciiId
  | duplicateNodeId
  | closerInLabel
  | htmlInLabel
  | quoteInLabel
  | tooLongLabel
  | undeclaredNode
  | fanOutExceeded
  | quotedEdgeLabel
  | nonAsciiEdgeLabel
  | invalidEdgeSyntax
  | unicodePunct
deriving DecidableEq, Repr

namespace IssueCode

/-- Every code. -/
def all : List IssueCode :=
  [.missingHeader, .unclosedSubgraph, .unmatchedEnd, .reservedKeywordId, .digitLeadingId,
    .nonAsciiId, .duplicateNodeId, .closerInLabel, .htmlInLabel, .quoteInLabel, .tooLongLabel,
    .undeclaredNode, .fanOutExceeded, .quotedEdgeLabel, .nonAsciiEdgeLabel, .invalidEdgeSyntax,
    .unicodePunct]

/-- The stable name of a code. -/
def name : IssueCode → String
  | .missingHeader => "MISSING_HEADER"
  | .unclosedSubgraph => "UNCLOSED_SUBGRAPH"
  | .unmatchedEnd => "UNMATCHED_END"
  | .reservedKeywordId => "RESERVED_KEYWORD_ID"
  | .digitLeadingId => "DIGIT_LEADING_ID"
  | .nonAsciiId => "NON_ASCII_ID"
  | .duplicateNodeId => "DUPLICATE_NODE_ID"
  | .closerInLabel => "CLOSER_IN_LABEL"
  | .htmlInLabel => "HTML_IN_LABEL"
  | .quoteInLabel => "QUOTE_IN_LABEL"
  | .tooLongLabel => "TOO_LONG_LABEL"
  | .undeclaredNode => "UNDECLARED_NODE"
  | .fanOutExceeded => "FAN_OUT_EXCEEDED"
  | .quotedEdgeLabel => "QUOTED_EDGE_LABEL"
  | .nonAsciiEdgeLabel => "NON_ASCII_EDGE_LABEL"
  | .invalidEdgeSyntax => "INVALID_EDGE_SYNTAX"
  | .unicodePunct => "UNICODE_PUNCT"

/-- The codes by name. -/
def spellings : List (String × IssueCode) := all.map fun c => (c.name, c)

/-- A code by name. -/
def ofName? (t : Text) : Option IssueCode := all.find? (·.name.toList = t)

/-- What a code means, in a few words. -/
def description : IssueCode → String
  | .missingHeader => "missing diagram header"
  | .unclosedSubgraph => "unclosed subgraph"
  | .unmatchedEnd => "unmatched end"
  | .reservedKeywordId => "reserved keyword used as node id"
  | .digitLeadingId => "node id starts with a digit"
  | .nonAsciiId => "non-ASCII node id"
  | .duplicateNodeId => "duplicate node declaration"
  | .closerInLabel => "shape closer inside label"
  | .htmlInLabel => "HTML inside label"
  | .quoteInLabel => "quote inside label"
  | .tooLongLabel => "label too long"
  | .undeclaredNode => "undeclared node"
  | .fanOutExceeded => "fan-out exceeded"
  | .quotedEdgeLabel => "quoted edge label"
  | .nonAsciiEdgeLabel => "non-ASCII edge label"
  | .invalidEdgeSyntax => "invalid edge syntax"
  | .unicodePunct => "unicode punctuation"

/-- The severity of a code unless it is overridden. -/
def severity : IssueCode → Severity
  | .fanOutExceeded | .nonAsciiEdgeLabel | .unicodePunct => .medium
  | .tooLongLabel => .low
  | _ => .high

end IssueCode

end Flowchart
