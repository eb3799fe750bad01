import Flowchart.Diagram.Basic
import Flowchart.Text.Fold

/-!
# Rejections

Why the grammar refuses a text, and on which line. A cause holds what was found
and what was expected in its place; the kind of rule it breaks and its wording
follow from that.

## Main definitions

* `Grammar.Fault`: The kind of rule that a text breaks.
* `Grammar.Cause`: What exactly is wrong.
* `Grammar.Rejection`: A cause with the line it was found on.
* `Grammar.Rejection.message`: A rejection in words.
-/

namespace Flowchart

namespace Grammar

/-- The kind of rule that a text breaks. -/
inductive Fault where
  | missingHeader
  | invalidDirection
  | unclosedBlock
  | unmatchedEnd
  /-- A label or the text of an edge holds what ends it early. -/
  | bannedToken
  | reservedId
  | unicodePunct
  | unknownToken
  | invalidEdge
deriving DecidableEq, Repr

/-- The stable name of a fault. -/
def Fault.code : Fault → String
  | .missingHeader => "MISSING_HEADER"
  | .invalidDirection => "INVALID_DIRECTION"
  | .unclosedBlock => "UNCLOSED_BLOCK"
  | .unmatchedEnd => "UNMATCHED_END"
  | .bannedToken => "BANNED_TOKEN_IN_LABEL"
  | .reservedId => "RESERVED_ID"
  | .unicodePunct => "UNICODE_PUNCT"
  | .unknownToken => "UNKNOWN_TOKEN"
  | .invalidEdge => "INVALID_EDGE"

/-- What exactly is wrong. -/
inductive Cause where
  /-- A text begins with something other than a header, or with nothing. -/
  | noHeader (found : Text)
  /-- A character that no statement can hold. -/
  | foreignChar (c : Char)
  /-- An `end` with no block open. -/
  | unmatchedEnd
  /-- Text right after the closing delimiter of a label. -/
  | closedEarly (shape : Shape) (got : Text)
  /-- A token where another one was expected. -/
  | unexpected (fault : Fault) (expected : String) (got : Text)
deriving DecidableEq, Repr

/-- The kind of rule that a cause breaks. -/
def Cause.fault : Cause → Fault
  | .noHeader _ => .missingHeader
  | .foreignChar c => if isTypographic c then .unicodePunct else .unknownToken
  | .unmatchedEnd => .unmatchedEnd
  | .closedEarly _ _ => .bannedToken
  | .unexpected fault _ _ => fault

/-- A cause with the line it was found on, counted from one. -/
structure Rejection where
  cause : Cause
  line : Nat
deriving DecidableEq, Repr

/-- The opening of a message that names a line. -/
def parseError (line : Nat) : Text :=
  "Parse error on line ".toList ++ Text.ofNat line ++ ": ".toList

/-- What was expected and what was found. -/
def expecting (expected : String) (got : Text) : Text :=
  "Expecting '".toList ++ expected.toList ++ "', got '".toList ++ got ++ ['\'']

/-- A rejection in words. -/
def Rejection.message (r : Rejection) : Text :=
  match r.cause with
  | .noHeader found =>
    "No diagram type detected matching given configuration for text: ".toList ++ found
  | .foreignChar c =>
    "Lexical error on line ".toList ++ Text.ofNat r.line ++ ". Unrecognized text: '".toList
      ++ [c, '\'']
  | .unmatchedEnd =>
    parseError r.line ++ "Unexpected 'end' outside of a subgraph. ".toList
      ++ expecting "EOF" "end".toList
  | .closedEarly shape got =>
    parseError r.line ++ "text after '".toList
      ++ shape.closer :: "' closed the label early. ".toList ++ expecting "LINK" got
  | .unexpected _ expected got => parseError r.line ++ expecting expected got

/-- The kind of rule that a rejected text breaks. -/
def Rejection.fault (r : Rejection) : Fault := r.cause.fault

end Grammar

end Flowchart
