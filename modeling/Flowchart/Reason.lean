import Flowchart.Lint.Code
import Flowchart.Text.Fold
import Flowchart.Text.Blank
import Flowchart.Text.Lowercase

/-!
# Reasons

Why a build needed more than one attempt. A rejection by the validator is
reduced to a reason. If the validator gives a code that is known, that decides;
otherwise the wording of its message is searched for what it is likely to mean.

Reasons gather on a trail, which holds each reason once, in the order in which
they first came up.

## Main definitions

* `ReasonCode`: What a failure is put down to.
* `ReasonCode.ofMessage`: What a message sounds like.
* `ReasonCode.ofFailure`: What a rejection is put down to.
* `Reason`: A code with the message that brought it up.
* `Trail`: The reasons of a build.
* `Trail.push`: A reason added unless its code is there.
-/

namespace Flowchart

/-- The most characters of a message that a reason keeps. -/
def maxReasonMessage : Nat := 200

/-- What a failure is put down to. -/
inductive ReasonCode where
  | missingHeader
  | unclosedBlock
  | bannedTokenInLabel
  | unicodePunct
  | unknownToken
  /-- The generator could not be reached, or what it made was of no use. -/
  | oracleFailure
  | other
  /-- A finding of the linter that backs up a rejection. -/
  | lint (code : IssueCode)
deriving DecidableEq, Repr

namespace ReasonCode

/-- The name of a reason. -/
def name : ReasonCode → String
  | .missingHeader => "MISSING_HEADER"
  | .unclosedBlock => "UNCLOSED_BLOCK"
  | .bannedTokenInLabel => "BANNED_TOKEN_IN_LABEL"
  | .unicodePunct => "UNICODE_PUNCT"
  | .unknownToken => "UNKNOWN_TOKEN"
  | .oracleFailure => "ORACLE_FAILURE"
  | .other => "OTHER"
  | .lint code => code.name

/-- The codes of validators, with the reasons they stand for. -/
def structured : List (String × ReasonCode) :=
  [("MISSING_HEADER", .missingHeader), ("UNCLOSED_BLOCK", .unclosedBlock),
    ("UNMATCHED_END", .unclosedBlock), ("BANNED_TOKEN_IN_LABEL", .bannedTokenInLabel),
    ("UNICODE_PUNCT", .unicodePunct), ("UNKNOWN_TOKEN", .unknownToken),
    ("RESERVED_ID", .unknownToken), ("INVALID_EDGE", .unknownToken),
    ("ORACLE_FAILURE", .oracleFailure), ("OTHER", .other)]

/-- The reason that a validator's code stands for, without regard to case and
    outer blanks. -/
def ofStructured? (code : Text) : Option ReasonCode :=
  (structured.find? (·.1.toList = code.trim.upperAscii)).map (·.2)

/-- A reason by name. The codes of validators are tried before those of the
    linter, and any other name is some other reason. -/
def ofName (name : Text) : ReasonCode :=
  (ofStructured? name).getD (((IssueCode.ofName? name).map .lint).getD .other)

/-- What a message says, in lower case, when a label was ended early. -/
def bannedTokenPatterns : List String := ["'sqe'", "'diamond_stop'", "'pe'", "tagend", "]]"]

/-- What a message sounds like. -/
def ofMessage (message : Text) : ReasonCode :=
  let lower := message.lower
  let mentions (s : String) : Bool := Text.hasInfix s.toList lower
  if mentions "no diagram type" then .missingHeader
  else if bannedTokenPatterns.any mentions then .bannedTokenInLabel
  else if mentions "expecting" && mentions "end" then .unclosedBlock
  else if message.any isTypographic then .unicodePunct
  else if mentions "unknown token" || mentions "lexical" then .unknownToken
  else .other

/-- What a rejection is put down to. -/
def ofFailure (message : Text) (code : Option Text) : ReasonCode :=
  (code.bind ofStructured?).getD (ofMessage message)

end ReasonCode

/-- A code with the message that brought it up. -/
structure Reason where
  code : ReasonCode
  message : Text
deriving DecidableEq, Repr

namespace Reason

/-- A reason with as much of its message as is kept. -/
def of (code : ReasonCode) (message : Text) : Reason := ⟨code, message.take maxReasonMessage⟩

/-- A reason on one line. -/
def text (r : Reason) : Text := r.code.name.toList ++ ": ".toList ++ r.message

end Reason

/-- The reasons of a build, in the order in which they came up. -/
abbrev Trail := List Reason

namespace Trail

/-- The codes on a trail. -/
def codes (t : Trail) : List ReasonCode := t.map (·.code)

/-- A reason added unless its code is there already. -/
def push (t : Trail) (r : Reason) : Trail := if (codes t).contains r.code then t else t ++ [r]

/-- Reasons added one after the other. -/
def pushAll (t : Trail) (reasons : List Reason) : Trail := reasons.foldl push t

/-- The codes of a trail on one line. -/
def text (t : Trail) : Text :=
  '[' :: Text.join ", ".toList ((codes t).map (·.name.toList)) ++ [']']

end Trail

end Flowchart
