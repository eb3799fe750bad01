import Flowchart.Build.Completion
import Flowchart.Build.Memory
import Flowchart.Budget
import Flowchart.Grammar.Check
import Flowchart.Reason

/-!
# Requests and Answers

What passes between a build and those it works with. A generator is asked for a
first outline of a source, for a corrected version of a diagram that was
rejected, or for a richer version of one that was accepted. A validator is given
a text and has the last word on it.

Either of them may never answer, which only a cancelled build survives. So an
answer is optional everywhere, and none means that there was none to wait for.

## Main definitions

* `OutlineRequest`, `RefineRequest`, `ExpandRequest`: What a generator is asked.
* `OracleError`: Why it has no completion.
* `Objection`: What a validator has against a text.
* `BuildError`: Why a build ends without a diagram.
-/

namespace Flowchart

/-- The request for a first, coarse diagram of a source text. -/
structure OutlineRequest where
  source : Text
  direction : Direction
  topic : Option Text := none
  mustInclude : List Text := []
  exclude : List Text := []
  budget : Budget
deriving DecidableEq, Repr

/-- The request for a corrected version of a rejected diagram. -/
structure RefineRequest where
  diagram : Diagram
  error : Text
  reasons : Trail
  examples : List Example
  budget : Option Budget
deriving DecidableEq, Repr

/-- The request for a richer version of an accepted diagram. -/
structure ExpandRequest where
  diagram : Diagram
  excerpt : Text
  target : Budget
  mustInclude : List Text
  exclude : List Text
deriving DecidableEq, Repr

/-- Any request to a generator. -/
inductive Request where
  | outline (r : OutlineRequest)
  | refine (r : RefineRequest)
  | expand (r : ExpandRequest)
deriving DecidableEq, Repr

/-- Why a generator has no completion, or none that is of use. -/
inductive OracleError where
  | unavailable (reason : Text)
  | unusable (reason : Text)
deriving DecidableEq, Repr

/-- The error in words. -/
def OracleError.message : OracleError → Text
  | .unavailable reason => "oracle unavailable: ".toList ++ reason
  | .unusable reason => "unusable oracle output: ".toList ++ reason

/-- The diagram of a completion. -/
def Completion.read (t : Text) : Except OracleError Diagram :=
  (Completion.diagram? t).mapError fun f => .unusable f.message

/-- What a generator answers, if it ever does. -/
abbrev Reply := Option (Except OracleError Completion)

/-- What a validator has against a text. -/
structure Objection where
  message : Text
  code : Option Text := none
deriving DecidableEq, Repr

/-- What a validator answers, if it ever does. -/
abbrev Verdict := Option (Except Objection Unit)

/-- The grammar's verdict on a text. -/
def Grammar.verdict (t : Text) : Except Objection Unit :=
  (Grammar.check t).mapError fun r => ⟨r.message, some r.fault.code.toList⟩

/-- Why a build ends without a diagram, or something around it fails. -/
inductive BuildError where
  /-- A file cannot be read or written. -/
  | io (reason : Text)
  /-- The settings cannot be read. -/
  | config (reason : Text)
  /-- The validator rejects a text. -/
  | validation (code message : Text)
  /-- The generator was asked as often as it may be. -/
  | budgetExhausted (iterations : Nat)
  | oracle (e : OracleError)
  | unsupportedKind (kind : Text)
  | cancelled
deriving DecidableEq, Repr

namespace BuildError

/-- The stable name of an error. -/
def code : BuildError → String
  | .io _ => "IO"
  | .config _ => "CONFIG"
  | .validation _ _ => "VALIDATION"
  | .budgetExhausted _ => "BUDGET_EXHAUSTED"
  | .oracle _ => "ORACLE_FAILURE"
  | .unsupportedKind _ => "UNSUPPORTED_KIND"
  | .cancelled => "CANCELLED"

/-- An error in words. -/
def message : BuildError → Text
  | .io reason => "I/O error: ".toList ++ reason
  | .config reason => "Configuration error: ".toList ++ reason
  | .validation code message => "Validation failed [".toList ++ code ++ "]: ".toList ++ message
  | .budgetExhausted iterations =>
    "Iteration budget exhausted after ".toList ++ Text.ofNat iterations ++ " iterations".toList
  | .oracle e => "Oracle error: ".toList ++ e.message
  | .unsupportedKind kind => "Unsupported diagram kind: ".toList ++ kind
  | .cancelled => "Build cancelled".toList

/-- The error for a text that a validator rejects. -/
def ofObjection (r : Objection) : BuildError := .validation (r.code.getD "OTHER".toList) r.message

end BuildError

end Flowchart
