import Flowchart.Diagram.Json

/-!
# Completions

What a generator answers with is text that should hold a diagram in JSON, often
with prose and code fences around it. Fences are taken off, and the text from
the first opening brace to the last closing one is read. It must be long enough
to be a diagram and must have a node.

## Main definitions

* `Usage`: How many tokens an answer took.
* `Completion`: An answer.
* `Completion.Fault`: Why an answer is of no use.
* `Completion.diagram?`: The diagram of an answer.
-/

namespace Flowchart

/-- The least number of bytes that can hold a diagram. -/
def minCompletionSize : Nat := 20

/-- The number of tokens read and written, counted in 64-bit words. -/
structure Usage where
  inputTokens : Nat := 0
  outputTokens : Nat := 0
deriving DecidableEq, Repr

namespace Usage

/-- The tokens of two answers together. -/
def add (u v : Usage) : Usage :=
  ⟨wrapWord (u.inputTokens + v.inputTokens), wrapWord (u.outputTokens + v.outputTokens)⟩

/-- All tokens together. -/
def total (u : Usage) : Nat := wrapWord (u.inputTokens + u.outputTokens)

/-- The value of a usage. -/
def toJson (u : Usage) : Json :=
  .record [
    ("inputTokens", some (.ofNat u.inputTokens)),
    ("outputTokens", some (.ofNat u.outputTokens))]

/-- How a usage is written. -/
def layout : Layout Usage where
  name := "Usage"
  fields := ["inputTokens", "outputTokens"]
  required := ["inputTokens", "outputTokens"]
  put
    | "inputTokens", v, u => return { u with inputTokens := ← v.toBounded wordLimit "u64" }
    | "outputTokens", v, u => return { u with outputTokens := ← v.toBounded wordLimit "u64" }
    | _, _, u => return u

end Usage

/-- An answer of a generator. -/
structure Completion where
  text : Text
  usage : Option Usage := none
deriving DecidableEq, Repr

namespace Completion

/-- Why an answer is of no use. -/
inductive Fault where
  /-- There are no braces around anything. -/
  | noObject
  /-- What is between the braces is too short. -/
  | tooShort (size : Nat)
  /-- It is no diagram. -/
  | unreadable (e : Diagram.ReadError)
  /-- The diagram is empty. -/
  | noNodes
deriving DecidableEq, Repr

/-- A fault in words. -/
def Fault.message : Fault → Text
  | .noObject => "no JSON object in completion".toList
  | .tooShort size => "completion is too short (".toList ++ Text.ofNat size ++ " chars)".toList
  | .unreadable e => e.message
  | .noNodes => "diagram has no nodes".toList

/-- Three backticks. -/
def fence : Text := ['\x60', '\x60', '\x60']

/-- A text without the fence lines around it. The rest of the line that opens a
    fence says what is inside and goes with it. -/
def unfenced (t : Text) : Text :=
  match Text.dropPrefix? fence t with
  | none => t
  | some r =>
    let body := (r.dropWhile (· != '\n')).drop 1
    (Text.dropSuffix? fence (Text.trimEnd body)).getD body

/-- The text from the first opening brace to the last closing brace. -/
def object? (t : Text) : Option Text :=
  match t.dropWhile (· != '\x7b') with
  | [] => none
  | opened => match Text.dropEndWhile (· != '\x7d') opened with
    | [] => none
    | object => some object

/-- The diagram of an answer. -/
def diagram? (t : Text) : Except Fault Diagram :=
  match object? (unfenced t.trim) with
  | none => .error .noObject
  | some object =>
    if object.size < minCompletionSize then .error (.tooShort object.size)
    else match Diagram.parse? object with
      | .error e => .error (.unreadable e)
      | .ok d => if d.nodes.isEmpty then .error .noNodes else .ok d

end Completion

end Flowchart
