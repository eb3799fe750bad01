import Flowchart.Json.Token

/-!
# Reading JSON

The second half of reading JSON: the tokens of a text are fed one by one to a
machine that keeps the containers still open as a stack. A state says what may
come next, a token that may not come ends the reading, and the text is a value
if the machine has just finished one with nothing open. The recursion is on the
tokens, so the depth of a value costs no argument, and the limit on it is a
limit on the stack.

An object that is read is sorted by key, with the last of equal keys kept.

## Main definitions

* `Json.Reader`: A state of the machine.
* `Json.Reader.step`: What a token does to a state.
* `Json.parse?`: The value of a text.
-/

namespace Flowchart

namespace Json

/-- The most containers that may be open at once. -/
def maxDepth : Nat := 127

/-- An open container, with what it holds so far, last first. -/
inductive Frame where
  | array (items : List Json)
  | object (fields : List (Text × Json)) (key : Text)
deriving Repr

/-- What is expected next, and the containers that are open around it,
    innermost first. -/
inductive Reader where
  | value (outer : List Frame)
  | itemOrClose (outer : List Frame)
  | keyOrClose (outer : List Frame)
  | key (fields : List (Text × Json)) (outer : List Frame)
  | colon (fields : List (Text × Json)) (key : Text) (outer : List Frame)
  | after (v : Json) (outer : List Frame)
deriving Repr

namespace Reader

/-- A token that begins a value. -/
def begin (outer : List Frame) : Token → Option Reader
  | .scalar v => some (.after v outer)
  | .string t => some (.after (.str t) outer)
  | .openArray => if outer.length < maxDepth then some (.itemOrClose outer) else none
  | .openObject => if outer.length < maxDepth then some (.keyOrClose outer) else none
  | _ => none

/-- What a token does to a state. -/
def step : Reader → Token → Option Reader
  | .itemOrClose outer, .closeArray => some (.after (.arr []) outer)
  | .itemOrClose outer, token => begin (.array [] :: outer) token
  | .keyOrClose outer, .closeObject => some (.after (.obj []) outer)
  | .keyOrClose outer, .string k => some (.colon [] k outer)
  | .key fields outer, .string k => some (.colon fields k outer)
  | .colon fields k outer, .colon => some (.value (.object fields k :: outer))
  | .after v (.array items :: outer), .comma => some (.value (.array (v :: items) :: outer))
  | .after v (.array items :: outer), .closeArray => some (.after (.arr (v :: items).reverse) outer)
  | .after v (.object fields k :: outer), .comma => some (.key ((k, v) :: fields) outer)
  | .after v (.object fields k :: outer), .closeObject =>
    some (.after (.obj (sortFields ((k, v) :: fields).reverse)) outer)
  | .value outer, token => begin outer token
  | _, _ => none

end Reader

/-- The value of a text, if the text is JSON. -/
def parse? (t : Text) : Option Json := do
  match ← (← tokens t).foldlM Reader.step (.value []) with
  | .after v [] => some v
  | _ => none

end Json

end Flowchart
