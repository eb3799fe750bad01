import Flowchart.Json.Decode
import Flowchart.Diagram.Json
import Flowchart.Text.Blank
import Flowchart.Text.Lowercase

/-!
# Memory of Failures

What the validator rejected, and what it accepted instead, is remembered and
shown to the generator when it is asked to refine. A failure is known by the
gist of its error, which is how the error begins. Of failures with one gist
only the latest is kept, and of all of them only the last few.

Examples may be made to expire at once. They are then swept out whenever the
memory is next used.

## Main definitions

* `Example`: A rejected text with its error and its fix.
* `Example.gist`: What a failure is known by.
* `Memory`: The examples kept.
* `Memory.record`: One more example.
* `Memory.recent`: The last few examples.
-/

namespace Flowchart

/-- The most characters of a gist. -/
def maxGist : Nat := 160

/-- The most characters that are kept of an error or a text. -/
def maxExampleText : Nat := 1200

/-- A rejected text with its error, and the accepted text that fixed it. -/
structure Example where
  error : Text := []
  invalid : Text := []
  fixed : Option Text := none
deriving DecidableEq, Repr

namespace Example

/-- How the error begins, without regard to case and outer blanks. -/
def gist (e : Example) : Text := Text.lower (e.error.trim.take maxGist)

/-- The example with all texts cut to what is kept of them. -/
def clipped (e : Example) : Example :=
  ⟨e.error.take maxExampleText, e.invalid.take maxExampleText, e.fixed.map (·.take maxExampleText)⟩

/-- The value of an example. -/
def toJson (e : Example) : Json :=
  .record [
    ("error", some (.str e.error)),
    ("invalid", some (.str e.invalid)),
    ("fixed", some (.orNull .str e.fixed))]

/-- How an example is written. The corrected text may be left out of an object,
    but a list has a place for it. -/
def layout : Layout Example where
  name := "FewShot"
  fields := ["error", "invalid", "fixed"]
  required := ["error", "invalid"]
  requiredInList := ["error", "invalid", "fixed"]
  put
    | "error", v, e => return { e with error := ← v.toText }
    | "invalid", v, e => return { e with invalid := ← v.toText }
    | "fixed", v, e => return { e with fixed := ← v.toOption Json.toText }
    | _, _, e => return e

/-- The example of a value. -/
def ofJson? (v : Json) : Decoded Example := layout.decode {} v

end Example

/-- The examples kept, the oldest first, each under its gist. -/
structure Memory where
  /-- How many examples are kept. -/
  capacity : Nat := 4
  /-- Examples expire at once. -/
  expires : Bool := false
  entries : List (Text × Example) := []
deriving DecidableEq, Repr

namespace Memory

/-- The examples kept. -/
def toList (m : Memory) : List Example := m.entries.map (·.2)

/-- The number of examples kept. -/
def size (m : Memory) : Nat := m.entries.length

/-- The memory without what has expired. -/
def swept (m : Memory) : Memory := if m.expires then { m with entries := [] } else m

/-- The last so many items of a list. -/
def lastItems {α : Type} (n : Nat) (l : List α) : List α := l.drop (l.length - n)

/-- One more example, which takes the place of one with its gist. An example
    without a gist is not kept. -/
def record (m : Memory) (e : Example) : Memory :=
  if e.gist = [] then m
  else
    let others := m.swept.entries.filter (·.1 ≠ e.gist)
    { m with entries := lastItems m.capacity (others ++ [(e.gist, e.clipped)]) }

/-- The last so many examples, the oldest first, and the memory without what
    has expired. -/
def recent (m : Memory) (limit : Nat) : List Example × Memory :=
  (lastItems limit m.swept.toList, m.swept)

end Memory

end Flowchart
