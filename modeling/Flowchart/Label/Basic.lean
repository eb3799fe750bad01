import Flowchart.Diagram.Basic
import Flowchart.Label.Markup
import Flowchart.Text.Fold

/-!
# Labels

Every text that is drawn goes through here. What comes out is printable ASCII
with single blanks between words, no longer than it may be, and free of what
the rules in force ban.

Which characters those are is a matter of policy. The strict policy bans the
delimiters of every shape along with markup and quotes, so a label fits any
node. The permissive one keeps brackets, and the shape of the node is chosen so
that its closing delimiter does not occur in the label, if there is such a
shape.

An edge label is always strict. It stands between dashes and before an arrow,
so it also has no bars, no two dashes in a row and no dash at either end.

## Main definitions

* `LabelPolicy`: Strict or permissive.
* `LabelRules`: What is banned, and how long a label may be.
* `Label.scrub`: A label freed of what is banned.
* `Label.clean`: The same, cut to its length.
* `Label.cleanEdge`: A label for an edge.
* `Shape.safe?`: A shape whose closing delimiter is not in the label.
-/

namespace Flowchart

/-- How much of a node label is kept. -/
inductive LabelPolicy where
  /-- No brackets of any kind. -/
  | strict
  /-- Brackets stay, and shapes are chosen around them. -/
  | permissive
deriving DecidableEq, Repr, Inhabited

namespace LabelPolicy

/-- The policies by name. -/
def spellings : List (String × LabelPolicy) := [("strict", .strict), ("permissive", .permissive)]

/-- The name of a policy. -/
def name : LabelPolicy → String
  | .strict => "strict"
  | .permissive => "permissive"

end LabelPolicy

/-- What is banned from a label, and how long it may be. -/
structure LabelRules where
  banBrackets : Bool := true
  banMarkup : Bool := true
  banQuotes : Bool := true
  maxLength : Nat := maxNodeLabel
deriving DecidableEq, Repr

namespace LabelRules

/-- Everything that can be banned is banned. -/
def strict : LabelRules := {}

/-- The rules for node labels under a policy. -/
def ofPolicy (p : LabelPolicy) : LabelRules := { banBrackets := p = .strict }

end LabelRules

namespace Label

/-- A quote of one of the three kinds. -/
def isQuote (c : Char) : Bool := c == '"' || c == '\'' || c == '\x60'

/-- A bracket of one of the four kinds. -/
def isBracket (c : Char) : Bool :=
  c == '[' || c == ']' || c == '\x7b' || c == '\x7d' || c == '(' || c == ')' || c == '<' || c == '>'

/-- Words joined by single blanks. -/
def collapse (t : Text) : Text := Text.join [' '] t.words

/-- A banned character becomes a blank. -/
def unban (r : LabelRules) (c : Char) : Char :=
  if (r.banQuotes && isQuote c) || (r.banBrackets && isBracket c) then ' ' else c

/-- A label freed of what is banned, of any length. -/
def scrub (r : LabelRules) (t : Text) : Text :=
  let folded := t.fold
  let plain := if r.banMarkup then Markup.strip folded else folded
  collapse (plain.map (unban r))

/-- A label no longer than so many characters, without a blank at the end. -/
def cut (n : Nat) (t : Text) : Text := Text.trimEnd (t.take n)

/-- A label that follows the rules. -/
def clean (r : LabelRules) (t : Text) : Text := cut r.maxLength (scrub r t)

/-- Every run of dashes made a single one. -/
def squeezeDashes : Text → Text
  | '-' :: '-' :: t => squeezeDashes ('-' :: t)
  | c :: t => c :: squeezeDashes t
  | [] => []

/-- A dash or a blank, neither of which an edge label starts or ends with. -/
def isEdgeMargin (c : Char) : Bool := c == '-' || c == ' '

/-- A label for an edge. -/
def cleanEdge (t : Text) : Text :=
  let single := squeezeDashes ((scrub .strict t).map fun c => if c = '|' then ' ' else c)
  let short := (collapse single).take maxEdgeLabel
  Text.dropEndWhile isEdgeMargin (short.dropWhile isEdgeMargin)

end Label

namespace Shape

/-- No segment holds the closing delimiter of the shape. -/
def isSafe (segments : List Text) (s : Shape) : Bool := segments.all (!·.contains s.closer)

/-- The preferred shape if it is safe, and otherwise the first one that is. -/
def safe? (preferred : Shape) (segments : List Text) : Option Shape :=
  if preferred.isSafe segments then some preferred else all.find? (·.isSafe segments)

/-- A safe shape, or the rectangle if there is none. -/
def safeOrRect (preferred : Shape) (segments : List Text) : Shape :=
  (preferred.safe? segments).getD .rect

end Shape

end Flowchart
