import Flowchart.Diagram.Basic
import Flowchart.Text.Lowercase

/-!
# Terms

A caller names the nodes that matter by terms. A term names every node whose
id, label or label line it is, without regard to case and outer blanks. A blank
term names nothing.

## Main definitions

* `Text.asTerm`: A text as it is compared.
* `Node.isNamedBy`: One of some terms names the node.
-/

namespace Flowchart

/-- A text as it is compared with terms. -/
def Text.asTerm (t : Text) : Text := t.trim.lower

/-- The terms that name something, as they are compared. -/
def properTerms (terms : List Text) : List Text := (terms.map Text.asTerm).filter (· ≠ [])

namespace Node

/-- What a term can be to name a node. -/
def names (n : Node) : List Text := n.id :: n.label :: n.labelLines.getD []

/-- One of the terms names the node. -/
def isNamedBy (terms : List Text) (n : Node) : Bool :=
  (properTerms terms).any fun term => (n.names.map Text.asTerm).contains term

end Node

end Flowchart
