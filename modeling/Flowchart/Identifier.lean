import Flowchart.Text.Fold

/-!
# Identifiers

A node is referred to by an identifier: a letter or underscore followed by
letters, digits and underscores, all ASCII. Some such words are keywords of the
diagram language and cannot name a node, in any letter case.

`Identifier.ofText` turns any text into an identifier that can name a node.
Characters are folded to ASCII where they can be and become underscores where
they cannot. The result never starts with an underscore, so a text that is
already a legal identifier, is no keyword and starts with a letter is its own
identifier, and no other text is.

## Main definitions

* `Identifier.keywords`: The reserved words.
* `Identifier.isReserved`: A reserved word in any letter case.
* `Identifier.isLegal`: The form of an identifier.
* `Identifier.ofText`: The identifier made of a text.
-/

namespace Flowchart

namespace Identifier

/-- The words of the diagram language that cannot name a node. -/
def keywords : List String :=
  ["end", "subgraph", "graph", "class", "classDef", "direction", "style", "linkStyle", "click",
    "accTitle", "accDescr", "flowchart", "sequenceDiagram", "classDiagram", "erDiagram",
    "stateDiagram", "mindmap"]

/-- The text is a keyword in some letter case. -/
def isReserved (t : Text) : Bool := keywords.any fun k => Text.lowerAscii k.toList = t.lowerAscii

/-- A character that an identifier can start with. -/
def isStart (c : Char) : Bool := c.isAlpha || c == '_'

/-- The text has the form of an identifier. -/
def isLegal (t : Text) : Bool :=
  match t with
  | c :: r => isStart c && r.all isWordChar
  | [] => false

/-- What is put before a text that cannot stand as an identifier. -/
def mark : Text := ['n', '_']

/-- What one character of a text becomes in an identifier. -/
def letters (c : Char) : Text :=
  if isAsciiChar c then [if isWordChar c then c else '_']
  else match foldChar? c with
    | some s => s.toList.map fun f => if f.isAlphanum then f else '_'
    | none => ['_']

/-- A text marked unless it starts the way an identifier does. -/
def startProperly (t : Text) : Text :=
  match t with
  | c :: _ => if isStart c then t else mark ++ t
  | [] => mark

/-- A text whose opening underscores, if any, are exchanged for the mark. -/
def dropUnderscores (t : Text) : Text :=
  match t with
  | '_' :: _ => mark ++ t.dropWhile (· == '_')
  | t => t

/-- A text marked if it is a keyword. -/
def avoidKeyword (t : Text) : Text := if isReserved t then mark ++ t else t

/-- The identifier made of a text. -/
def ofText (t : Text) : Text :=
  avoidKeyword (dropUnderscores (startProperly (t.flatMap letters)))

end Identifier

end Flowchart
