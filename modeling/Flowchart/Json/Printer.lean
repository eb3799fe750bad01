import Flowchart.Json.Basic
import Flowchart.Number.Shortest

/-!
# Printed JSON

Two layouts. The compact one has no blanks at all and stands inside messages;
the indented one puts every item and every field on a line of its own, two
blanks further in than what holds it, and leaves an empty list or object on
one line.

Characters beyond ASCII are written as they are. Only a quote, a backslash and
the controls are escaped, the latter by their short form where there is one.

## Main definitions

* `Json.compact`: A value without blanks.
* `Json.indented`: A value on many lines.
-/

namespace Flowchart

namespace Json

/-- Two lower case hexadecimal digits. -/
def hexPair (n : Nat) : Text := [Nat.digitChar (n / 16 % 16), Nat.digitChar (n % 16)]

/-- One character inside a JSON string. -/
def escapedChar (c : Char) : Text :=
  match c with
  | '"' => ['\\', '"']
  | '\\' => ['\\', '\\']
  | '\x08' => ['\\', 'b']
  | '\x0c' => ['\\', 'f']
  | '\n' => ['\\', 'n']
  | '\r' => ['\\', 'r']
  | '\t' => ['\\', 't']
  | c => if c.toNat < 0x20 then ['\\', 'u', '0', '0'] ++ hexPair c.toNat else [c]

/-- A text as a JSON string. -/
def stringText (t : Text) : Text := '"' :: t.flatMap escapedChar ++ ['"']

/-- An integer in decimal digits. -/
def intText (i : Int) : Text := (if i < 0 then ['-'] else []) ++ Text.ofNat i.natAbs

mutual

/-- A value without blanks. -/
def compact : Json → Text
  | .null => "null".toList
  | .bool b => (if b then "true" else "false").toList
  | .int i => intText i
  | .float x => x.text
  | .str t => stringText t
  | .arr items => '[' :: compactItems items ++ [']']
  | .obj fields => '\x7b' :: compactFields fields ++ ['\x7d']

/-- Items with commas between them. -/
def compactItems : List Json → Text
  | [] => []
  | [v] => compact v
  | v :: vs => compact v ++ ',' :: compactItems vs

/-- Fields with commas between them. -/
def compactFields : List (Text × Json) → Text
  | [] => []
  | [(k, v)] => stringText k ++ ':' :: compact v
  | (k, v) :: fields => stringText k ++ ':' :: compact v ++ ',' :: compactFields fields

end

/-- A new line at a level of indentation. -/
def newLine (level : Nat) : Text := '\n' :: List.replicate (2 * level) ' '

mutual

/-- A value on many lines, whose first line continues the current one. -/
def indentedAt (level : Nat) : Json → Text
  | .arr [] => ['[', ']']
  | .arr (v :: vs) => '[' :: indentedItems (level + 1) (v :: vs) ++ newLine level ++ [']']
  | .obj [] => ['\x7b', '\x7d']
  | .obj (f :: fs) => '\x7b' :: indentedFields (level + 1) (f :: fs) ++ newLine level ++ ['\x7d']
  | .null => "null".toList
  | .bool b => (if b then "true" else "false").toList
  | .int i => intText i
  | .float x => x.text
  | .str t => stringText t

/-- Items on lines of their own. -/
def indentedItems (level : Nat) : List Json → Text
  | [] => []
  | [v] => newLine level ++ indentedAt level v
  | v :: vs => newLine level ++ indentedAt level v ++ ',' :: indentedItems level vs

/-- Fields on lines of their own. -/
def indentedFields (level : Nat) : List (Text × Json) → Text
  | [] => []
  | [(k, v)] => newLine level ++ stringText k ++ [':', ' '] ++ indentedAt level v
  | (k, v) :: fields =>
    newLine level ++ stringText k ++ [':', ' '] ++ indentedAt level v
      ++ ',' :: indentedFields level fields

end

/-- A value on many lines. -/
def indented (v : Json) : Text := indentedAt 0 v

end Json

end Flowchart
