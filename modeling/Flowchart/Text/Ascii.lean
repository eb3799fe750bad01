import Flowchart.Text.Basic

/-!
# ASCII

The character classes of the diagram grammar, which knows ASCII only, and the
letter case rule its keywords are compared under.

`Char.isAlpha`, `Char.isDigit`, `Char.isAlphanum`, `Char.toLower` and
`Char.toUpper` are already ASCII rules, so they are used as they stand.

## Main definitions

* `isWordChar`: A letter, a digit or an underscore.
* `isAsciiBlank`: A blank of the grammar.
* `isPrintable`: A character from space to tilde.
* `Text.isAscii`, `Text.lowerAscii`, `Text.upperAscii`: The same for texts.
-/

namespace Flowchart

/-- An ASCII letter, an ASCII digit or an underscore. -/
def isWordChar (c : Char) : Bool := c.isAlphanum || c == '_'

/-- A space, tab, line feed, form feed or carriage return. -/
def isAsciiBlank (c : Char) : Bool :=
  c == ' ' || c == '\t' || c == '\n' || c == '\x0c' || c == '\r'

/-- An ASCII character that can be seen, or the space. -/
def isPrintable (c : Char) : Bool := ' ' ≤ c && c ≤ '~'

/-- A character below code point 128. -/
def isAsciiChar (c : Char) : Bool := c.toNat < 128

namespace Text

/-- Every character of the text is ASCII. -/
def isAscii (t : Text) : Bool := t.all isAsciiChar

/-- ASCII capitals made small; all else stays. -/
def lowerAscii (t : Text) : Text := t.map Char.toLower

/-- ASCII small letters made capital; all else stays. -/
def upperAscii (t : Text) : Text := t.map Char.toUpper

end Text

end Flowchart
