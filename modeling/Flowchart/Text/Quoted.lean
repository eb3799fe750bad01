import Flowchart.Text.Basic
import Flowchart.Text.Printable

/-!
# Quoted Text

A text as it is quoted in a message: between double quotes, with a backslash
before a quote or a backslash, the short forms for tab, line feed, carriage
return and the null character, and the code point in braces for every other
character that cannot be seen on its own.

## Main definitions

* `Text.quoted`: A text between quotes.
-/

namespace Flowchart

namespace Text

/-- One character inside quotes. -/
def quotedChar (c : Char) : Text :=
  match c with
  | '\x00' => ['\\', '0']
  | '\t' => ['\\', 't']
  | '\r' => ['\\', 'r']
  | '\n' => ['\\', 'n']
  | '\\' => ['\\', '\\']
  | '"' => ['\\', '"']
  | c =>
    if isVisible c && !extendsGrapheme c then [c]
    else ['\\', 'u', '\x7b'] ++ Nat.toDigits 16 c.toNat ++ ['\x7d']

/-- A text between double quotes, escaped so that every character shows. -/
def quoted (t : Text) : Text := '"' :: t.flatMap quotedChar ++ ['"']

end Text

end Flowchart
