import Flowchart.Text.Basic

/-!
# Blank

White space in the wide sense: the twenty-five characters with the Unicode
property White_Space. Labels, terms and lines are trimmed by this class, and
words are the runs between its members. The grammar's own tokens are set
apart by a smaller class, which is ASCII.

## Main definitions

* `isBlank`: A character with the property White_Space.
* `Text.trim`, `Text.trimStart`, `Text.trimEnd`: A text without its outer
  blanks.
* `Text.words`: The non-empty runs between blanks.
-/

namespace Flowchart

/-- A character with the Unicode property White_Space. -/
def isBlank (c : Char) : Bool :=
  let n := c.toNat
  (9 ≤ n && n ≤ 13) || n == 32 || n == 0x85 || n == 0xA0 || n == 0x1680
    || (0x2000 ≤ n && n ≤ 0x200A) || n == 0x2028 || n == 0x2029 || n == 0x202F
    || n == 0x205F || n == 0x3000

namespace Text

/-- A text without its opening blanks. -/
def trimStart (t : Text) : Text := t.dropWhile isBlank

/-- A text without its closing blanks. -/
def trimEnd (t : Text) : Text := dropEndWhile isBlank t

/-- A text without its outer blanks. -/
def trim (t : Text) : Text := trimEnd (trimStart t)

/-- Nothing but blanks. -/
def isBlankText (t : Text) : Bool := t.all isBlank

/-- The words of a text: its non-empty runs between blanks. -/
def words (t : Text) : List Text := (splitWhere isBlank t).filter (· ≠ [])

end Text

end Flowchart
