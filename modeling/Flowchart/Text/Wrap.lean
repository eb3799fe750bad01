import Flowchart.Text.Blank

/-!
# Word Wrapping

A long label is drawn on several lines. Words are set greedily: a word goes on
the current line if it still fits there, and starts the next line if it does
not. A word wider than the line has a line to itself. When the lines are used
up and words are left over, the last line is cut short and ends in three dots.

Widths are counted in bytes, and so is the cut. In a text beyond ASCII the cut
may fall inside a character, and then there is no wrapped text at all. Labels
in canonical form are ASCII, where this cannot happen.

## Main definitions

* `Wrap.fill`: The lines that words make, and whether all of them fitted.
* `Wrap.shorten?`: A last line with dots at its end.
* `Text.wrap?`: The lines of a wrapped text.
-/

namespace Flowchart

namespace Wrap

/-- What ends a text that was cut. -/
def dots : Text := ['.', '.', '.']

/-- Set words on lines of a width, of which so many may still be begun. The
    current line is not empty. The second part of the result says that words
    were left over. -/
def fillFrom (width : Nat) (current : Text) : Nat → List Text → List Text × Bool
  | _, [] => ([current], false)
  | more, word :: words =>
    if current.size + 1 + word.size ≤ width then fillFrom width (current ++ ' ' :: word) more words
    else match more with
      | 0 => ([current], true)
      | more + 1 =>
        let (lines, cut) := fillFrom width word more words
        (current :: lines, cut)

/-- The lines that words make, at most so many, and whether words were left
    over. -/
def fill (width maxLines : Nat) : List Text → List Text × Bool
  | [] => ([], false)
  | word :: words => fillFrom width word (maxLines - 1) words

/-- A line cut so that the dots fit into the width, with the dots at its end. -/
def shorten? (width : Nat) (line : Text) : Option Text :=
  (line.takeBytes? (min (width - dots.length) line.size)).map fun kept => kept.trimEnd ++ dots

/-- A list with its last item exchanged. -/
def changeLast? (change : Text → Option Text) : List Text → Option (List Text)
  | [] => some []
  | [line] => (change line).map ([·])
  | line :: lines => (changeLast? change lines).map (line :: ·)

end Wrap

/-- The lines of a text wrapped to a width, at most so many. A width or a number
    of lines of zero asks for no wrapping. -/
def Text.wrap? (t : Text) (width maxLines : Nat) : Option (List Text) :=
  if width = 0 || maxLines = 0 then some [t]
  else
    let (lines, cut) := Wrap.fill width maxLines t.words
    if lines.isEmpty then some [[]]
    else if cut then Wrap.changeLast? (Wrap.shorten? width) lines
    else some lines

end Flowchart
