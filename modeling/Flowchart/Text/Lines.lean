import Flowchart.Text.Basic

/-!
# Lines

Two ways to read a text as lines. `segments` are the pieces between line
feeds, so a text that ends with a line feed has an empty last piece; spans are
counted over these. `lines` leaves that empty piece out.

## Main definitions

* `Text.segments`: The pieces between line feeds.
* `Text.lines`: The lines of a text, each ended by a line feed or by the end.
-/

namespace Flowchart

namespace Text

/-- The pieces between line feeds, of which there is always at least one. -/
def segments (t : Text) : List Text := splitWhere (· == '\n') t

/-- The lines of a text. A line feed ends a line, and nothing follows the last
    one unless it has characters. -/
def lines (t : Text) : List Text :=
  let pieces := segments t
  if pieces.getLast? = some [] then pieces.dropLast else pieces

end Text

end Flowchart
