import Flowchart.Json.Basic

/-!
# Encoding

Values put together from parts. A record is an object with its fields in
declared order, of which those without a value are left out.

## Main definitions

* `Json.record`: A record from its fields.
* `Json.ofTexts`, `Json.unlessEmpty`, `Json.orNull`: Values of parts.
-/

namespace Flowchart

namespace Json

/-- A record with its fields in declared order, those without a value left
    out. -/
def record (fields : List (String × Option Json)) : Json :=
  .obj (fields.filterMap fun (k, v) => v.map (k.toList, ·))

/-- A natural number. -/
def ofNat (n : Nat) : Json := .int n

/-- A constant text. -/
def ofString (s : String) : Json := .str s.toList

/-- A list of texts. -/
def ofTexts (ts : List Text) : Json := .arr (ts.map .str)

/-- A list, left out if it is empty. -/
def unlessEmpty (items : List Json) : Option Json :=
  if items.isEmpty then none else some (.arr items)

/-- A value, with null for none. -/
def orNull {α : Type} (encode : α → Json) : Option α → Json
  | some a => encode a
  | none => .null

end Json

end Flowchart
