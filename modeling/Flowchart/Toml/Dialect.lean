import Flowchart.Json.Decode
import Flowchart.Toml.Scalar

/-!
# TOML as a Dialect

How a value of a known type is written in TOML where that differs from JSON.
There is no null, so a value that says nothing is an empty table or an empty
list. A list may go on after the last field of a record, and what follows there
is never looked at. The value of a key that is not a field is looked at before
it is passed over, and then every number in it must be one that can be looked
at.

## Main definitions

* `Toml.allInRange`: Every number in a value is in range.
* `Toml.dialect`: What TOML admits.
-/

namespace Flowchart

namespace Toml

mutual

/-- Every integer in a value is in range. -/
def allInRange : Json → Bool
  | .int i => inRange i
  | .arr items => itemsInRange items
  | .obj fields => fieldsInRange fields
  | _ => true

/-- Every integer in a list of items is in range. -/
def itemsInRange : List Json → Bool
  | [] => true
  | v :: vs => allInRange v && itemsInRange vs

/-- Every integer in a list of fields is in range. -/
def fieldsInRange : List (Text × Json) → Bool
  | [] => true
  | (_, v) :: fields => allInRange v && fieldsInRange fields

end

/-- What TOML admits. -/
def dialect : Dialect where
  isUnit
    | .obj [] | .arr [] => true
    | _ => false
  allowsSurplus := true
  skip v := if allInRange v then .ok () else .error (.value (.ofJson v) "numbers in range")

end Toml

end Flowchart
