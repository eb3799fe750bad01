import Flowchart.Number.Binary64
import Flowchart.Text.Basic

/-!
# JSON Values

Diagrams travel as JSON, and parts of a diagram stay JSON: the evidence on a
node or an edge is carried through every stage untouched.

A number is an integer when it is written as one and fits a 64-bit word, and
a 64-bit binary number otherwise. The two are different values, since they
print differently.

An object is a list of fields. The list has an order because a printed record
shows its fields in the order they are declared in, but an object that is read
has its fields sorted by key, with the last of several equal keys kept. `sorted`
brings any value into that form.

## Main definitions

* `Json`: A JSON value.
* `Json.field?`: The value of an object's field.
* `Json.insertField`: A field put into a sorted object.
* `Json.sorted`: A value with every object sorted by key.
-/

namespace Flowchart

/-- A JSON value. -/
inductive Json where
  | null
  | bool (b : Bool)
  | int (i : Int)
  | float (x : Binary64)
  | str (t : Text)
  | arr (items : List Json)
  | obj (fields : List (Text × Json))
deriving Repr, Inhabited

namespace Json

mutual

/-- Equality of two values can be decided. -/
def decideEq : (v w : Json) → Decidable (v = w)
  | .null, .null => isTrue rfl
  | .bool a, .bool b => if h : a = b then isTrue (h ▸ rfl) else isFalse (by simp [h])
  | .int a, .int b => if h : a = b then isTrue (h ▸ rfl) else isFalse (by simp [h])
  | .float a, .float b => if h : a = b then isTrue (h ▸ rfl) else isFalse (by simp [h])
  | .str a, .str b => if h : a = b then isTrue (h ▸ rfl) else isFalse (by simp [h])
  | .arr a, .arr b => match decideEqItems a b with
    | isTrue h => isTrue (h ▸ rfl)
    | isFalse h => isFalse (by simpa using h)
  | .obj a, .obj b => match decideEqFields a b with
    | isTrue h => isTrue (h ▸ rfl)
    | isFalse h => isFalse (by simpa using h)
  | .null, .bool _ | .null, .int _ | .null, .float _ | .null, .str _ | .null, .arr _ | .null, .obj _
  | .bool _, .null | .bool _, .int _ | .bool _, .float _ | .bool _, .str _ | .bool _, .arr _
  | .bool _, .obj _
  | .int _, .null | .int _, .bool _ | .int _, .float _ | .int _, .str _ | .int _, .arr _
  | .int _, .obj _
  | .float _, .null | .float _, .bool _ | .float _, .int _ | .float _, .str _ | .float _, .arr _
  | .float _, .obj _
  | .str _, .null | .str _, .bool _ | .str _, .int _ | .str _, .float _ | .str _, .arr _
  | .str _, .obj _
  | .arr _, .null | .arr _, .bool _ | .arr _, .int _ | .arr _, .float _ | .arr _, .str _
  | .arr _, .obj _
  | .obj _, .null | .obj _, .bool _ | .obj _, .int _ | .obj _, .float _ | .obj _, .str _
  | .obj _, .arr _ => isFalse (by simp)

/-- Equality of two lists of items can be decided. -/
def decideEqItems : (vs ws : List Json) → Decidable (vs = ws)
  | [], [] => isTrue rfl
  | v :: vs, w :: ws => match decideEq v w, decideEqItems vs ws with
    | isTrue h, isTrue hs => isTrue (h ▸ hs ▸ rfl)
    | isFalse h, _ => isFalse (by simp [h])
    | _, isFalse h => isFalse (by simp [h])
  | [], _ :: _ | _ :: _, [] => isFalse (by simp)

/-- Equality of two lists of fields can be decided. -/
def decideEqFields : (vs ws : List (Text × Json)) → Decidable (vs = ws)
  | [], [] => isTrue rfl
  | (k, v) :: vs, (l, w) :: ws =>
    match (inferInstance : Decidable (k = l)), decideEq v w, decideEqFields vs ws with
    | isTrue hk, isTrue h, isTrue hs => isTrue (hk ▸ h ▸ hs ▸ rfl)
    | isFalse h, _, _ => isFalse (by simp [h])
    | _, isFalse h, _ => isFalse (by simp [h])
    | _, _, isFalse h => isFalse (by simp [h])
  | [], _ :: _ | _ :: _, [] => isFalse (by simp)

end

instance : DecidableEq Json := decideEq

/-- The value of a field, if the value is an object that has it. -/
def field? (key : Text) : Json → Option Json
  | .obj fields => (fields.find? (·.1 = key)).map (·.2)
  | _ => none

/-- Put a field into a list sorted by key. A field already there is replaced,
    so that of several equal keys the last one put in stays. -/
def insertField (key : Text) (value : Json) : List (Text × Json) → List (Text × Json)
  | [] => [(key, value)]
  | (k, v) :: fields =>
    if key = k then (key, value) :: fields
    else if key < k then (key, value) :: (k, v) :: fields
    else (k, v) :: insertField key value fields

/-- The fields sorted by key, the last of equal keys kept. -/
def sortFields (fields : List (Text × Json)) : List (Text × Json) :=
  fields.foldl (fun done (k, v) => insertField k v done) []

mutual

/-- The value with the fields of every object sorted by key. -/
def sorted : Json → Json
  | .arr items => .arr (sortedItems items)
  | .obj fields => .obj (sortFields (sortedValues fields))
  | v => v

/-- Every item with its objects sorted. -/
def sortedItems : List Json → List Json
  | [] => []
  | v :: vs => sorted v :: sortedItems vs

/-- Every field with the objects in its value sorted. -/
def sortedValues : List (Text × Json) → List (Text × Json)
  | [] => []
  | (k, v) :: fields => (k, sorted v) :: sortedValues fields

end

end Json

end Flowchart
