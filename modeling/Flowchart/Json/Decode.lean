import Flowchart.Json.Printer
import Flowchart.Number.Word
import Flowchart.Text.Quoted

/-!
# Decoding

Reading a value of a known type out of a JSON value, or the reason why that
cannot be done.

A record may be written as an object or as the list of its fields in declared
order. Either way its fields are visited in the order in which they stand,
which for an object is the order of its keys, and the first field that is
malformed decides the error. Keys that are not fields are passed over. Only
when every field present has been read is one that is required looked for.
`Layout` describes a record for that walk: a draft of the record starts from
its defaults, and each field that is present overwrites its place in it.

The same values are also read out of other formats, which differ in small ways
that only this walk can see. A `Dialect` says what they admit.

## Main definitions

* `DecodeError`: Why a value is not of a type.
* `DecodeError.message`: The error in words.
* `Dialect`: What a format admits.
* `Layout`: How a record is written.
* `Layout.decode`: A record from a value.
* `Json.toText`, `Json.toWord`, `Json.toBinary64`, `Json.toList`: Values of
  simple types.
* `Dialect.toVariant`, `Json.toVariant`: One of a closed list of names.
-/

namespace Flowchart

/-- What was found where something else was expected. -/
inductive Found where
  | null
  | bool (b : Bool)
  | int (i : Int)
  | float (x : Binary64)
  | str (t : Text)
  | sequence
  | map
deriving DecidableEq, Repr

/-- Why a value is not of a type. -/
inductive DecodeError where
  /-- A value of another type. -/
  | type (found : Found) (expected : String)
  /-- A value of the right type that is not admitted. -/
  | value (found : Found) (expected : String)
  /-- A required field is absent. -/
  | missing (field : String)
  /-- A field is given twice, under two names. -/
  | duplicate (field : String)
  /-- A name that is not one of the known ones. -/
  | variant (name : Text) (known : List String)
  /-- A list that is too short or too long for a record. -/
  | length (count : Nat) (expected : Text)
deriving DecidableEq, Repr

namespace Found

/-- What a JSON value is found to be. -/
def ofJson : Json → Found
  | .null => .null
  | .bool b => .bool b
  | .int i => .int i
  | .float x => .float x
  | .str t => .str t
  | .arr _ => .sequence
  | .obj _ => .map

/-- What was found, in words. -/
def text : Found → Text
  | .null => "null".toList
  | .bool b => "boolean `".toList ++ (if b then "true" else "false").toList ++ ['\x60']
  | .int i => "integer `".toList ++ Json.intText i ++ ['\x60']
  | .float x => "floating point `".toList ++ x.text ++ ['\x60']
  | .str t => "string ".toList ++ t.quoted
  | .sequence => "sequence".toList
  | .map => "map".toList

end Found

namespace DecodeError

/-- A name between backticks. -/
def ticked (t : Text) : Text := '\x60' :: t ++ ['\x60']

/-- The known names as they are listed in a message. -/
def choices : List String → Text
  | [a] => ticked a.toList
  | [a, b] => ticked a.toList ++ " or ".toList ++ ticked b.toList
  | names => "one of ".toList ++ Text.join ", ".toList (names.map (ticked ·.toList))

/-- The error in words. -/
def message : DecodeError → Text
  | .type found expected =>
    "invalid type: ".toList ++ found.text ++ ", expected ".toList ++ expected.toList
  | .value found expected =>
    "invalid value: ".toList ++ found.text ++ ", expected ".toList ++ expected.toList
  | .missing field => "missing field ".toList ++ ticked field.toList
  | .duplicate field => "duplicate field ".toList ++ ticked field.toList
  | .variant name known =>
    "unknown variant ".toList ++ ticked name ++ ", expected ".toList ++ choices known
  | .length count expected =>
    "invalid length ".toList ++ Text.ofNat count ++ ", expected ".toList ++ expected

end DecodeError

/-- A result of decoding. -/
abbrev Decoded (α : Type) := Except DecodeError α

namespace Json

/-- The value is of another type than expected. -/
def mismatch {α : Type} (expected : String) (v : Json) : Decoded α :=
  .error (.type (Found.ofJson v) expected)

/-- A string. -/
def toText : Json → Decoded Text
  | .str t => .ok t
  | v => mismatch "a string" v

/-- A truth value. -/
def toBool : Json → Decoded Bool
  | .bool b => .ok b
  | v => mismatch "a boolean" v

/-- A natural number below a limit, under the name of its type. -/
def toBounded (limit : Nat) (expected : String) : Json → Decoded Nat
  | .int i => if 0 ≤ i && i < limit then .ok i.toNat else .error (.value (.int i) expected)
  | v => mismatch expected v

/-- A natural number that fits a 64-bit word. -/
def toWord : Json → Decoded Nat := toBounded wordLimit "usize"

/-- A natural number that fits sixteen bits. -/
def toHalfWord : Json → Decoded Nat := toBounded halfWordLimit "u16"

/-- An integer that fits a 64-bit word, with or without a sign. -/
def fitsWord (i : Int) : Bool := -(signedLimit : Int) ≤ i && i < wordLimit

/-- Any number, as a binary one. -/
def toBinary64 : Json → Decoded Binary64
  | .int i => if fitsWord i then .ok (Binary64.ofInt i) else mismatch "f64" (.int i)
  | .float x => .ok x
  | v => mismatch "f64" v

/-- A value, or null for none. -/
def toOption {α : Type} (decode : Json → Decoded α) : Json → Decoded (Option α)
  | .null => .ok none
  | v => (decode v).map some

/-- A list whose items are decoded from the front. -/
def toList {α : Type} (decode : Json → Decoded α) : Json → Decoded (List α)
  | .arr items => items.mapM decode
  | v => mismatch "a sequence" v

/-- The value that a name stands for, among names that may be spelled in more
    than one way. -/
def variantNamed {α : Type} (variants : List (String × α)) (name : Text) : Decoded α :=
  match variants.find? (·.1.toList = name) with
  | some (_, a) => .ok a
  | none => .error (.variant name (variants.map (·.1)))

end Json

/-- What a format admits where a value of a known type is read. -/
structure Dialect where
  /-- A value that says nothing, and so may stand under the name of a variant. -/
  isUnit : Json → Bool
  /-- A list may go on after the last field of a record. -/
  allowsSurplus : Bool
  /-- Pass over the value of a key that is not a field. -/
  skip : Json → Decoded Unit

namespace Dialect

/-- JSON has null for a value that says nothing, and whatever can be written may
    be passed over. -/
def json : Dialect where
  isUnit
    | .null => true
    | _ => false
  allowsSurplus := false
  skip _ := .ok ()

/-- One of a closed list of names: a string, or an object with that name as its
    only key and under it a value that says nothing. -/
def toVariant (d : Dialect) {α : Type} (variants : List (String × α)) : Json → Decoded α
  | .str name => Json.variantNamed variants name
  | .obj [(name, v)] => do
    let a ← Json.variantNamed variants name
    if d.isUnit v then return a else Json.mismatch "unit" v
  | .obj _ => .error (.value .map "map with a single key")
  | v => Json.mismatch "string or map" v

end Dialect

/-- One of a closed list of names: a string, or an object with that name as its
    only key and null under it. -/
def Json.toVariant {α : Type} (variants : List (String × α)) (v : Json) : Decoded α :=
  Dialect.json.toVariant variants v

/-- How a record is written: its name, its fields in declared order, those it
    cannot do without, further names for fields, and how a field's value is put
    into a draft of the record. -/
structure Layout (α : Type) where
  name : String
  fields : List String
  /-- The fields that an object must have. -/
  required : List String := []
  /-- The fields that a list must reach. -/
  requiredInList : List String := required
  aliases : List (String × String) := []
  /-- The format that the record is read from. -/
  dialect : Dialect := .json
  put : String → Json → α → Decoded α

namespace Layout

variable {α : Type}

/-- The field that a key names. -/
def field? (l : Layout α) (key : Text) : Option String :=
  (l.fields.find? (·.toList = key)).orElse fun _ =>
    (l.aliases.find? (·.1.toList = key)).map (·.2)

/-- Put one field of an object into a draft, where `seen` are the fields that
    are already there. -/
def putField (l : Layout α) (draft : α × List String) (entry : Text × Json) :
    Decoded (α × List String) :=
  match l.field? entry.1 with
  | none => (l.dialect.skip entry.2).map fun _ => draft
  | some field =>
    if draft.2.contains field then .error (.duplicate field)
    else (l.put field entry.2 draft.1).map (·, field :: draft.2)

/-- A list is too short for a required field at an index. -/
def tooShort (l : Layout α) (index : Nat) : DecodeError :=
  .length index
    ("struct ".toList ++ l.name.toList ++ " with ".toList ++ Text.ofNat l.fields.length ++
      (if l.fields.length = 1 then " element" else " elements").toList)

/-- A record from the fields of an object. -/
def decodeFields (l : Layout α) (blank : α) (fields : List (Text × Json)) : Decoded α := do
  let (a, seen) ← fields.foldlM l.putField (blank, [])
  match l.required.find? (!seen.contains ·) with
  | some field => .error (.missing field)
  | none => .ok a

/-- A record from the list of its fields. -/
def decodeItems (l : Layout α) (blank : α) (items : List Json) : Decoded α := do
  let a ← (l.fields.zip items).foldlM (fun a (field, v) => l.put field v a) blank
  match l.requiredInList.find? fun field => items.length ≤ l.fields.idxOf field with
  | some field => .error (l.tooShort (l.fields.idxOf field))
  | none =>
    if l.fields.length < items.length && !l.dialect.allowsSurplus then
      .error (.length items.length "fewer elements in array".toList)
    else .ok a

/-- A record from a value, where `blank` holds the default of every field. -/
def decode (l : Layout α) (blank : α) : Json → Decoded α
  | .obj fields => l.decodeFields blank fields
  | .arr items => l.decodeItems blank items
  | v => Json.mismatch ("struct " ++ l.name) v

end Layout

end Flowchart
