import Flowchart.Json.Basic

/-!
# TOML Tables

The tables of a document while it is read. Where a table came from decides what
may still be added to it: a header may define a table that other headers only
passed through, a dotted key may add to any table that no header defined and
makes it its own, and nothing can be added to a table or a list that was written
as a value.

## Main definitions

* `Toml.Entry`: What a key stands for.
* `Toml.Origin`: Where a table came from.
* `Toml.insert?`: A value put under a dotted key.
* `Toml.define?`: A table defined by a header.
* `Toml.append?`: A table added to a list by a header.
* `Toml.within?`: A change to the table that a header leads to.
* `Toml.toJson`: The value of a table.
-/

namespace Flowchart

namespace Toml

/-- Where a table came from. -/
inductive Origin where
  /-- A header defined it. -/
  | header
  /-- Headers of tables inside it passed through it. -/
  | passed
  /-- A dotted key passed through it. -/
  | dotted
deriving DecidableEq, Repr

/-- What a key stands for. -/
inductive Entry where
  /-- A value, to which nothing can be added. -/
  | value (v : Json)
  | table (origin : Origin) (entries : List (Text × Entry))
  /-- A list of tables, each defined by a header. -/
  | tables (items : List (List (Text × Entry)))
deriving Repr, Inhabited

/-- The entries of a table. -/
abbrev Entries := List (Text × Entry)

/-- What a key stands for in a table. -/
def find? (key : Text) (es : Entries) : Option Entry := (es.find? (·.1 = key)).map (·.2)

/-- A key made to stand for something. -/
def put (key : Text) (e : Entry) (es : Entries) : Entries :=
  if es.any (·.1 = key) then es.map fun (k, old) => if k = key then (k, e) else (k, old)
  else es ++ [(key, e)]

/-- A value put at the end of a path of keys, where `isOpen` says whether a key
    may be put into the table that the rest of the path starts from. The tables
    on the way must not be defined by a header, and from then on they are tables
    that a dotted key passed through. A list of tables is passed through at its
    last table, but the path cannot end there. -/
def insertAt? (path : List Text) (key : Text) (v : Json) (isOpen : Bool) (es : Entries) :
    Option Entries :=
  match path with
  | [] => if isOpen && (find? key es).isNone then some (put key (.value v) es) else none
  | p :: ps =>
    match find? p es with
    | none => (insertAt? ps key v true []).map fun sub => put p (.table .dotted sub) es
    | some (.table .header _) => none
    | some (.table _ sub) =>
      (insertAt? ps key v true sub).map fun sub => put p (.table .dotted sub) es
    | some (.tables items) =>
      match items.getLast? with
      | some sub =>
        (insertAt? ps key v false sub).map fun sub => put p (.tables (items.dropLast ++ [sub])) es
      | none => none
    | some (.value _) => none

/-- A value put under a dotted key into the table that a header or a pair of
    braces has opened. -/
def insert? (path : List Text) (key : Text) (v : Json) (es : Entries) : Option Entries :=
  insertAt? path key v true es

/-- Change the table that the keys of a header lead to, where tables that are
    not there yet are made on the way. -/
def within? (path : List Text) (change : Entries → Option Entries) (es : Entries) :
    Option Entries :=
  match path with
  | [] => change es
  | p :: ps =>
    match find? p es with
    | none => (within? ps change []).map fun sub => put p (.table .passed sub) es
    | some (.table origin sub) =>
      (within? ps change sub).map fun sub => put p (.table origin sub) es
    | some (.tables items) =>
      match items.getLast? with
      | some sub =>
        (within? ps change sub).map fun sub => put p (.tables (items.dropLast ++ [sub])) es
      | none => none
    | some (.value _) => none

/-- A table defined by a header. It may be there only if headers of tables
    inside it have passed through it. -/
def define? (path : List Text) (key : Text) (es : Entries) : Option Entries :=
  within? path (fun es =>
    match find? key es with
    | none => some (put key (.table .header []) es)
    | some (.table .passed sub) => some (put key (.table .header sub) es)
    | some _ => none) es

/-- A table added to a list of tables by a header. -/
def append? (path : List Text) (key : Text) (es : Entries) : Option Entries :=
  within? path (fun es =>
    match find? key es with
    | none => some (put key (.tables [[]]) es)
    | some (.tables items) => some (put key (.tables (items ++ [[]])) es)
    | some _ => none) es

mutual

/-- The value of an entry. -/
def Entry.toJson : Entry → Json
  | .value v => v
  | .table _ es => .obj (Json.sortFields (fieldsOf es))
  | .tables items => .arr (itemsOf items)

/-- The fields of a table. -/
def fieldsOf : List (Text × Entry) → List (Text × Json)
  | [] => []
  | (k, e) :: es => (k, e.toJson) :: fieldsOf es

/-- The values of tables. -/
def itemsOf : List (List (Text × Entry)) → List Json
  | [] => []
  | es :: more => .obj (Json.sortFields (fieldsOf es)) :: itemsOf more

end

/-- The value of a table. -/
def toJson (es : Entries) : Json := .obj (Json.sortFields (fieldsOf es))

end Toml

end Flowchart
