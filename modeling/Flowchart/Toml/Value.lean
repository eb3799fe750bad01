import Flowchart.Toml.Quoted
import Flowchart.Toml.Scalar
import Flowchart.Toml.Tree

/-!
# TOML Values

A value is a scalar, a string, a list in brackets or a table in braces. Blanks,
line ends and comments may stand around every item of a list and around every
key and every value of a table, and the last of them may be followed by a comma.

Lists and tables can be nested only so deep, and a dotted key leads no deeper.
The depth that is left is what `value?` recurses on, and the items at one depth
are read by a function that is given the reader of the next.

## Main definitions

* `Toml.gap?`: What follows blanks, line ends and comments.
* `Toml.keyPath?`: A dotted key.
* `Toml.value?`: A value and what follows it.
-/

namespace Flowchart

namespace Toml

/-- How deep lists and tables can be nested, and how many keys a dotted key can
    have. -/
def maxDepth : Nat := 80

/-- What follows blanks, line ends and comments, where the text begins inside a
    comment or not. A comment holds no control character and ends with its
    line. -/
def gapFrom (inComment : Bool) : Text → Option Text
  | [] => some []
  | c :: t =>
    if c = '\n' then gapFrom false t
    else if c = '\r' then if t.head? = some '\n' then gapFrom false t else none
    else if inComment then if isControl c then none else gapFrom true t
    else if isSpace c then gapFrom false t
    else if c = '#' then gapFrom true t
    else some (c :: t)

/-- What follows blanks, line ends and comments. -/
def gap? (t : Text) : Option Text := gapFrom false t

/-! ### Keys -/

/-- A character that a key without quotes can be made of. -/
def isKeyChar (c : Char) : Bool := c.isAlphanum || c == '_' || c == '-'

/-- A key without dots, and what follows it. -/
def simpleKey? (t : Text) : Option (Text × Text) :=
  match t.takeWhile isKeyChar with
  | [] => string? t
  | key => some (key, t.dropWhile isKeyChar)

/-- A dotted key and what follows it and the blanks after it. Blanks may stand
    around every dot. -/
def keys? (t : Text) : Option (List Text × Text) :=
  match simpleKey? t with
  | none => none
  | some (key, rest) =>
    match rest.dropWhile isSpace with
    | '.' :: r =>
      let next := r.dropWhile isSpace
      if next.length < t.length then (keys? next).map fun (keys, rest) => (key :: keys, rest)
      else none
    | r => some ([key], r)
termination_by t.length

/-- A dotted key as the tables it passes through and its last key. -/
def keyPath? (t : Text) : Option (List Text × Text × Text) := do
  let (keys, rest) ← keys? t
  if maxDepth < keys.length then none
  else return (keys.dropLast, ← keys.getLast?, rest)

/-! ### Values -/

/-- The items of a list and what follows its closing bracket. -/
def items? (read : Text → Option (Json × Text)) (t : Text) : Option (List Json × Text) :=
  match gap? t with
  | none => none
  | some (']' :: rest) => some ([], rest)
  | some item =>
    match read item with
    | none => none
    | some (v, rest) =>
      match gap? rest with
      | some (']' :: rest) => some ([v], rest)
      | some (',' :: rest) =>
        if rest.length < t.length then (items? read rest).map fun (vs, rest) => (v :: vs, rest)
        else none
      | _ => none
termination_by t.length

/-- A key with its value put among entries, and what follows the value. -/
def entry? (read : Text → Option (Json × Text)) (es : Entries) (t : Text) :
    Option (Entries × Text) := do
  let (path, key, rest) ← keyPath? t
  let (v, rest) ← read (← gap? (← char? '=' (← gap? rest)))
  return (← insert? path key v es, rest)

/-- The entries of a table and what follows its closing brace. -/
def entries? (read : Text → Option (Json × Text)) (es : Entries) (t : Text) :
    Option (Entries × Text) :=
  match gap? t with
  | none => none
  | some ('\x7d' :: rest) => some (es, rest)
  | some entry =>
    match entry? read es entry with
    | none => none
    | some (es, rest) =>
      match gap? rest with
      | some ('\x7d' :: rest) => some (es, rest)
      | some (',' :: rest) => if rest.length < t.length then entries? read es rest else none
      | _ => none
termination_by t.length

/-- A scalar and what follows it. -/
def plain? (t : Text) : Option (Json × Text) :=
  let (run, rest) := scalarRun t
  (scalar? run).map fun v => (v, rest)

/-- A value and what follows it, where lists and tables can be nested only so
    deep. -/
def value? (depth : Nat) (t : Text) : Option (Json × Text) :=
  match depth, t with
  | 0, '[' :: _ => none
  | 0, '\x7b' :: _ => none
  | d + 1, '[' :: r => (items? (value? d) r).map fun (vs, rest) => (.arr vs, rest)
  | d + 1, '\x7b' :: r => (entries? (value? d) [] r).map fun (es, rest) => (toJson es, rest)
  | _, '"' :: r => (anyString? ('"' :: r)).map fun (s, rest) => (.str s, rest)
  | _, '\'' :: r => (anyString? ('\'' :: r)).map fun (s, rest) => (.str s, rest)
  | _, t => plain? t

end Toml

end Flowchart
