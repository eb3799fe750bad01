import Flowchart.Toml.Value

/-!
# TOML Documents

A document is a list of statements, each on a line of its own. A header opens a
table, and a key with a value puts the value into the table that is open.

## Main definitions

* `Toml.Document`: The tables read so far and which of them is open.
* `Toml.statement?`: What a statement does to a document.
* `Toml.parse?`: The value of a text.
-/

namespace Flowchart

namespace Toml

/-- The tables read so far, and the keys that lead to the one that is open. -/
structure Document where
  root : Entries := []
  header : List Text := []

/-- The keys of a header up to its closing brackets. -/
def headerKeys? (closing : Text) (t : Text) : Option (List Text × Text × Text) := do
  let (path, key, rest) ← keyPath? (t.dropWhile isSpace)
  return (path, key, ← Text.dropPrefix? closing rest)

/-- What a statement does to a document, and what follows the statement. -/
def statement? (d : Document) (t : Text) : Option (Document × Text) :=
  match t with
  | '[' :: '[' :: r => do
    let (path, key, rest) ← headerKeys? [']', ']'] r
    return (⟨← append? path key d.root, path ++ [key]⟩, rest)
  | '[' :: r => do
    let (path, key, rest) ← headerKeys? [']'] r
    return (⟨← define? path key d.root, path ++ [key]⟩, rest)
  | t => do
    let (path, key, rest) ← keyPath? t
    let (v, rest) ← value? maxDepth ((← char? '=' rest).dropWhile isSpace)
    return (⟨← within? d.header (insert? path key v) d.root, d.header⟩, rest)

/-- Nothing but blanks and a comment stands before the end of the line. -/
def endsLine (t : Text) : Bool :=
  match t.dropWhile isSpace with
  | [] => true
  | '#' :: _ => true
  | r => (lineEnd? r).isSome

/-- What the statements of a text do to a document. -/
def statements? (d : Document) (t : Text) : Option Document :=
  match gap? t with
  | none => none
  | some [] => some d
  | some line =>
    match statement? d line with
    | none => none
    | some (d, rest) =>
      if endsLine rest && rest.length < t.length then statements? d rest else none
termination_by t.length
decreasing_by
  rename_i h
  simp only [Bool.and_eq_true, decide_eq_true_eq] at h
  exact h.2

/-- The value of a text, if it is a document. A mark of the byte order may stand
    in front. -/
def parse? (t : Text) : Option Json :=
  let body := match t with
    | '\uFEFF' :: r => r
    | r => r
  (statements? {} body).map fun d => toJson d.root

end Toml

end Flowchart
