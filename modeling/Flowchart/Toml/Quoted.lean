import Flowchart.Json.Token

/-!
# TOML Strings

Four ways to write a string: between double or single quotes, on one line
between single marks or on many between triple ones. Double quotes have escapes
and single ones have none. A line end right after triple marks is left out, and
in a text with escapes a backslash at the end of a line joins it to the next
character that is not a blank.

## Main definitions

* `Toml.string?`: A string on one line.
* `Toml.anyString?`: A string of any kind.
-/

namespace Flowchart

namespace Toml

/-- A control character other than a tab, which no string and no comment can
    hold. -/
def isControl (c : Char) : Bool := (c.toNat < 0x20 && c != '\t') || c.toNat == 0x7F

/-- A blank that is not a line end. -/
def isSpace (c : Char) : Bool := c == ' ' || c == '\t'

/-- The escapes of one character. -/
def shortEscape? (c : Char) : Option Char :=
  match c with
  | 'b' => some '\x08'
  | 't' => some '\t'
  | 'n' => some '\n'
  | 'f' => some '\x0c'
  | 'r' => some '\r'
  | 'e' => some '\x1b'
  | '"' => some '"'
  | '\\' => some '\\'
  | _ => none

/-- The number of digits of an escape by number. -/
def escapeDigits? (c : Char) : Option Nat :=
  match c with
  | 'x' => some 2
  | 'u' => some 4
  | 'U' => some 8
  | _ => none

/-- The character with a number, unless the number is none of a character. -/
def charOf? (n : Nat) : Option Char := if n.isValidChar then some (Char.ofNat n) else none

/-- The character of an escape, and the number of characters after the
    backslash that write it. -/
def escape? (t : Text) : Option (Char × Nat) :=
  match t with
  | [] => none
  | c :: r =>
    match shortEscape? c, escapeDigits? c with
    | some e, _ => some (e, 1)
    | none, some n => do
      if (r.take n).length = n then return (← charOf? (← Json.hexNumber? (r.take n)), n + 1)
      else none
    | none, none => none

/-- A line end in front. -/
def lineEnd? (t : Text) : Option Text :=
  match t with
  | '\n' :: r => some r
  | '\r' :: '\n' :: r => some r
  | _ => none

/-- The number of characters of the blanks and line ends in front. -/
def blankLength : Text → Nat
  | [] => 0
  | c :: t =>
    if isSpace c || (lineEnd? (c :: t)).isSome then blankLength t + 1 else 0

/-- The number of blanks and line ends after a backslash that ends a line. -/
def joinedLine? (t : Text) : Option Nat :=
  if (lineEnd? (t.dropWhile isSpace)).isSome then some (blankLength t) else none

/-- The text of a string up to its closing marks, and what follows them. So many
    characters at the front have been read with what came before them. -/
def stringFrom (quote : Char) (triple : Bool) : Nat → Text → Option (Text × Text)
  | _, [] => none
  | skip + 1, _ :: t => stringFrom quote triple skip t
  | 0, c :: t =>
    if c = quote then
      if !triple then some ([], t)
      else
        -- Up to two marks may stand before the closing three.
        match (c :: t).takeWhile (· == quote) with
        | [_, _, _] => some ([], t.drop 2)
        | [_, _, _, _] => some ([quote], t.drop 3)
        | [_, _, _, _, _] => some ([quote, quote], t.drop 4)
        | marks =>
          if 5 < marks.length then none
          else (stringFrom quote triple 0 t).map fun (s, rest) => (c :: s, rest)
    else if c = '\\' && quote = '"' then
      match escape? t, (if triple then joinedLine? t else none) with
      | some (e, n), _ => (stringFrom quote triple n t).map fun (s, rest) => (e :: s, rest)
      | none, some n => stringFrom quote triple n t
      | none, none => none
    else if triple && c = '\n' then
      (stringFrom quote triple 0 t).map fun (s, rest) => (c :: s, rest)
    else if triple && c = '\r' then
      match t with
      | '\n' :: _ => stringFrom quote triple 0 t
      | _ => none
    else if isControl c then none
    else (stringFrom quote triple 0 t).map fun (s, rest) => (c :: s, rest)

/-- A string on one line. -/
def string? (t : Text) : Option (Text × Text) :=
  match t with
  | c :: r => if c = '"' || c = '\'' then stringFrom c false 0 r else none
  | [] => none

/-- A string of any kind. -/
def anyString? (t : Text) : Option (Text × Text) :=
  match t with
  | a :: b :: c :: r =>
    if a = b && b = c && (a = '"' || a = '\'') then stringFrom a true 0 ((lineEnd? r).getD r)
    else string? t
  | t => string? t

end Toml

end Flowchart
