import Flowchart.Json.Basic
import Flowchart.Json.Token

/-!
# TOML Scalars

Numbers, truth values and dates, which are written without quotes. A scalar is
first taken as the run of characters up to one that can stand in none, and the
run is then read as a whole.

Digits may be grouped by single underscores. Whether a run is an integer shows
from how it begins and where its underscores stand. Which integer it is, is a
question of its own, and it may have no answer: there may be no digit after the
mark of a base, or letters among the digits of a decimal integer, or more digits
than 128 bits hold. A binary number may likewise be too large to be finite. All
of these are kept as one number that cannot be looked at, so that a text with
such a number is well formed for as long as nothing looks at it. A date is
checked to name a day and a time that exist, and is kept as a record with a
field of its own name, since no setting is a date.

## Main definitions

* `Toml.inRange`: An integer that can be looked at.
* `Toml.wellGrouped`: Underscores stand where they may.
* `Toml.integer?`: An integer to any base.
* `Toml.nearest`: The number nearest to a decimal fraction.
* `Toml.fractional?`: A number with a point or an exponent.
* `Toml.scalar?`: The value of a run of characters.
* `Toml.scalarRun`: The run of characters in front of a text.
-/

namespace Flowchart

namespace Toml

/-! ### Digits -/

/-- A digit to a base of sixteen or less. -/
def isDigitOf (base : Nat) (c : Char) : Bool := (Json.hexDigit? c).any (· < base)

/-- A text without its underscores. -/
def ungrouped (t : Text) : Text := t.filter (· != '_')

/-- Underscores stand singly and inside a text. What follows one is a digit, and
    so is what precedes one, unless that is a sign at the very front. -/
def wellGrouped (isDigit : Char → Bool) (t : Text) : Bool :=
  let groups := Text.splitWhere (· == '_') t
  groups.all (!·.isEmpty) && groups.tail.all (·.head?.any isDigit)
    && groups.dropLast.all fun g => g.length = 1 || g.getLast?.any isDigit

/-- The number that digits write to a base. -/
def number (base : Nat) (digits : Text) : Nat :=
  digits.foldl (fun n c => n * base + (Json.hexDigit? c).getD 0) 0

/-- A sign and what follows it. -/
def sign (t : Text) : Bool × Text :=
  match t with
  | '-' :: r => (true, r)
  | '+' :: r => (false, r)
  | r => (false, r)

/-! ### Integers -/

/-- The number of non-negative integers that fit 128 bits without a sign. -/
def unsignedLimit : Nat := Nat.pow 2 128

/-- An integer fits 128 bits, with or without a sign. -/
def inRange (i : Int) : Bool := -(Nat.pow 2 127 : Nat) ≤ i && i < unsignedLimit

/-- A number that cannot be looked at. -/
def unreadable : Json := .int unsignedLimit

/-- The integer that digits write to a base, if there are any and all of them
    are digits to that base. -/
def integerOf (base : Nat) (negative : Bool) (digits : Text) : Json :=
  if digits.isEmpty || !digits.all (isDigitOf base) then unreadable
  else .int (if negative then -(number base digits : Int) else number base digits)

/-- What follows the mark of a base: digits to that base, or nothing. -/
def based? (base : Nat) (t : Text) : Option Json :=
  if t.isEmpty || (wellGrouped (isDigitOf base) t && (ungrouped t).all (isDigitOf base)) then
    some (integerOf base false (ungrouped t))
  else none

/-- A point or the mark of an exponent. -/
def marksFraction (c : Char) : Bool := c == '.' || c == 'e' || c == 'E'

/-- What stands after the sign of a decimal integer: digits without a needless
    leading zero, up to the end or to an underscore. After the first underscore
    anything may stand that does not make it a fraction. -/
def isWhole (t : Text) : Bool :=
  let rest := t.dropWhile Char.isDigit
  !t.isEmpty && (t.length = 1 || t.head? ≠ some '0')
    && (rest.isEmpty || (rest.head? = some '_' && !rest.any marksFraction))

/-- A decimal integer. The groups of its digits may begin and end with letters
    that are digits to another base. -/
def decimal? (t : Text) : Option Json :=
  let (negative, r) := sign t
  if isWhole r && wellGrouped (isDigitOf 16) t then some (integerOf 10 negative (ungrouped r))
  else none

/-- An integer, to any of four bases. Only decimal ones have a sign. -/
def integer? (t : Text) : Option Json :=
  match t with
  | '0' :: 'x' :: r => based? 16 r
  | '0' :: 'o' :: r => based? 8 r
  | '0' :: 'b' :: r => based? 2 r
  | t => decimal? t

/-! ### Fractions -/

/-- The limit beyond which an exponent reads no further digits. -/
def exponentLimit : Nat := Nat.pow 2 16

/-- The size of an exponent. It takes no more digits once it is out of reach. -/
def exponentOf (digits : Text) : Nat :=
  digits.foldl (fun n c => if n < exponentLimit then n * 10 + (Json.hexDigit? c).getD 0 else n) 0

/-- The number nearest to digits with a power of ten, if it is finite. The power
    of ten of the leading digit shows when a number lies far below the format or
    far above it, so that only powers in reach are taken. -/
def nearest (negative : Bool) (digits : Text) (e : Int) : Json :=
  let digits := digits.dropWhile (· == '0')
  let n := number 10 digits
  let leading := e + digits.length
  let x :=
    if n = 0 || leading < -400 then Binary64.ofMagnitude negative 0
    else if 400 < leading then Binary64.ofMagnitude negative Binary64.infinite
    else if 0 ≤ e then Binary64.ofFraction negative (n * Nat.pow 10 e.toNat) 1
    else Binary64.ofFraction negative n (Nat.pow 10 (-e).toNat)
  if x.isFinite then .float x else unreadable

/-- The digits in front of a text, of which there is at least one, and what
    follows them and their underscores. -/
def digits? (t : Text) : Option (Text × Text) :=
  let isGrouped := fun c : Char => c.isDigit || c == '_'
  match ungrouped (t.takeWhile isGrouped) with
  | [] => none
  | digits => some (digits, t.dropWhile isGrouped)

/-- An exponent at the end of a text, with its mark. -/
def exponent? (t : Text) : Option Int :=
  match t with
  | [] => none
  | mark :: r => do
    let (lowers, r) := sign r
    let (digits, rest) ← digits? r
    if (mark = 'e' || mark = 'E') && rest.isEmpty then
      return if lowers then -(exponentOf digits : Int) else exponentOf digits
    else none

/-- A number with a point, an exponent or both. -/
def fractional? (t : Text) : Option Json := do
  let (negative, r) := sign t
  let (whole, rest) ← digits? r
  let (places, rest) ← match rest with
    | '.' :: f => digits? f
    | f => some ([], f)
  let e ← if rest.isEmpty && !places.isEmpty then some 0 else exponent? rest
  if wellGrouped Char.isDigit t && (whole.length = 1 || r.head? ≠ some '0') then
    return nearest negative (whole ++ places) (e - places.length)
  else none

/-- The numbers that are written as words. -/
def special? (t : Text) : Option Json :=
  let (negative, r) := sign t
  if r = "inf".toList then some (.float (.ofMagnitude negative Binary64.infinite))
  else if r = "nan".toList then some (.float Binary64.nan)
  else none

/-! ### Dates -/

/-- A number of exactly so many digits within bounds, and what follows it. -/
def field? (digits low high : Nat) (t : Text) : Option (Nat × Text) :=
  let d := t.take digits
  if d.length = digits && d.all Char.isDigit && low ≤ number 10 d && number 10 d ≤ high then
    some (number 10 d, t.drop digits)
  else none

/-- The number of days of a month. -/
def daysIn (year month : Nat) : Nat :=
  if month = 2 then if year % 4 = 0 && (year % 100 ≠ 0 || year % 400 = 0) then 29 else 28
  else if [4, 6, 9, 11].contains month then 30
  else 31

/-- A character in front. -/
def char? (c : Char) (t : Text) : Option Text := Text.dropPrefix? [c] t

/-- What follows a day. -/
def date? (t : Text) : Option Text := do
  let (year, t) ← field? 4 0 9999 t
  let (month, t) ← field? 2 1 12 (← char? '-' t)
  let (_, t) ← field? 2 1 (daysIn year month) (← char? '-' t)
  return t

/-- What follows a time of day, of which the seconds may be left out. -/
def time? (t : Text) : Option Text := do
  let (_, t) ← field? 2 0 23 t
  let (_, t) ← field? 2 0 59 (← char? ':' t)
  match char? ':' t with
  | none => return t
  | some t =>
    let (_, t) ← field? 2 0 60 t
    match char? '.' t with
    | none => return t
    | some t => if t.takeWhile Char.isDigit = [] then none else return t.dropWhile Char.isDigit

/-- What follows the distance of a time of day from the universal one. -/
def zone? (t : Text) : Option Text :=
  match t with
  | [] => some []
  | 'Z' :: r => some r
  | 'z' :: r => some r
  | c :: r =>
    if c = '+' || c = '-' then do
      let (_, r) ← field? 2 0 23 r
      let (_, r) ← field? 2 0 59 (← char? ':' r)
      return r
    else none

/-- A day, a time of day, or both. -/
def isDate (t : Text) : Bool :=
  match date? t with
  | some [] => true
  | some (c :: r) =>
    (c == 'T' || c == 't' || c == ' ') && ((time? r).bind zone? == some [])
  | none => time? t == some []

/-- The value of a date. -/
def dateValue (t : Text) : Json := .obj [("date".toList, .str t)]

/-- The value of a run of characters. -/
def scalar? (t : Text) : Option Json :=
  if t = "true".toList then some (.bool true)
  else if t = "false".toList then some (.bool false)
  else (special? t).orElse fun _ => (integer? t).orElse fun _ =>
    (fractional? t).orElse fun _ => if isDate t then some (dateValue t) else none

/-- A character that no scalar goes beyond: a mark that lists, tables and
    statements are made of, a blank or the end of a line. -/
def endsScalar (c : Char) : Bool :=
  ['=', ',', '[', ']', '\x7b', '\x7d', '#', ' ', '\t', '\r', '\n'].contains c

/-- The run of characters that may be a scalar, and what follows it. A blank
    stands in a run only between a day and a time of day. -/
def scalarRun (t : Text) : Text × Text :=
  let run := t.takeWhile (!endsScalar ·)
  let rest := t.dropWhile (!endsScalar ·)
  match rest with
  | ' ' :: c :: r =>
    if date? run = some [] && c.isDigit then
      (run ++ ' ' :: (c :: r).takeWhile (!endsScalar ·), (c :: r).dropWhile (!endsScalar ·))
    else (run, rest)
  | _ => (run, rest)

end Toml

end Flowchart
