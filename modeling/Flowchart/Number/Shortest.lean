import Flowchart.Number.Binary64
import Flowchart.Text.Basic

/-!
# Shortest Decimals

The text of a number is its shortest decimal: the fewest digits that still
round to the number, and of those the nearest to it, with a tie to the even
digit.

The decimals that round to a number fill an interval around it, whose ends
belong to it exactly when the number's last bit is zero. A decimal of `n`
digits lies on the grid of multiples of some power of ten, and if any point of
that grid lies in the interval then one of the two grid points next to the
number does. So the search tries one digit, then two, and so on, looking at
those two points each time, in exact integers. Seventeen digits always do.

## Main definitions

* `Shortest.Decimal`: Digits and the place of the point.
* `Shortest.ofMagnitude`: The shortest decimal of a finite magnitude.
* `Binary64.text`: A finite number as it is written.
-/

namespace Flowchart

namespace Shortest

/-- The decimal `0.d₁d₂… * 10 ^ point`, given by its digits as a number. -/
structure Decimal where
  digits : Nat
  point : Int
deriving DecidableEq, Repr

/-- A positive value with the interval that rounds to it, as numerators over
    one denominator. -/
structure Target where
  low : Nat
  value : Nat
  high : Nat
  denominator : Nat
  closed : Bool

/-- The interval of a finite positive magnitude. Below a power of two the
    neighbours lie half as far away as above it. -/
def Target.ofMagnitude (magnitude : Nat) : Target :=
  let (m, e) := Binary64.scaled magnitude
  let narrow := m == Binary64.leadingBit && -1074 < e
  let (unit, denominator) := Binary64.scaledFraction 1 (e - 2)
  { low := (4 * m - if narrow then 1 else 2) * unit
    value := 4 * m * unit
    high := (4 * m + 2) * unit
    denominator
    closed := m % 2 == 0 }

/-- A numerator lies in the interval, when everything is multiplied by
    `scale`. -/
def Target.holds (t : Target) (scale numerator : Nat) : Bool :=
  if t.closed then t.low * scale ≤ numerator && numerator ≤ t.high * scale
  else t.low * scale < numerator && numerator < t.high * scale

/-- The grid point that stands for a number, if either neighbour on the grid
    rounds to it. The grid is the multiples of `step / scale`, and of two
    neighbours the nearer is taken, a tie going to the even one. -/
def onGrid (t : Target) (scale step : Nat) : Option Nat :=
  let below := t.value * scale / (t.denominator * step)
  let point (k : Nat) := k * step * t.denominator
  let above := below + 1
  match t.holds scale (point below), t.holds scale (point above) with
  | false, false => none
  | true, false => some below
  | false, true => some above
  | true, true =>
    let left := t.value * scale - point below
    let right := point above - t.value * scale
    if left < right then some below
    else if right < left then some above
    else some (if below % 2 = 0 then below else above)

/-- The number of digits before the point of a positive fraction, negative
    when zeros follow the point. At most `fuel` zeros are looked for. -/
def pointOf (numerator denominator : Nat) : Nat → Int
  | 0 => 0
  | fuel + 1 =>
    if denominator ≤ numerator then ((Nat.toDigits 10 (numerator / denominator)).length : Int)
    else pointOf (numerator * 10) denominator fuel - 1

/-- Try `digits` digits, and one more each time. -/
def search (t : Target) (point : Int) : Nat → Nat → Decimal
  | digits, 0 => ⟨0, digits⟩
  | digits, fuel + 1 =>
    let place := point - digits
    let (step, scale) := if 0 ≤ place then (Nat.pow 10 place.toNat, 1)
      else (1, Nat.pow 10 (-place).toNat)
    match onGrid t scale step with
    | some k =>
      -- A neighbour above may have grown a digit; then it is a power of ten.
      ⟨k, point + if Nat.pow 10 digits ≤ k then 1 else 0⟩
    | none => search t point (digits + 1) fuel

/-- The shortest decimal of a finite positive magnitude. -/
def ofMagnitude (magnitude : Nat) : Decimal :=
  let t := Target.ofMagnitude magnitude
  search t (pointOf t.value t.denominator 400) 1 17

end Shortest

namespace Binary64

/-- Decimal exponents from the first to the last of these are written without
    an exponent. -/
def plainFrom : Int := -5

/-- The last exponent written without an exponent. -/
def plainTo : Int := 15

/-- A positive decimal as it is written: with a point and at least one digit on
    each side of it, or with an exponent that carries its sign. -/
def decimalText (d : Shortest.Decimal) : Text :=
  let digits := Text.ofNat d.digits
  let digits := Text.dropEndWhile (· == '0') digits
  let exponent := d.point - 1
  if exponent < plainFrom || plainTo < exponent then
    let rest := digits.drop 1
    digits.take 1 ++ (if rest.isEmpty then [] else '.' :: rest) ++ ['e']
      ++ (if exponent < 0 then '-' else '+') :: Text.ofNat exponent.natAbs
  else if d.point ≤ 0 then
    ['0', '.'] ++ List.replicate d.point.natAbs '0' ++ digits
  else
    let places := d.point.toNat
    let whole := digits.take places ++ List.replicate (places - digits.length) '0'
    let rest := digits.drop places
    whole ++ '.' :: (if rest.isEmpty then ['0'] else rest)

/-- A finite number as it is written: the shortest decimal that reads back. -/
def text (x : Binary64) : Text :=
  let magnitude := if x.isZero then ['0', '.', '0']
    else decimalText (Shortest.ofMagnitude x.magnitude)
  if x.isNegative then '-' :: magnitude else magnitude

end Binary64

end Flowchart
