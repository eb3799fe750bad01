import Flowchart.Json.Basic
import Flowchart.Number.Word

/-!
# Numbers in JSON

How a written number becomes a value. A number without point and exponent
that fits a 64-bit word, signed if it is negative, is an integer. Every other
number is binary, and reading it is quick rather than exact: the digits are
gathered in a 64-bit significand until one more would overflow it, later
digits only count for the exponent, and the significand is then scaled by one
rounded power of ten. The result may miss the nearest number by a bit or two,
and the readers of diagrams agree on these bits, so they are kept.

A number too large for the format has no value. Neither has a huge exponent on
a significand that is not zero.

## Main definitions

* `Numeral`: The parts of a written number.
* `Numeral.value?`: The value of a written number.
-/

namespace Flowchart

/-- A written number: the digits before the point, those after it if there is
    one, and the exponent with its sign if there is one. -/
structure Numeral where
  negative : Bool
  whole : Text
  fraction : Option Text
  exponent : Option (Bool × Text)
deriving DecidableEq, Repr

namespace Numeral

/-- Exponents are counted in signed 32-bit words. -/
def exponentLimit : Nat := Nat.pow 2 31

/-- The value of a decimal digit. -/
def digit (c : Char) : Nat := c.toNat - '0'.toNat

/-- A significand with its power of ten. -/
structure Scaled where
  significand : Nat
  exponent : Int
  /-- No further digit fits the significand. -/
  full : Bool

/-- A digit before the point. Once the significand is full, every digit raises
    the exponent instead. -/
def Scaled.addWhole (s : Scaled) (c : Char) : Scaled :=
  if s.full || wordLimit ≤ s.significand * 10 + digit c then
    { s with exponent := s.exponent + 1, full := true }
  else { s with significand := s.significand * 10 + digit c }

/-- A digit after the point. Once the significand is full, further digits are
    ignored. -/
def Scaled.addFraction (s : Scaled) (c : Char) : Scaled :=
  if s.full || wordLimit ≤ s.significand * 10 + digit c then { s with full := true }
  else { s with significand := s.significand * 10 + digit c, exponent := s.exponent - 1 }

/-- The significand and exponent of the digits before the point. -/
def scaledWhole (n : Numeral) : Scaled := n.whole.foldl Scaled.addWhole ⟨0, 0, false⟩

/-- The significand and exponent of the digits around the point. The digits
    after the point may again fill up the significand, however many stood
    before it. -/
def scaled (n : Numeral) : Scaled :=
  (n.fraction.getD []).foldl Scaled.addFraction { n.scaledWhole with full := false }

/-- The largest power of ten that is used in one scaling step. -/
def largestPower : Nat := 308

/-- A power of ten, rounded. -/
def powerOfTen (k : Nat) : Binary64 := Binary64.ofNat (Nat.pow 10 k)

/-- A magnitude scaled by a power of ten. Small powers are applied in one
    rounded step; a power too small for that first divides by the largest one,
    which is repeated until the rest is in reach or nothing is left. -/
def scale (x : Binary64) (exponent : Int) : Option Binary64 :=
  if _near : exponent.natAbs ≤ largestPower then
    if 0 ≤ exponent then
      let y := x.mul (powerOfTen exponent.natAbs)
      if y.isFinite then some y else none
    else some (x.div (powerOfTen exponent.natAbs))
  else if x.isZero then some x
  else if 0 ≤ exponent then none
  else scale (x.div (powerOfTen largestPower)) (exponent + largestPower)
termination_by exponent.natAbs
decreasing_by simp only [largestPower] at *; omega

/-- A number kept in signed 32-bit range. -/
def clampExponent (e : Int) : Int := max (-(exponentLimit : Int)) (min e (exponentLimit - 1))

/-- The binary value of a significand and exponent under a sign. -/
def binary (negative : Bool) (significand : Nat) (exponent : Int) : Option Binary64 :=
  (scale (Binary64.ofNat significand) exponent).map fun x => if negative then x.neg else x

/-- The value of a written number, unless it is out of range. -/
def value? (n : Numeral) : Option Json :=
  let s := n.scaled
  match n.exponent with
  | some (lowers, digits) =>
    let e := digits.foldl (fun e c => e * 10 + digit c) 0
    if exponentLimit ≤ e then
      if s.significand ≠ 0 && !lowers then none
      else some (.float (if n.negative then Binary64.zero.neg else Binary64.zero))
    else
      let e := if lowers then s.exponent - e else s.exponent + e
      (binary n.negative s.significand (clampExponent e)).map .float
  | none =>
    if n.fraction.isSome || n.scaledWhole.full then
      (binary n.negative s.significand s.exponent).map .float
    else if !n.negative then some (.int s.significand)
    else if s.significand = 0 || signedLimit < s.significand then
      some (.float (Binary64.ofNat s.significand).neg)
    else some (.int (-(s.significand : Int)))

end Numeral

end Flowchart
