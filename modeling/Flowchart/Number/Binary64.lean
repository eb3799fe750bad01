/-!
# Binary64

Numbers in the 64-bit binary format: a sign, eleven bits of exponent and
fifty-two bits of fraction. Weights and densities are such numbers, and they
are read, compared, divided and printed exactly as the format says.

A number is kept as its bit pattern, and every operation is carried out on
natural numbers. A finite magnitude is a fraction with an exact value, one
function rounds an exact fraction back to the nearest pattern, with ties to
the even one, and that function is all the rounding there is. Nothing rests on
the machine's own arithmetic, so every law can be followed down to the
integers.

The magnitudes are ordered as their patterns are. That makes `key` an order on
all numbers, in which -0.0 stands just before 0.0; the order of numbers as
values takes the two zeros for equal and leaves what is not a number out.

## Main definitions

* `Binary64`: A bit pattern.
* `Binary64.ofFraction`: The nearest number to a fraction.
* `Binary64.fraction`: The exact value of a finite magnitude.
* `Binary64.mul`, `Binary64.div`: Rounded product and quotient.
* `Binary64.key`: The place in the total order.
* `Binary64.lt`: The order of values.
* `Binary64.ceil`: The least natural number not below the value.
-/

namespace Flowchart

/-- A number in the 64-bit binary format. -/
structure Binary64 where
  bits : UInt64
deriving DecidableEq, Repr

namespace Binary64

/-- The bit of the sign. -/
def signBit : Nat := Nat.pow 2 63

/-- The leading bit of a mantissa, just above the bits of the fraction. -/
def leadingBit : Nat := Nat.pow 2 52

/-- The pattern of a magnitude: the number without its sign. -/
def magnitude (x : Binary64) : Nat := x.bits.toNat % signBit

/-- The sign bit is set. -/
def isNegative (x : Binary64) : Bool := signBit ≤ x.bits.toNat

/-- The pattern of the infinite magnitude; above it, nothing is a number. -/
def infinite : Nat := 0x7FF * leadingBit

/-- A number from its sign and its magnitude pattern. -/
def ofMagnitude (negative : Bool) (magnitude : Nat) : Binary64 :=
  ⟨UInt64.ofNat (magnitude + if negative then signBit else 0)⟩

/-- The number 0.0. -/
def zero : Binary64 := ⟨0⟩

instance : Inhabited Binary64 := ⟨zero⟩

/-- Neither infinite nor without value. -/
def isFinite (x : Binary64) : Bool := x.magnitude < infinite

/-- The pattern stands for no number. -/
def isNaN (x : Binary64) : Bool := infinite < x.magnitude

/-- One of the two zeros. -/
def isZero (x : Binary64) : Bool := x.magnitude == 0

/-- The number with its sign turned. -/
def neg (x : Binary64) : Binary64 := ofMagnitude (!x.isNegative) x.magnitude

/-! ### Exact values -/

/-- A finite magnitude as `mantissa * 2 ^ exponent`. -/
def scaled (magnitude : Nat) : Nat × Int :=
  let exponent : Nat := magnitude / leadingBit
  let fraction : Nat := magnitude % leadingBit
  if exponent = 0 then (fraction, -1074) else (fraction + leadingBit, (exponent : Int) - 1075)

/-- The value `m * 2 ^ e` as a numerator over a denominator. -/
def scaledFraction (m : Nat) (e : Int) : Nat × Nat :=
  if 0 ≤ e then (m * Nat.pow 2 e.toNat, 1) else (m, Nat.pow 2 (-e).toNat)

/-- The exact value of a finite magnitude as a numerator over a denominator. -/
def fraction (magnitude : Nat) : Nat × Nat :=
  let (m, e) := scaled magnitude
  scaledFraction m e

/-! ### Rounding -/

/-- A quotient rounded to the nearest natural number, a half to the even
    neighbour. -/
def roundDiv (numerator denominator : Nat) : Nat :=
  let quotient := numerator / denominator
  let twice := 2 * (numerator % denominator)
  if twice < denominator then quotient
  else if denominator < twice then quotient + 1
  else quotient + quotient % 2

/-- The exponent of the leading bit of a positive fraction: the greatest `k`
    with `2 ^ k ≤ numerator / denominator`. The two bit lengths leave only two
    candidates. -/
def leadingExponent (numerator denominator : Nat) : Int :=
  let k := (numerator.log2 : Int) - denominator.log2
  let (n, d) := if 0 ≤ k then (numerator, denominator * Nat.pow 2 k.toNat)
    else (numerator * Nat.pow 2 (-k).toNat, denominator)
  if d ≤ n then k else k - 1

/-- The magnitude pattern nearest to a positive fraction. A carry out of the
    fraction bits lands in the exponent bits, which is the next pattern. -/
def nearestMagnitude (numerator denominator : Nat) : Nat :=
  let exponent := max (leadingExponent numerator denominator) (-1022)
  let unit := exponent - 52
  let units := if 0 ≤ unit then roundDiv numerator (denominator * Nat.pow 2 unit.toNat)
    else roundDiv (numerator * Nat.pow 2 (-unit).toNat) denominator
  min infinite ((exponent + 1022).toNat * leadingBit + units)

/-- The number nearest to a fraction with a sign. -/
def ofFraction (negative : Bool) (numerator denominator : Nat) : Binary64 :=
  ofMagnitude negative (if numerator = 0 then 0 else nearestMagnitude numerator denominator)

/-- The number nearest to a natural number. -/
def ofNat (n : Nat) : Binary64 := ofFraction false n 1

/-- The number nearest to an integer. -/
def ofInt (i : Int) : Binary64 := ofFraction (i < 0) i.natAbs 1

/-- The pattern written for what is not a number. -/
def nan : Binary64 := ofMagnitude false (infinite + leadingBit / 2)

/-- The rounded product. -/
def mul (x y : Binary64) : Binary64 :=
  let negative := x.isNegative != y.isNegative
  if x.isNaN || y.isNaN then nan
  else if !x.isFinite || !y.isFinite then
    if x.isZero || y.isZero then nan else ofMagnitude negative infinite
  else
    let (a, b) := fraction x.magnitude
    let (c, d) := fraction y.magnitude
    ofFraction negative (a * c) (b * d)

/-- The rounded quotient. -/
def div (x y : Binary64) : Binary64 :=
  let negative := x.isNegative != y.isNegative
  if x.isNaN || y.isNaN then nan
  else if !x.isFinite then if !y.isFinite then nan else ofMagnitude negative infinite
  else if !y.isFinite then ofMagnitude negative 0
  else if y.isZero then if x.isZero then nan else ofMagnitude negative infinite
  else
    let (a, b) := fraction x.magnitude
    let (c, d) := fraction y.magnitude
    ofFraction negative (a * d) (b * c)

/-! ### Order -/

/-- The place of a number in the total order of patterns. -/
def key (x : Binary64) : Int := if x.isNegative then -1 - (x.magnitude : Int) else x.magnitude

/-- The place of a number in the order of values, where the zeros agree. -/
def value (x : Binary64) : Int := if x.isNegative then -(x.magnitude : Int) else x.magnitude

/-- One value is less than another; false if either is not a number. -/
def lt (x y : Binary64) : Bool := !x.isNaN && !y.isNaN && x.value < y.value

/-- The least natural number not below the value, where a negative value and
    what is not a number give 0, and `top` bounds the rest. -/
def ceil (top : Nat) (x : Binary64) : Nat :=
  if x.isNaN || x.isNegative then 0
  else if !x.isFinite then top
  else
    let (n, d) := fraction x.magnitude
    min top ((n + d - 1) / d)

/-- The same number with -0.0 written as 0.0. -/
def unsignedZero (x : Binary64) : Binary64 := if x.isZero then zero else x

end Binary64

end Flowchart
