/-!
# Machine Words

Counts, sizes and positions are kept in 64-bit words. A count that is read is
refused if it does not fit, and a sum of two of them wraps around.

## Main definitions

* `wordLimit`: The first number above all 64-bit words.
* `wrapWord`: A number as a 64-bit word keeps it.
-/

namespace Flowchart

/-- The number of 64-bit words, and so the first number above them all. -/
def wordLimit : Nat := Nat.pow 2 64

/-- The number of 16-bit words. -/
def halfWordLimit : Nat := Nat.pow 2 16

/-- The number of 64-bit words without a sign bit, and so the first number above
    all signed words. -/
def signedLimit : Nat := Nat.pow 2 63

/-- A number as a 64-bit word keeps it. -/
def wrapWord (n : Nat) : Nat := n % wordLimit

end Flowchart
