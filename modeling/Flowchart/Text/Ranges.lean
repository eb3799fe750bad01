/-!
# Ranges of Code Points

A Unicode property is kept as the list of its ranges of code points, in
ascending order. ASCII is left out of every table: the properties are decided
there by the ASCII classes, which proofs can follow, and the tables answer
only for the rest.

## Main definitions

* `inRanges`: A number lies in one of the ranges.
-/

namespace Flowchart

/-- The number lies in one of the closed ranges. -/
def inRanges (ranges : List (Nat × Nat)) (n : Nat) : Bool :=
  ranges.any fun (low, high) => low ≤ n && n ≤ high

end Flowchart
