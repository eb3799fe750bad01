/-!
# First of Each Kind

Several stages keep the first of all items that agree in some respect and drop
the later ones, without disturbing the order of those they keep.

## Main definitions

* `firsts`: The first item for every value of a key.
-/

namespace Flowchart

/-- The items of a list that are the first with their key. -/
def firsts {α κ : Type} [DecidableEq κ] (key : α → κ) : List α → List α
  | [] => []
  | a :: l => a :: (firsts key l).filter fun b => key b ≠ key a

end Flowchart
