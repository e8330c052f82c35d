/-!
# Runs of code points

Character properties are tables of ranges, or of runs with a step where a
property alternates from one code point to the next.
-/

set_option autoImplicit false

namespace Callwire.Text

def inRanges (table : List (Nat × Nat)) (n : Nat) : Bool :=
  table.any fun (first, last) => first ≤ n && n ≤ last

/-- A run holds `first`, `first + step` and so on up to `last`. -/
def inRuns (table : List (Nat × Nat × Nat)) (n : Nat) : Bool :=
  table.any fun (first, last, step) =>
    first ≤ n && n ≤ last && (n - first) % step == 0

theorem inRanges_append (a b : List (Nat × Nat)) (n : Nat) :
    inRanges (a ++ b) n = (inRanges a n || inRanges b n) := List.any_append

end Callwire.Text
