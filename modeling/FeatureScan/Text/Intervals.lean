/-!
Tables of code points as increasing lists of closed intervals.
-/

namespace FeatureScan
namespace Text

/-- Whether an interval of the table holds `n`. -/
def inIntervals (n : Nat) : List (Nat × Nat) → Bool
  | [] => false
  | (lo, hi) :: rest => if n < lo then false else n ≤ hi || inIntervals n rest

end Text
end FeatureScan
