/-!
# WikiSearch — sets of characters as ranges

A character property is held as the closed ranges of character numbers that have
it, ascending and apart.
-/

namespace WikiSearch.Text

/-- Whether a number lies in one of the ranges, which ascend: the search ends at
the first range that starts beyond it. -/
def inRanges : List (Nat × Nat) → Nat → Bool
  | [], _ => false
  | (lo, hi) :: rest, n => lo ≤ n && (n ≤ hi || inRanges rest n)

end WikiSearch.Text
