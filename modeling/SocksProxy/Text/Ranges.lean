/-
  Sets of characters, given as ranges of code points in ascending order.
-/

namespace SocksProxy.Text

/-- Whether a code point lies in one of the ranges. The ranges are ascending, so the search ends at
    the first that starts behind it. -/
def inRanges (n : Nat) : List (Nat × Nat) → Bool
  | [] => false
  | (first, last) :: rest =>
    if n < first then false else if n ≤ last then true else inRanges n rest

end SocksProxy.Text
