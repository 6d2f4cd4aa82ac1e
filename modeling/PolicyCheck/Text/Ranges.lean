/-
  This file defines membership in a table of code point
  ranges, the form in which all character classes of this
  library are written.

  Key definitions include:
    * `inRanges`
-/

namespace PolicyCheck

namespace Text

/- A number lies in one of the ranges, both ends included. -/
def inRanges
    (ranges : List (Nat × Nat))
    (n : Nat) : Bool :=
  ranges.any fun (low, high) => low ≤ n && n ≤ high

end Text

end PolicyCheck
