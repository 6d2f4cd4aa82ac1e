/-
  This file defines arithmetic on signed integers of 64
  bits in which a result that does not fit is no result.

  Key definitions include:
    * `Bounded.fits`
    * `Bounded.check?`
    * `Bounded.add?`
    * `Bounded.sub?`
    * `Bounded.mul?`
-/

namespace PolicyCheck

namespace Bounded

/- The least signed integer of 64 bits. -/
def least : Int :=
  -9223372036854775808

/- The greatest signed integer of 64 bits. -/
def greatest : Int :=
  9223372036854775807

/- An integer fits 64 bits. -/
def fits
    (n : Int) : Bool :=
  least ≤ n && n ≤ greatest

/- An integer, if it fits. -/
def check?
    (n : Int) : Option Int :=
  if fits n then some n else none

/- The sum, if it fits. -/
def add?
    (m n : Int) : Option Int :=
  check? (m + n)

/- The difference, if it fits. -/
def sub?
    (m n : Int) : Option Int :=
  check? (m - n)

/- The product, if it fits. -/
def mul?
    (m n : Int) : Option Int :=
  check? (m * n)

end Bounded

end PolicyCheck
