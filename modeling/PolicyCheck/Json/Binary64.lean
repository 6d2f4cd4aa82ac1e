/-
  This file defines the finite binary floating point numbers
  of 64 bits, in exact integer arithmetic: rounding a ratio
  to the nearest number, multiplication and division, and
  the shortest decimal that reads back as the same number.

  Key definitions include:
    * `Binary64`
    * `Binary64.ofRatio?`
    * `Binary64.mul?`
    * `Binary64.div?`
    * `Binary64.powTen?`
    * `Binary64.shortest`
-/

namespace PolicyCheck

------------------------------------------------------------
-- Numbers
------------------------------------------------------------

/-
  The number `±significand * 2 ^ exponent`. Of the ways to
  write a number, the one with the least exponent that is
  at least -1074 and keeps the significand below `2 ^ 53`
  is used.
-/
structure Binary64 where
  negative : Bool
  significand : Nat
  exponent : Int
deriving DecidableEq, Repr

namespace Binary64

/- The least exponent of a number. -/
def minExponent : Int :=
  -1074

/- The greatest exponent of a finite number. -/
def maxExponent : Int :=
  971

/- The number of bits of a significand. -/
def precision : Nat :=
  53

/- The least significand of full precision. -/
def leastFull : Nat :=
  Nat.pow 2 (precision - 1)

/- The zero of a sign. -/
def zero
    (negative : Bool) : Binary64 :=
  ⟨negative, 0, minExponent⟩

/- The number is one of the two zeros. -/
def isZero
    (x : Binary64) : Bool :=
  x.significand = 0

------------------------------------------------------------
-- Rounding
------------------------------------------------------------

/-
  A ratio times a power of two, as a ratio: a positive
  power goes to the numerator and a negative one to the
  denominator.
-/
def scale
    (num den : Nat)
    (power : Int) : Nat × Nat :=
  (num * Nat.pow 2 power.toNat, den * Nat.pow 2 (-power).toNat)

/- A ratio rounded to a whole number, a half to the even neighbour. -/
def roundRatio
    (num den : Nat) : Nat :=
  let quotient := num / den
  let twice := 2 * (num % den)
  if twice < den then quotient
  else if den < twice then quotient + 1
  else if quotient % 2 = 0 then quotient
  else quotient + 1

/-
  The exponent under which the positive ratio `num / den`
  has a significand of full precision, or the least
  exponent if that is greater.
-/
def exponentOf
    (num den : Nat) : Int :=
  let guess : Int :=
    (num.log2 : Int) - (den.log2 : Int) - (precision - 1 : Nat)
  let (n, d) := scale num den (-guess)
  let exact := if n < d * leastFull then guess - 1 else guess
  max exact minExponent

/-
  The number nearest to `±num / den`, a tie going to the
  even significand. There is none when the ratio is too
  large for a finite number.
-/
def ofRatio?
    (negative : Bool)
    (num den : Nat) : Option Binary64 :=
  if num = 0 then some (zero negative)
  else
    let exponent := exponentOf num den
    let (n, d) := scale num den (-exponent)
    let rounded := roundRatio n d
    let result : Binary64 :=
      if rounded = 2 * leastFull then
        ⟨negative, leastFull, exponent + 1⟩
      else
        ⟨negative, rounded, exponent⟩
    if result.exponent ≤ maxExponent then some result else none

------------------------------------------------------------
-- Arithmetic
------------------------------------------------------------

/- The rounded product, unless it is too large. -/
def mul?
    (x y : Binary64) : Option Binary64 :=
  let (n, d) :=
    scale (x.significand * y.significand) 1
      (x.exponent + y.exponent)
  ofRatio? (x.negative != y.negative) n d

/- The rounded quotient, unless it is too large or `y` is zero. -/
def div?
    (x y : Binary64) : Option Binary64 :=
  if y.isZero then none
  else
    let (n, d) :=
      scale x.significand y.significand
        (x.exponent - y.exponent)
    ofRatio? (x.negative != y.negative) n d

/- The number nearest to a natural number. -/
def ofNat?
    (n : Nat) : Option Binary64 :=
  ofRatio? false n 1

/- The number nearest to a power of ten. -/
def powTen?
    (power : Nat) : Option Binary64 :=
  ofNat? (Nat.pow 10 power)

/- The number with the other sign. -/
def neg
    (x : Binary64) : Binary64 :=
  { x with negative := !x.negative }

------------------------------------------------------------
-- Shortest Decimals
------------------------------------------------------------

/-
  A positive decimal: the digits of `digits`, read as a
  whole number, times a power of ten.
-/
structure Decimal where
  digits : Nat
  power : Int
deriving DecidableEq, Repr

/-
  The ends of the interval of reals that round to a
  positive number, and the number itself between them, all
  in quarters of its last place. Below a power of two the
  numbers lie twice as close.
-/
def quarters
    (x : Binary64) : Nat × Nat × Nat :=
  let low :=
    if x.significand = leastFull ∧ minExponent < x.exponent then
      4 * x.significand - 1
    else
      4 * x.significand - 2
  (low, 4 * x.significand, 4 * x.significand + 2)

/-
  The ratio of a number of quarters of the last place to a
  unit of `10 ^ power`.
-/
def quartersIn
    (x : Binary64)
    (power : Int)
    (count : Nat) : Nat × Nat :=
  let (n, d) := scale count 1 (x.exponent - 2)
  (n * Nat.pow 10 (-power).toNat, d * Nat.pow 10 power.toNat)

/-
  The multiple of `10 ^ power` nearest to a positive number
  among the two around it, if one of them rounds to the
  number. The ends of the interval round to it exactly when
  its significand is even; of two equally near multiples
  the even one is taken.
-/
def multipleOf?
    (x : Binary64)
    (power : Int) : Option Decimal :=
  let (low, mid, high) := quarters x
  let (ln, ld) := quartersIn x power low
  let (mn, md) := quartersIn x power mid
  let (hn, hd) := quartersIn x power high
  let within (c : Nat) : Bool :=
    if x.significand % 2 = 0 then
      ln ≤ c * ld && c * hd ≤ hn
    else
      ln < c * ld && c * hd < hn
  let below := mn / md
  let nearest := roundRatio mn md
  let other := if nearest = below then below + 1 else below
  if within nearest then some ⟨nearest, power⟩
  else if within other then some ⟨other, power⟩
  else none

/-
  The exponent of the leading decimal digit of a positive
  number. The number is scaled up by `10 ^ 400` first, so
  that it has one before the point.
-/
def leadingPower
    (x : Binary64) : Int :=
  let (n, d) := quartersIn x (-400) (4 * x.significand)
  ((Nat.toDigits 10 (n / d)).length : Int) - 1 - 400

/- A decimal without the zeros at its end. -/
def Decimal.trim
    (digits : Nat)
    (power : Int) : Decimal :=
  if h : digits ≠ 0 ∧ digits % 10 = 0 then
    trim (digits / 10) (power + 1)
  else
    ⟨digits, power⟩
termination_by digits
decreasing_by
  omega

/-
  The decimal with the fewest digits that rounds to a
  positive number, and of those the nearest one. Seventeen
  digits are always enough.
-/
def shortest
    (x : Binary64) : Decimal :=
  let lead := leadingPower x
  let found :=
    (List.range 17).findSome? fun (extra : Nat) =>
      multipleOf? x (lead - (extra : Int))
  match found with
  | some d => Decimal.trim d.digits d.power
  | none => ⟨x.significand, 0⟩

end Binary64

end PolicyCheck
