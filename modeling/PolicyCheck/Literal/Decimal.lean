import PolicyCheck.Literal.Bounded
import PolicyCheck.Text.Digit

/-
  This file reads decimal literals: an optional sign,
  digits, a point, and one to four digits. The value is
  scaled by ten thousand and has to fit 64 bits.

  Key definitions include:
    * `Decimal.Error`
    * `Decimal.cut?`
    * `Decimal.parse`
-/

namespace PolicyCheck

namespace Decimal

------------------------------------------------------------
-- Errors
------------------------------------------------------------

/- Why a text is no decimal literal. -/
inductive Error where
  | malformed
  | tooManyDigits
  | overflow
deriving DecidableEq, Repr

/- An error as it is reported for a text. -/
def Error.message
    (text : String) : Error → String
  | .malformed => "`" ++ text ++ "` is not a well-formed decimal value"
  | .tooManyDigits =>
      "too many digits after the decimal in `" ++ text ++
        "`; at most 4 are supported"
  | .overflow => "overflow when converting to decimal"

------------------------------------------------------------
-- Reading
------------------------------------------------------------

/- The number of digits after the point. -/
def places : Nat :=
  4

/- A nonempty text of decimal digits of whatever script. -/
def isDigits
    (cs : List Char) : Bool :=
  !cs.isEmpty && cs.all Text.isDecimalDigit

/-
  The parts of a literal: its sign, and the digits on both
  sides of the point. Digits of any script have the form of
  a literal.
-/
def cut?
    (cs : List Char) : Option (Bool × List Char × List Char) :=
  let (negative, cs) := Text.unsign cs
  let whole := cs.takeWhile (· ≠ '.')
  match cs.dropWhile (· ≠ '.') with
  | '.' :: fraction =>
      if isDigits whole && isDigits fraction then
        some (negative, whole, fraction)
      else
        none
  | _ => none

/- The number of bytes of a text in UTF-8. -/
def byteLength : List Char → Nat
  | [] => 0
  | c :: cs => c.utf8Size + byteLength cs

/- The signed value of the whole part, scaled. -/
def scaledWhole?
    (negative : Bool)
    (whole : List Char) : Option Int := do
  let n ← Text.decimal? whole
  let n ← Bounded.check? (if negative then -(n : Int) else n)
  Bounded.mul? n (Nat.pow 10 places : Nat)

/- The value of the fraction, scaled. -/
def scaledFraction?
    (fraction : List Char) : Option Int := do
  let n ← Text.decimal? fraction
  let n ← Bounded.check? n
  Bounded.mul? n (Nat.pow 10 (places - byteLength fraction) : Nat)

/- The signed sum of both parts, scaled. -/
def scaledValue?
    (negative : Bool)
    (whole fraction : List Char) : Option Int := do
  let w ← scaledWhole? negative whole
  let f ← scaledFraction? fraction
  if negative then Bounded.sub? w f else Bounded.add? w f

/-
  The value of a literal, times ten thousand. The digits
  after the point are counted in bytes, and only ASCII
  digits have a value.
-/
def parse
    (text : String) : Except Error Int :=
  match cut? text.toList with
  | none => .error .malformed
  | some (negative, whole, fraction) =>
      if places < byteLength fraction then
        .error .tooManyDigits
      else
        match scaledValue? negative whole fraction with
        | some n => .ok n
        | none => .error .overflow

end Decimal

end PolicyCheck
