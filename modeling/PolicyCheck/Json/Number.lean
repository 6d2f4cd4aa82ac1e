import PolicyCheck.Json.Basic
import PolicyCheck.Text.Digit

/-
  This file reads the lexeme of a JSON number. An integer
  that fits 64 bits stays one; every other lexeme becomes a
  float, from a significand of at most 64 bits and one
  multiplication or division by a power of ten.

  Key definitions include:
    * `Lexeme`
    * `Lexeme.ofChars?`
    * `Lexeme.float?`
    * `Lexeme.number?`
-/

namespace PolicyCheck

namespace Json

------------------------------------------------------------
-- Lexemes
------------------------------------------------------------

/-
  The parts of a number as written: sign, digits before the
  point, digits after it, and the exponent with its sign.
-/
structure Lexeme where
  negative : Bool
  whole : List Nat
  fraction : Option (List Nat)
  exponent : Option (Bool × List Nat)
deriving DecidableEq, Repr

namespace Lexeme

/- The leading digits of a text, and what follows them. -/
def digits : List Char → List Nat × List Char
  | [] => ([], [])
  | c :: cs =>
      match Text.asciiDigit? c with
      | some d =>
          let (ds, rest) := digits cs
          (d :: ds, rest)
      | none => ([], c :: cs)

/- The sign at the head of an exponent, and what follows it. -/
def exponentSign : List Char → Bool × List Char
  | '-' :: cs => (true, cs)
  | '+' :: cs => (false, cs)
  | cs => (false, cs)

/-
  The fraction at the head of a text, if a point is there.
  A point without digits is an error.
-/
def fractionOf? : List Char → Option (Option (List Nat) × List Char)
  | '.' :: cs =>
      match digits cs with
      | ([], _) => none
      | (ds, rest) => some (some ds, rest)
  | cs => some (none, cs)

/-
  The exponent at the head of a text, if its mark is there.
  A mark without digits is an error.
-/
def exponentOf? (cs : List Char) :
    Option (Option (Bool × List Nat) × List Char) :=
  match cs with
  | c :: rest =>
      if c = 'e' ∨ c = 'E' then
        let (negative, rest) := exponentSign rest
        match digits rest with
        | ([], _) => none
        | (ds, rest) => some (some (negative, ds), rest)
      else
        some (none, cs)
  | [] => some (none, [])

/- The whole part of a number: a zero stands only alone. -/
def wholeOf? (cs : List Char) : Option (List Nat × List Char) :=
  match digits cs with
  | ([], _) => none
  | (0 :: _ :: _, _) => none
  | (ds, rest) => some (ds, rest)

/- The lexeme that a text is, if it is one from end to end. -/
def ofChars? (cs : List Char) : Option Lexeme := do
  let (negative, cs) :=
    match cs with
    | '-' :: rest => (true, rest)
    | cs => (false, cs)
  let (whole, cs) ← wholeOf? cs
  let (fraction, cs) ← fractionOf? cs
  let (exponent, cs) ← exponentOf? cs
  if cs.isEmpty then
    some ⟨negative, whole, fraction, exponent⟩
  else
    none

------------------------------------------------------------
-- Floats
------------------------------------------------------------

/- The greatest unsigned integer of 64 bits. -/
def maxUnsigned : Nat :=
  18446744073709551615

/- The greatest integer whose negative is a signed one of 64 bits. -/
def maxNegative : Nat :=
  9223372036854775808

/-
  Append digits to a significand as long as it fits 64
  bits. The digits that were not taken are returned.
-/
def appendDigits
    (significand : Nat) : List Nat → Nat × List Nat
  | [] => (significand, [])
  | d :: ds =>
      if 10 * significand + d ≤ maxUnsigned then
        appendDigits (10 * significand + d) ds
      else
        (significand, d :: ds)

/- The greatest power of ten that is a finite float. -/
def maxPowTen : Nat :=
  308

/-
  Divide a float by a power of ten. Beyond the greatest
  power the division goes in steps, until nothing is left
  to divide.
-/
def divPowTen?
    (x : Binary64)
    (power : Nat) : Option Binary64 :=
  if power ≤ maxPowTen then do
    x.div? (← Binary64.powTen? power)
  else if x.isZero then
    some x
  else do
    let y ← x.div? (← Binary64.powTen? maxPowTen)
    divPowTen? y (power - maxPowTen)
termination_by power
decreasing_by
  unfold maxPowTen at *
  omega

/- Multiply a float by a power of ten. -/
def mulPowTen?
    (x : Binary64)
    (power : Nat) : Option Binary64 :=
  if power ≤ maxPowTen then do
    x.mul? (← Binary64.powTen? power)
  else if x.isZero then
    some x
  else
    none

/-
  The float `significand * 10 ^ power`, by one rounding of
  the significand and one of the product or quotient.
-/
def scaled?
    (significand : Nat)
    (power : Int) : Option Binary64 := do
  let x ← Binary64.ofNat? significand
  if 0 ≤ power then
    mulPowTen? x power.toNat
  else
    divPowTen? x (-power).toNat

/- The greatest exponent that is read digit by digit. -/
def maxExponent : Nat :=
  2147483647

/-
  The float that a lexeme writes, without its sign. Whole
  digits that no longer fit the significand count in the
  exponent; digits of the fraction that no longer fit are
  dropped. There is none when the number is too large.
-/
def magnitude?
    (lexeme : Lexeme) : Option Binary64 :=
  let (significand, late) := appendDigits 0 lexeme.whole
  let fraction := lexeme.fraction.getD []
  let (significand, dropped) := appendDigits significand fraction
  let taken := fraction.length - dropped.length
  let start : Int := (late.length : Int) - (taken : Int)
  match lexeme.exponent with
  | none => scaled? significand start
  | some (negative, ds) =>
      let exponent := ds.foldl (fun n d => 10 * n + d) 0
      if exponent ≤ maxExponent then
        if negative then scaled? significand (start - exponent)
        else scaled? significand (start + exponent)
      else if negative ∨ significand = 0 then
        some (.zero false)
      else
        none

/- The float that a lexeme writes. -/
def float?
    (lexeme : Lexeme) : Option Binary64 :=
  (magnitude? lexeme).map fun x =>
    { x with negative := lexeme.negative }

------------------------------------------------------------
-- Numbers
------------------------------------------------------------

/-
  The number that a lexeme writes. Without fraction and
  exponent it is an integer if it fits 64 bits, unsigned,
  or signed when negative; a negative zero is a float.
-/
def number?
    (lexeme : Lexeme) : Option Number :=
  let n := lexeme.whole.foldl (fun n d => 10 * n + d) 0
  match lexeme.fraction, lexeme.exponent with
  | none, none =>
      if !lexeme.negative && n ≤ maxUnsigned then
        some (.int n)
      else if lexeme.negative && 0 < n && n ≤ maxNegative then
        some (.int (-n))
      else
        lexeme.float?.map .float
  | _, _ => lexeme.float?.map .float

end Lexeme

end Json

end PolicyCheck
