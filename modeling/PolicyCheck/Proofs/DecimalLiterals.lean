import Mathlib.Data.Rat.Cast.Order
import Mathlib.Tactic.FieldSimp
import PolicyCheck.Literal.Decimal
import PolicyCheck.Proofs.Numerals
import PolicyCheck.Proofs.Patterns

/-
  Which texts are decimal literals, and of what value. They
  are accepted if their value, times ten thousand, is in the
  range of 64 bits: the two parts are scaled and checked one
  by one, but as both have the sign of the literal, neither
  is out of range where the whole is not.

  Main declarations:
    * `Decimal.Literal`
    * `Decimal.Literal.value`
    * `Decimal.cut?_eq_some_iff`
    * `Decimal.matches_pattern_iff`
    * `Decimal.parse_eq_ok_iff`
    * `decimals_accepted_if_representable`
-/

namespace PolicyCheck

namespace Decimal

------------------------------------------------------------
-- Literals
------------------------------------------------------------

/-
  The parts of a decimal literal: a sign, and ASCII digits on
  both sides of the point.
-/
structure Literal where
  negative : Bool
  whole : List Char
  fraction : List Char
  whole_numeral : Text.IsNumeral whole
  fraction_numeral : Text.IsNumeral fraction
  fraction_length : fraction.length ≤ 4

/- The characters of a literal. -/
def Literal.chars
    (literal : Literal) : List Char :=
  Text.signed literal.negative
    (literal.whole ++ '.' :: literal.fraction)

/- The number that a literal denotes. -/
def Literal.value
    (literal : Literal) : ℚ :=
  let magnitude : ℚ :=
    Text.numeral literal.whole +
      Text.numeral literal.fraction / 10 ^ literal.fraction.length
  if literal.negative then -magnitude else magnitude

/- The number of ten thousandths that a sign and digits denote. -/
def scaled
    (negative : Bool)
    (whole fraction : List Char) : Int :=
  let magnitude : Int :=
    Text.numeral whole * 10 ^ 4 +
      Text.numeral fraction * 10 ^ (4 - fraction.length)
  if negative then -magnitude else magnitude

/- With at most four places this is an integer. -/
theorem Literal.cast_scaled
    (literal : Literal) :
    (scaled literal.negative literal.whole literal.fraction : ℚ) =
      literal.value * 10 ^ 4 := by
  have hPower :
      (10 : ℚ) ^ (4 - literal.fraction.length) =
        10 ^ 4 / 10 ^ literal.fraction.length := by
    rw [eq_div_iff (by positivity), ← pow_add,
      Nat.sub_add_cancel literal.fraction_length]
  unfold scaled value
  cases literal.negative with
  | true =>
      simp only [if_true]
      push_cast
      rw [hPower]
      ring
  | false =>
      simp only [Bool.false_eq_true, if_false]
      push_cast
      rw [hPower]
      ring

------------------------------------------------------------
-- Parts
------------------------------------------------------------

theorem isDigits_iff
    {cs : List Char} :
    isDigits cs = true ↔
      cs ≠ [] ∧ ∀ c ∈ cs, Text.isDecimalDigit c = true := by
  simp [isDigits]

/- ASCII digits are digits of some script. -/
theorem isDigits_of_isNumeral
    {cs : List Char}
    (hNumeral : Text.IsNumeral cs) :
    isDigits cs = true := by
  rw [isDigits_iff]
  refine ⟨hNumeral.ne_nil, ?_⟩
  intro c hMem
  have hRange := Bool.and_eq_true_iff.mp (hNumeral.isDigit c hMem)
  have hFirst : '0'.toNat ≤ c.toNat := of_decide_eq_true hRange.1
  have hLast : c.toNat ≤ '9'.toNat := of_decide_eq_true hRange.2
  rw [Text.isDecimalDigit, Text.inRanges, List.any_eq_true]
  refine ⟨(0x30, 0x39), List.mem_cons_self, ?_⟩
  rw [Bool.and_eq_true, decide_eq_true_iff, decide_eq_true_iff]
  exact ⟨hFirst, hLast⟩

/- What is no digit does not stand among digits. -/
theorem notMem_of_isDigits
    {cs : List Char}
    (hDigits : isDigits cs = true)
    {c : Char}
    (hOther : Text.isDecimalDigit c = false) :
    c ∉ cs := by
  intro hMem
  have hDigit := (isDigits_iff.mp hDigits).2 c hMem
  rw [hOther] at hDigit
  cases hDigit

/- A text without sign is cut at its only point. -/
theorem takeWhile_ne_point
    {whole : List Char}
    (hWhole : isDigits whole = true)
    (fraction : List Char) :
    (whole ++ '.' :: fraction).takeWhile (· ≠ '.') = whole ∧
      (whole ++ '.' :: fraction).dropWhile (· ≠ '.') =
        '.' :: fraction := by
  have hPoint : '.' ∉ whole := notMem_of_isDigits hWhole rfl
  have hBefore : ∀ c ∈ whole, decide (c ≠ '.') = true := by
    intro c hMem
    apply decide_eq_true
    intro hSame
    exact hPoint (hSame ▸ hMem)
  exact
    Text.takeWhile_dropWhile_iff.mpr
      ⟨rfl, hBefore, Text.ends_cons_iff.mpr rfl⟩

/-
  A text has parts if it is a sign and digits on both sides
  of a point, where digits can be of any script.
-/
theorem cut?_eq_some_iff
    {cs : List Char}
    {negative : Bool}
    {whole fraction : List Char} :
    cut? cs = some (negative, whole, fraction) ↔
      cs = Text.signed negative (whole ++ '.' :: fraction) ∧
        isDigits whole = true ∧ isDigits fraction = true := by
  constructor
  · intro hCut
    cases hUnsign : Text.unsign cs with
    | mk sign rest =>
        have hJoin :
            rest.takeWhile (· ≠ '.') ++ rest.dropWhile (· ≠ '.') =
              rest :=
          List.takeWhile_append_dropWhile
        simp only [cut?, hUnsign] at hCut
        split at hCut
        · rename_i after hDrop
          rw [hDrop] at hJoin
          split at hCut
          · rename_i hDigits
            rw [Bool.and_eq_true] at hDigits
            simp only [Option.some.injEq, Prod.mk.injEq] at hCut
            rcases hCut with ⟨rfl, rfl, rfl⟩
            refine ⟨?_, hDigits⟩
            rw [hJoin]
            exact Text.eq_signed_of_unsign hUnsign
          · cases hCut
        · cases hCut
  · intro hParts
    rcases hParts with ⟨rfl, hWhole, hFraction⟩
    have hHead :
        (whole ++ '.' :: fraction).head? ≠ some '-' := by
      rw [List.head?_append_of_ne_nil whole (isDigits_iff.mp hWhole).1]
      intro hMinus
      exact notMem_of_isDigits hWhole rfl (List.mem_of_head? hMinus)
    rcases takeWhile_ne_point hWhole fraction with ⟨hTake, hDrop⟩
    simp only [cut?, Text.unsign_signed hHead, hTake, hDrop, hWhole,
      hFraction, Bool.and_self, if_true]

/-
  The pattern of a literal, with a group on both sides of the
  point: `^(-?\d+)\.(\d+)$`.
-/
def pattern : Text.Pattern :=
  .seq (.group 1 (.afterSign (.digits Text.isDecimalDigit)))
    (.seq (.char '.') (.group 2 (.digits Text.isDecimalDigit)))

/- The parts of a text are what its pattern captures. -/
theorem matches_pattern_iff
    {cs : List Char}
    {captures : Text.Captures} :
    pattern.Matches cs captures ↔
      ∃ negative whole fraction,
        cut? cs = some (negative, whole, fraction) ∧
          captures =
            [(1, Text.signed negative whole), (2, fraction)] := by
  rw [pattern, Text.Pattern.matches_seq_iff]
  simp only [Text.Pattern.matches_char_seq_iff,
    Text.Pattern.matches_group_digits_iff]
  simp only [Text.Pattern.matches_group_iff,
    Text.Pattern.matches_afterSign_iff,
    Text.Pattern.matches_digits_iff, cut?_eq_some_iff, isDigits_iff]
  constructor
  · intro hMatches
    rcases hMatches with ⟨_, _, _, _, hLeft, hRight, rfl, rfl⟩
    rcases hLeft with ⟨_, ⟨negative, whole, ⟨hWhole, rfl⟩, rfl⟩, rfl⟩
    rcases hRight with ⟨fraction, ⟨hFraction, rfl⟩, rfl⟩
    exact
      ⟨negative, whole, fraction,
        ⟨Text.signed_append negative whole _, hWhole, hFraction⟩, rfl⟩
  · intro hCut
    rcases hCut with
      ⟨negative, whole, fraction, ⟨rfl, hWhole, hFraction⟩, rfl⟩
    exact
      ⟨_, _, _, _,
        ⟨[], ⟨negative, whole, ⟨hWhole, rfl⟩, rfl⟩, rfl⟩,
        ⟨fraction, ⟨hFraction, rfl⟩, rfl⟩,
        (Text.signed_append negative whole _).symm, rfl⟩

------------------------------------------------------------
-- Values
------------------------------------------------------------

/- ASCII digits have one byte each. -/
theorem byteLength_eq
    {cs : List Char}
    (hDigits : ∀ c ∈ cs, c.isDigit = true) :
    byteLength cs = cs.length := by
  induction cs with
  | nil => rfl
  | cons c cs ih =>
      rw [List.forall_mem_cons] at hDigits
      have hRange := Bool.and_eq_true_iff.mp hDigits.1
      have hLast : c.val ≤ '9'.val := of_decide_eq_true hRange.2
      have hSize : c.utf8Size = 1 :=
        Char.utf8Size_eq_one_iff.mpr
          (UInt32.le_trans hLast (by decide))
      rw [byteLength, ih hDigits.2, hSize, List.length_cons,
        Nat.add_comm]

/- A number that fits when it is scaled fits before. -/
theorem fits_of_fits_mul
    {n scale : Int}
    (hScale : 0 < scale)
    (hFits : Bounded.fits (n * scale) = true) :
    Bounded.fits n = true := by
  rw [Bounded.fits_iff] at hFits ⊢
  constructor
  · nlinarith
  · nlinarith

/- The whole part is checked as it is scaled. -/
theorem scaledWhole?_eq_some_iff
    {negative : Bool}
    {whole : List Char}
    {n : Int} :
    scaledWhole? negative whole = some n ↔
      (∀ c ∈ whole, c.isDigit = true) ∧
        n = (if negative then -(Text.numeral whole : Int)
          else Text.numeral whole) * 10 ^ 4 ∧
        Bounded.fits n = true := by
  have hScale : ((Nat.pow 10 places : Nat) : Int) = 10 ^ 4 := rfl
  simp only [scaledWhole?, Bounded.mul?, hScale, Option.bind_eq_bind,
    Option.bind_eq_some_iff, Text.decimal?_eq_some_iff,
    Bounded.check?_eq_some_iff]
  constructor
  · intro hRead
    rcases hRead with
      ⟨digits, ⟨hDigits, rfl⟩, part, ⟨rfl, _⟩, rfl, hFits⟩
    exact ⟨hDigits, rfl, hFits⟩
  · intro hParts
    rcases hParts with ⟨hDigits, rfl, hFits⟩
    exact
      ⟨_, ⟨hDigits, rfl⟩, _,
        ⟨rfl, fits_of_fits_mul (by norm_num) hFits⟩, rfl, hFits⟩

/- At most four digits are always in range. -/
theorem scaledFraction?_eq_some_iff
    {fraction : List Char}
    (hLength : byteLength fraction ≤ 4)
    {n : Int} :
    scaledFraction? fraction = some n ↔
      (∀ c ∈ fraction, c.isDigit = true) ∧
        n = Text.numeral fraction * 10 ^ (4 - fraction.length) := by
  simp only [scaledFraction?, Bounded.mul?, Option.bind_eq_bind,
    Option.bind_eq_some_iff, Text.decimal?_eq_some_iff,
    Bounded.check?_eq_some_iff]
  constructor
  · intro hRead
    rcases hRead with
      ⟨digits, ⟨hDigits, rfl⟩, part, ⟨rfl, _⟩, rfl, _⟩
    refine ⟨hDigits, ?_⟩
    rw [byteLength_eq hDigits]
    norm_cast
  · intro hParts
    rcases hParts with ⟨hDigits, rfl⟩
    rw [byteLength_eq hDigits] at hLength ⊢
    have hScale :
        ((Nat.pow 10 (places - fraction.length) : Nat) : Int) =
          10 ^ (4 - fraction.length) := by
      norm_cast
    have hSmall :
        Text.numeral fraction * 10 ^ (4 - fraction.length) <
          10 ^ 4 := by
      calc
        Text.numeral fraction * 10 ^ (4 - fraction.length) <
            10 ^ fraction.length * 10 ^ (4 - fraction.length) :=
          Nat.mul_lt_mul_of_pos_right (Text.numeral_lt hDigits)
            (by positivity)
        _ = 10 ^ 4 := by
          rw [← pow_add, Nat.add_sub_cancel' hLength]
    have hFits :
        Bounded.fits
          (Text.numeral fraction * 10 ^ (4 - fraction.length)) =
          true := by
      have hBound :
          (Text.numeral fraction : Int) *
              10 ^ (4 - fraction.length) < 10 ^ 4 := by
        exact_mod_cast hSmall
      have hSign :
          (0 : Int) ≤
            Text.numeral fraction * 10 ^ (4 - fraction.length) := by
        positivity
      rw [Bounded.fits_iff]
      constructor
      · linarith
      · linarith
    rw [hScale]
    exact
      ⟨_, ⟨hDigits, rfl⟩, _,
        ⟨rfl, fits_of_fits_mul (by positivity) hFits⟩, rfl, hFits⟩

------------------------------------------------------------
-- Reading
------------------------------------------------------------

/- The parts are added with the sign of the literal. -/
theorem sum?_eq
    (negative : Bool)
    (whole fraction : List Char) :
    (if negative then
        Bounded.sub?
          ((if negative then -(Text.numeral whole : Int)
            else Text.numeral whole) * 10 ^ 4)
          (Text.numeral fraction * 10 ^ (4 - fraction.length))
      else
        Bounded.add?
          ((if negative then -(Text.numeral whole : Int)
            else Text.numeral whole) * 10 ^ 4)
          (Text.numeral fraction * 10 ^ (4 - fraction.length))) =
      Bounded.check? (scaled negative whole fraction) := by
  unfold scaled Bounded.sub? Bounded.add?
  cases negative with
  | true =>
      simp only [if_true]
      congr 1
      ring
  | false =>
      simp only [Bool.false_eq_true, if_false]

/-
  The sum is in range only if the whole part is, as both
  parts have the sign of the literal.
-/
theorem fits_whole_of_fits_scaled
    {negative : Bool}
    {whole fraction : List Char}
    (hFits : Bounded.fits (scaled negative whole fraction) = true) :
    Bounded.fits
      ((if negative then -(Text.numeral whole : Int)
        else Text.numeral whole) * 10 ^ 4) = true := by
  have hFraction :
      (0 : Int) ≤
        Text.numeral fraction * 10 ^ (4 - fraction.length) := by
    positivity
  have hWhole : (0 : Int) ≤ Text.numeral whole := by
    positivity
  rw [Bounded.fits_iff] at hFits ⊢
  unfold scaled at hFits
  cases negative with
  | true =>
      simp only [if_true] at hFits ⊢
      constructor
      · linarith
      · linarith
  | false =>
      simp only [Bool.false_eq_true, if_false] at hFits ⊢
      constructor
      · linarith
      · linarith

/- Digits have a value if it is in range. -/
theorem scaledValue?_eq_some_iff
    {negative : Bool}
    {whole fraction : List Char}
    (hLength : byteLength fraction ≤ 4)
    {n : Int} :
    scaledValue? negative whole fraction = some n ↔
      (∀ c ∈ whole, c.isDigit = true) ∧
        (∀ c ∈ fraction, c.isDigit = true) ∧
        n = scaled negative whole fraction ∧
        Bounded.fits (scaled negative whole fraction) = true := by
  simp only [scaledValue?, Option.bind_eq_bind,
    Option.bind_eq_some_iff, scaledWhole?_eq_some_iff,
    scaledFraction?_eq_some_iff hLength]
  constructor
  · intro hRead
    rcases hRead with
      ⟨w, ⟨hWhole, rfl, _⟩, f, ⟨hFraction, rfl⟩, hSum⟩
    rw [sum?_eq, Bounded.check?_eq_some_iff] at hSum
    exact ⟨hWhole, hFraction, hSum⟩
  · intro hParts
    rcases hParts with ⟨hWhole, hFraction, hSum⟩
    refine
      ⟨_, ⟨hWhole, rfl, fits_whole_of_fits_scaled hSum.2⟩, _,
        ⟨hFraction, rfl⟩, ?_⟩
    rw [sum?_eq, Bounded.check?_eq_some_iff]
    exact hSum

/- A text is read if it is a literal with a value in range. -/
theorem parse_eq_ok_iff
    {text : String}
    {n : Int} :
    parse text = .ok n ↔
      ∃ literal : Literal,
        text.toList = literal.chars ∧
          (n : ℚ) = literal.value * 10 ^ 4 ∧
          Bounded.fits n = true := by
  constructor
  · intro hParse
    unfold parse at hParse
    split at hParse
    · cases hParse
    · rename_i negative whole fraction hCut
      rcases cut?_eq_some_iff.mp hCut with ⟨hText, hWhole, hFraction⟩
      split at hParse
      · cases hParse
      · rename_i hPlaces
        have hLength : byteLength fraction ≤ 4 := Nat.not_lt.mp hPlaces
        split at hParse
        · rename_i value hValue
          rcases Except.ok.inj hParse with rfl
          rcases (scaledValue?_eq_some_iff hLength).mp hValue with
            ⟨hDigits, hPlaced, rfl, hFits⟩
          rw [byteLength_eq hPlaced] at hLength
          let literal : Literal :=
            ⟨negative, whole, fraction,
              ⟨(isDigits_iff.mp hWhole).1, hDigits⟩,
              ⟨(isDigits_iff.mp hFraction).1, hPlaced⟩, hLength⟩
          exact ⟨literal, hText, literal.cast_scaled, hFits⟩
        · cases hParse
  · intro hLiteral
    rcases hLiteral with ⟨literal, hText, hValue, hFits⟩
    have hCut :
        cut? text.toList =
          some (literal.negative, literal.whole, literal.fraction) :=
      cut?_eq_some_iff.mpr
        ⟨hText, isDigits_of_isNumeral literal.whole_numeral,
          isDigits_of_isNumeral literal.fraction_numeral⟩
    have hLength : byteLength literal.fraction ≤ 4 := by
      rw [byteLength_eq literal.fraction_numeral.isDigit]
      exact literal.fraction_length
    have hSame :
        n =
          scaled literal.negative literal.whole literal.fraction := by
      rw [← literal.cast_scaled] at hValue
      exact_mod_cast hValue
    have hRead :
        scaledValue? literal.negative literal.whole
          literal.fraction = some n :=
      (scaledValue?_eq_some_iff hLength).mpr
        ⟨literal.whole_numeral.isDigit,
          literal.fraction_numeral.isDigit, hSame, hSame ▸ hFits⟩
    have hPlaces : ¬ places < byteLength literal.fraction :=
      Nat.not_lt.mpr hLength
    simp only [parse, hCut, if_neg hPlaces, hRead]

/- The digits of a literal are ASCII digits. -/
theorem Literal.isDigit_of_mem_chars
    (literal : Literal)
    {c : Char}
    (hMem : c ∈ literal.chars)
    (hDigit : Text.isDecimalDigit c = true) :
    c.isDigit = true := by
  have hParts :
      c = '-' ∨ c ∈ literal.whole ∨ c = '.' ∨
        c ∈ literal.fraction := by
    rcases Text.mem_signed hMem with hMinus | hRest
    · exact Or.inl hMinus
    · rw [List.mem_append, List.mem_cons] at hRest
      exact Or.inr hRest
  rcases hParts with rfl | hWhole | rfl | hFraction
  · cases hDigit
  · exact literal.whole_numeral.isDigit c hWhole
  · cases hDigit
  · exact literal.fraction_numeral.isDigit c hFraction

/- So a text is read if it is a literal of a number in range. -/
theorem exists_parse_eq_ok_iff
    {text : String} :
    (∃ n, parse text = .ok n) ↔
      ∃ literal : Literal,
        text.toList = literal.chars ∧
          -2 ^ 63 ≤ literal.value * 10 ^ 4 ∧
          literal.value * 10 ^ 4 ≤ 2 ^ 63 - 1 := by
  constructor
  · intro hRead
    rcases hRead with ⟨n, hParse⟩
    rcases parse_eq_ok_iff.mp hParse with
      ⟨literal, hText, hValue, hFits⟩
    rw [Bounded.fits_iff] at hFits
    refine ⟨literal, hText, ?_⟩
    rw [← hValue]
    exact_mod_cast hFits
  · intro hLiteral
    rcases hLiteral with ⟨literal, hText, hRange⟩
    rw [← literal.cast_scaled] at hRange
    refine
      ⟨_, parse_eq_ok_iff.mpr
        ⟨literal, hText, literal.cast_scaled, ?_⟩⟩
    rw [Bounded.fits_iff]
    exact_mod_cast hRange

end Decimal

------------------------------------------------------------
-- Acceptance
------------------------------------------------------------

/-
  A text is read as a number if it is a literal that denotes
  a ten thousandth of it, and if the number is in the range
  of 64 bits. So every literal with a value in range is
  accepted, and no text with a digit of another script is.
-/
theorem decimals_accepted_if_representable
    (text : String) :
    (∀ n : Int,
      Decimal.parse text = .ok n ↔
        ∃ literal : Decimal.Literal,
          text.toList = literal.chars ∧
            (n : ℚ) = literal.value * 10 ^ 4 ∧
            -2 ^ 63 ≤ n ∧ n ≤ 2 ^ 63 - 1) ∧
      ((∃ n, Decimal.parse text = .ok n) ↔
        ∃ literal : Decimal.Literal,
          text.toList = literal.chars ∧
            -2 ^ 63 ≤ literal.value * 10 ^ 4 ∧
            literal.value * 10 ^ 4 ≤ 2 ^ 63 - 1) ∧
      ((∃ c ∈ text.toList,
          Text.isDecimalDigit c = true ∧ c.isDigit = false) →
        ∃ error, Decimal.parse text = .error error) := by
  refine ⟨?_, ?_, ?_⟩
  · intro n
    simp only [Decimal.parse_eq_ok_iff, Bounded.fits_iff]
  · exact Decimal.exists_parse_eq_ok_iff
  · intro hForeign
    rcases hForeign with ⟨c, hMem, hDigit, hScript⟩
    cases hParse : Decimal.parse text with
    | error error => exact ⟨error, rfl⟩
    | ok n =>
        rcases Decimal.parse_eq_ok_iff.mp hParse with
          ⟨literal, hText, _⟩
        rw [hText] at hMem
        rw [literal.isDigit_of_mem_chars hMem hDigit] at hScript
        cases hScript

/-
  The least number is read from its literal, and a three in
  another script has no value.
-/
theorem leastDecimal_read :
    Decimal.parse "-922337203685477.5808" = .ok (-2 ^ 63) ∧
      ∃ error, Decimal.parse "٣.5" = .error error := by
  refine ⟨rfl, ?_⟩
  apply (decimals_accepted_if_representable "٣.5").2.2
  exact ⟨'٣', by decide, by decide, by decide⟩

end PolicyCheck
