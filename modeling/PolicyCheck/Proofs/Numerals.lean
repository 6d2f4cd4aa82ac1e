import Mathlib.Data.Nat.Digits.Lemmas
import PolicyCheck.Literal.Bounded
import PolicyCheck.Text.Digit

/-
  The numbers that ASCII digits write. Reading digits one by
  one gives the number of which they are the digits in base
  ten, however many there are and whatever they begin with.
  They are cut off a text where other characters follow.

  Main declarations:
    * `Text.IsNumeral`
    * `Text.numeral`
    * `Text.takeWhile_dropWhile_iff`
    * `Text.foldlM_digit?_eq_some_iff`
    * `Text.decimal?_eq_some_iff`
    * `Bounded.check?_eq_some_iff`
-/

namespace PolicyCheck

namespace Text

------------------------------------------------------------
-- Numerals
------------------------------------------------------------

/- One or more ASCII digits. -/
structure IsNumeral
    (cs : List Char) : Prop where
  ne_nil : cs ≠ []
  isDigit : ∀ c ∈ cs, c.isDigit = true

instance instDecidableIsNumeral
    (cs : List Char) : Decidable (IsNumeral cs) :=
  decidable_of_iff
    (cs ≠ [] ∧ cs.all Char.isDigit = true)
    ⟨fun h => ⟨h.1, List.all_eq_true.mp h.2⟩,
      fun h => ⟨h.ne_nil, List.all_eq_true.mpr h.isDigit⟩⟩

/- The number from zero to nine that a digit stands for. -/
def digitValue
    (c : Char) : Nat :=
  c.toNat - '0'.toNat

/- The number that has the digits, the most significant first. -/
def numeral
    (digits : List Char) : Nat :=
  Nat.ofDigits 10 (digits.map digitValue).reverse

/- A text with a minus in front, if there is one. -/
def signed
    (negative : Bool)
    (cs : List Char) : List Char :=
  if negative then '-' :: cs else cs

/- A minus is told apart from what it stands in front of. -/
theorem eq_signed_of_unsign
    {cs rest : List Char}
    {negative : Bool}
    (hUnsign : unsign cs = (negative, rest)) :
    cs = signed negative rest := by
  unfold unsign at hUnsign
  split at hUnsign
  · rcases Prod.mk.inj hUnsign with ⟨rfl, rfl⟩
    rfl
  · rcases Prod.mk.inj hUnsign with ⟨rfl, rfl⟩
    rfl

theorem unsign_signed
    {negative : Bool}
    {cs : List Char}
    (hHead : cs.head? ≠ some '-') :
    unsign (signed negative cs) = (negative, cs) := by
  cases negative with
  | true => rfl
  | false =>
      rw [signed, if_neg Bool.false_ne_true]
      unfold unsign
      split
      · simp at hHead
      · rfl

theorem signed_append
    (negative : Bool)
    (cs rest : List Char) :
    signed negative cs ++ rest = signed negative (cs ++ rest) := by
  cases negative with
  | true => rfl
  | false => rfl

theorem mem_signed
    {negative : Bool}
    {c : Char}
    {cs : List Char}
    (hMem : c ∈ signed negative cs) :
    c = '-' ∨ c ∈ cs := by
  cases negative with
  | true => exact List.mem_cons.mp hMem
  | false => exact Or.inr hMem

/- Digits stand for numbers below ten. -/
theorem digitValue_lt
    {c : Char}
    (hDigit : c.isDigit = true) :
    digitValue c < 10 := by
  have hRange := Bool.and_eq_true_iff.mp hDigit
  have hLast : c.toNat ≤ '9'.toNat := of_decide_eq_true hRange.2
  have hNine : '9'.toNat = '0'.toNat + 9 := rfl
  unfold digitValue
  omega

/- Only one digit stands for nothing. -/
theorem digitValue_pos
    {c : Char}
    (hDigit : c.isDigit = true)
    (hNonzero : c ≠ '0') :
    0 < digitValue c := by
  have hRange := Bool.and_eq_true_iff.mp hDigit
  have hFirst : '0'.toNat ≤ c.toNat := of_decide_eq_true hRange.1
  have hOther : c.toNat ≠ '0'.toNat := by
    intro hSame
    exact hNonzero (Char.toNat_inj.mp hSame)
  unfold digitValue
  omega

/- The first digit counts a power of ten, the others the rest. -/
theorem numeral_cons
    (c : Char)
    (cs : List Char) :
    numeral (c :: cs) =
      digitValue c * 10 ^ cs.length + numeral cs := by
  rw [numeral, List.map_cons, Nat.ofDigits_reverse_cons,
    List.length_map, numeral, Nat.mul_comm, Nat.add_comm]

/- A number has no more digits than are written. -/
theorem numeral_lt
    {cs : List Char}
    (hDigits : ∀ c ∈ cs, c.isDigit = true) :
    numeral cs < 10 ^ cs.length := by
  have hSmall : ∀ d ∈ (cs.map digitValue).reverse, d < 10 := by
    intro d hMem
    rcases List.mem_map.mp (List.mem_reverse.mp hMem) with
      ⟨c, hChar, rfl⟩
    exact digitValue_lt (hDigits c hChar)
  have hBound := Nat.ofDigits_lt_base_pow_length (by omega) hSmall
  rw [List.length_reverse, List.length_map] at hBound
  exact hBound

------------------------------------------------------------
-- Cutting
------------------------------------------------------------

/- A text does not begin with a character of a kind. -/
def Ends
    (p : Char → Bool)
    (rest : List Char) : Prop :=
  ∀ c ∈ rest.head?, p c = false

theorem ends_nil
    (p : Char → Bool) :
    Ends p [] := by
  simp [Ends]

theorem ends_cons_iff
    {p : Char → Bool}
    {c : Char}
    {cs : List Char} :
    Ends p (c :: cs) ↔ p c = false := by
  simp [Ends]

/- Characters of a kind are cut off where they end. -/
theorem takeWhile_dropWhile_iff
    {p : Char → Bool}
    {cs part rest : List Char} :
    cs.takeWhile p = part ∧ cs.dropWhile p = rest ↔
      cs = part ++ rest ∧ (∀ c ∈ part, p c = true) ∧ Ends p rest := by
  constructor
  · intro hCut
    rcases hCut with ⟨rfl, rfl⟩
    refine ⟨List.takeWhile_append_dropWhile.symm, ?_, ?_⟩
    · exact List.all_eq_true.mp List.all_takeWhile
    · intro c hHead
      have hStop := List.head?_dropWhile_not p cs
      rw [Option.mem_def.mp hHead] at hStop
      exact hStop
  · intro hParts
    rcases hParts with ⟨rfl, hPart, hEnds⟩
    rw [List.takeWhile_append_of_pos hPart,
      List.dropWhile_append_of_pos hPart]
    cases rest with
    | nil => exact ⟨List.append_nil part, rfl⟩
    | cons c rest =>
        have hStop : ¬ p c = true := by
          rw [ends_cons_iff.mp hEnds]
          exact Bool.false_ne_true
        rw [List.takeWhile_cons_of_neg hStop,
          List.dropWhile_cons_of_neg hStop, List.append_nil]
        exact ⟨rfl, rfl⟩

------------------------------------------------------------
-- Reading
------------------------------------------------------------

/-
  Digits of some base are read one by one, and reading on
  from a number moves it to the left.
-/
theorem foldlM_digit?_eq_some_iff
    (base : Nat)
    (digit? : Char → Option Nat)
    {cs : List Char}
    {start n : Nat} :
    cs.foldlM (fun m c => (digit? c).map (base * m + ·)) start =
        some n ↔
      (∀ c ∈ cs, (digit? c).isSome = true) ∧
        n = start * base ^ cs.length +
          Nat.ofDigits base
            (cs.map fun c => (digit? c).getD 0).reverse := by
  induction cs generalizing start with
  | nil =>
      rw [List.foldlM_nil]
      simpa using eq_comm
  | cons c cs ih =>
      rw [List.foldlM_cons]
      cases hDigit : digit? c with
      | some value =>
          have hSome : (digit? c).isSome = true := by
            rw [hDigit, Option.isSome_some]
          rw [Option.map_some, Option.bind_eq_bind, Option.bind_some, ih,
            List.forall_mem_cons, and_iff_right hSome, List.map_cons,
            Nat.ofDigits_reverse_cons, List.length_map,
            List.length_cons, hDigit, Option.getD_some]
          have hValue (rest : Nat) :
              (base * start + value) * base ^ cs.length + rest =
                start * base ^ (cs.length + 1) +
                  (rest + base ^ cs.length * value) := by
            ring
          rw [hValue]
      | none => simp [hDigit]

/-
  A text writes a number if all its characters are ASCII
  digits, and the number is the one with these digits.
-/
theorem decimal?_eq_some_iff
    {cs : List Char}
    {n : Nat} :
    decimal? cs = some n ↔
      (∀ c ∈ cs, c.isDigit = true) ∧ n = numeral cs := by
  have hDigit (c : Char) :
      (asciiDigit? c).isSome = true ↔ c.isDigit = true := by
    simp [asciiDigit?]
  rw [decimal?, foldlM_digit?_eq_some_iff, Nat.zero_mul, Nat.zero_add]
  simp only [hDigit]
  refine and_congr_right fun hDigits => ?_
  have hValues :
      (cs.map fun c => (asciiDigit? c).getD 0) = cs.map digitValue := by
    apply List.map_congr_left
    intro c hMem
    rw [asciiDigit?, if_pos (hDigits c hMem)]
    rfl
  rw [hValues, numeral]

end Text

------------------------------------------------------------
-- Bounds
------------------------------------------------------------

namespace Bounded

theorem fits_iff
    {n : Int} :
    fits n = true ↔ -2 ^ 63 ≤ n ∧ n ≤ 2 ^ 63 - 1 := by
  rw [fits, Bool.and_eq_true, decide_eq_true_iff, decide_eq_true_iff]
  rfl

/- An integer is kept if it fits. -/
theorem check?_eq_some_iff
    {m n : Int} :
    check? m = some n ↔ n = m ∧ fits m = true := by
  unfold check?
  split
  · simp [*, eq_comm]
  · simp [*]

end Bounded

end PolicyCheck
