import Mathlib.Logic.Function.Iterate
import Mathlib.Order.Monotone.Basic
import PolicyCheck.Literal.Datetime

/-
  The days of the calendar, one after the other. A date is
  valid if its month has such a day, and its number of days
  is how often one has to go on to the next day to reach it.

  Main declarations:
    * `Datetime.IsLeapYear`
    * `Datetime.Date.IsReal`
    * `Datetime.Date.tomorrow`
    * `Datetime.Date.IsDaysAfter`
    * `Datetime.Date.isValid_iff`
    * `Datetime.Date.daysFromZero_add_cycle`
    * `Datetime.Date.isDaysAfter_epoch_iff`
-/

namespace PolicyCheck

namespace Datetime

------------------------------------------------------------
-- The Calendar
------------------------------------------------------------

/-
  Every fourth year has a day more, but of the years that end
  a century only every fourth.
-/
def IsLeapYear
    (year : Nat) : Prop :=
  4 ∣ year ∧ (100 ∣ year → 400 ∣ year)

instance instDecidableIsLeapYear
    (year : Nat) : Decidable (IsLeapYear year) :=
  inferInstanceAs (Decidable (4 ∣ year ∧ (100 ∣ year → 400 ∣ year)))

/- The lengths of the months of a year. -/
def monthLengths
    (year : Nat) : List Nat :=
  [31, if IsLeapYear year then 29 else 28, 31, 30, 31, 30, 31, 31, 30,
    31, 30, 31]

namespace Date

/- The date is a day of one of the months of its year. -/
def IsReal
    (date : Date) : Prop :=
  1 ≤ date.month ∧ 1 ≤ date.day ∧
    date.day ≤ (monthLengths date.year).getD (date.month - 1) 0

instance instDecidableIsReal
    (date : Date) : Decidable date.IsReal :=
  inferInstanceAs (Decidable (_ ∧ _ ∧ _))

/-
  The next day of the month if there is one, otherwise the
  first of the next month if there is one, otherwise the
  first day of the next year.
-/
def tomorrow
    (date : Date) : Date :=
  if IsReal ⟨date.year, date.month, date.day + 1⟩ then
    ⟨date.year, date.month, date.day + 1⟩
  else if IsReal ⟨date.year, date.month + 1, 1⟩ then
    ⟨date.year, date.month + 1, 1⟩
  else
    ⟨date.year + 1, 1, 1⟩

/-
  A number of days leads from one date to another, forwards
  or, if it is negative, backwards.
-/
def IsDaysAfter
    (start date : Date)
    (n : Int) : Prop :=
  ∃ k : Nat,
    n = k ∧ tomorrow^[k] start = date ∨
      n = -k ∧ tomorrow^[k] date = start

------------------------------------------------------------
-- Months And Years
------------------------------------------------------------

theorem isLeap_iff
    {year : Nat} :
    isLeap year = true ↔ IsLeapYear year := by
  simp only [isLeap, IsLeapYear, Bool.and_eq_true, Bool.or_eq_true,
    decide_eq_true_iff]
  omega

/- The reader has the lengths of months as a function. -/
theorem monthLength_succ
    (year month : Nat) :
    monthLength year (month + 1) = (monthLengths year).getD month 0 := by
  rcases month with
    _ | _ | _ | _ | _ | _ | _ | _ | _ | _ | _ | _ | month
  case succ.zero => simp only [monthLength, isLeap_iff]; rfl
  all_goals rfl

theorem isReal_iff
    {year month day : Nat} :
    IsReal ⟨year, month, day⟩ ↔
      1 ≤ day ∧ day ≤ monthLength year month := by
  cases month with
  | zero =>
      have hNone : monthLength year 0 = 0 := rfl
      simp only [IsReal]
      omega
  | succ month =>
      rw [monthLength_succ]
      simp [IsReal]

theorem isValid_iff
    {date : Date} :
    date.isValid = true ↔ date.IsReal := by
  rw [isValid, Bool.and_eq_true, decide_eq_true_iff,
    decide_eq_true_iff]
  exact isReal_iff.symm

/- There are twelve months. -/
theorem monthLength_pos_iff
    {year month : Nat} :
    0 < monthLength year month ↔ 1 ≤ month ∧ month ≤ 12 := by
  rcases month with
    _ | _ | _ | _ | _ | _ | _ | _ | _ | _ | _ | _ | _ | month
  case succ.succ.zero =>
    cases hLeap : isLeap year <;> simp [monthLength, hLeap]
  all_goals simp [monthLength]

theorem daysBeforeMonth_thirteen
    (year : Nat) :
    daysBeforeMonth year 13 =
      if IsLeapYear year then 366 else 365 := by
  simp only [daysBeforeMonth, monthLength, isLeap_iff]
  split <;> rfl

/- One more multiple is counted after a year that is one. -/
theorem add_div_succ
    (year below k : Nat)
    (hNext : below + 1 = k) :
    (year + 1 + below) / k =
      (year + below) / k + if k ∣ year then 1 else 0 := by
  have hDvd : k ∣ year + below + 1 ↔ k ∣ year := by
    rw [Nat.add_assoc, hNext]
    exact Nat.dvd_add_self_right
  rw [Nat.add_right_comm, Nat.succ_div]
  simp only [hDvd]

/- The days of a year as multiples of four, of centuries and so on. -/
theorem yearLength_eq
    (year : Nat) :
    (if IsLeapYear year then 366 else 365) +
        (if 100 ∣ year then 1 else 0) =
      365 + (if 4 ∣ year then 1 else 0) +
        (if 400 ∣ year then 1 else 0) := by
  have hFour : 100 ∣ year → 4 ∣ year := Nat.dvd_trans (by decide)
  have hCentury : 400 ∣ year → 100 ∣ year := Nat.dvd_trans (by decide)
  by_cases hLeap : IsLeapYear year
  · rw [if_pos hLeap, if_pos hLeap.1]
    by_cases hBy100 : 100 ∣ year
    · rw [if_pos hBy100, if_pos (hLeap.2 hBy100)]
    · rw [if_neg hBy100, if_neg (hBy100 ∘ hCentury)]
  · rw [if_neg hLeap]
    by_cases hBy100 : 100 ∣ year
    · have hBy400 : ¬ 400 ∣ year := fun hBy400 =>
        hLeap ⟨hFour hBy100, fun _ => hBy400⟩
      rw [if_pos (hFour hBy100), if_pos hBy100, if_neg hBy400]
    · have hBy4 : ¬ 4 ∣ year := fun hBy4 =>
        hLeap ⟨hBy4, fun hOther => absurd hOther hBy100⟩
      rw [if_neg hBy4, if_neg hBy100, if_neg (hBy100 ∘ hCentury)]

/- A year is as long as all its months together. -/
theorem daysBeforeYear_succ
    (year : Nat) :
    daysBeforeYear (year + 1) =
      daysBeforeYear year + daysBeforeMonth year 13 := by
  have hLength := yearLength_eq year
  have hLe : (year + 99) / 100 ≤ 365 * year := by omega
  have hOne : (if 100 ∣ year then 1 else 0) ≤ 1 := by split <;> omega
  rw [daysBeforeMonth_thirteen, daysBeforeYear, daysBeforeYear,
    add_div_succ year 3 4 rfl, add_div_succ year 99 100 rfl,
    add_div_succ year 399 400 rfl]
  -- without the quotients there is nothing left to divide
  generalize (year + 3) / 4 = fours
  generalize (year + 99) / 100 = centuries at *
  generalize (year + 399) / 400 = cycles
  omega

theorem daysBeforeYear_mono :
    Monotone daysBeforeYear := by
  apply monotone_nat_of_le_succ
  intro year
  rw [daysBeforeYear_succ]
  exact Nat.le_add_right _ _

theorem daysBeforeMonth_mono
    (year : Nat) :
    Monotone (daysBeforeMonth year) :=
  monotone_nat_of_le_succ fun _ => Nat.le_add_right _ _

/- The months are as long as they were 400 years before. -/
theorem daysBeforeMonth_add_cycle
    (year month : Nat) :
    daysBeforeMonth (year + 400) month = daysBeforeMonth year month := by
  have hLength :
      ∀ n, monthLength (year + 400) n = monthLength year n := by
    have hLeap : isLeap (year + 400) = isLeap year := by
      rw [Bool.eq_iff_iff, isLeap_iff, isLeap_iff, IsLeapYear, IsLeapYear]
      omega
    intro n
    simp only [monthLength, hLeap]
  induction month with
  | zero => rfl
  | succ month ih => rw [daysBeforeMonth, daysBeforeMonth, ih, hLength]

/- So a date is a cycle after the one 400 years before. -/
theorem daysFromZero_add_cycle
    (year month day : Nat) :
    daysFromZero ⟨year + 400, month, day⟩ =
      daysFromZero ⟨year, month, day⟩ + cycleLength := by
  have hYears :
      daysBeforeYear (year + 400) = daysBeforeYear year + cycleLength := by
    simp only [cycleLength, daysBeforeYear]
    omega
  simp only [daysFromZero, daysBeforeMonth_add_cycle, hYears]
  omega

/- A day is counted before the year is over. -/
theorem daysFromZero_lt
    {date : Date}
    (hReal : date.IsReal) :
    date.daysFromZero < daysBeforeYear (date.year + 1) := by
  have hDay := isReal_iff.mp hReal
  have hMonth :=
    monthLength_pos_iff.mp (Nat.lt_of_lt_of_le hDay.1 hDay.2)
  have hMonths : date.month + 1 ≤ 13 := by omega
  have hYear := daysBeforeMonth_mono date.year hMonths
  rw [daysBeforeMonth] at hYear
  rw [daysBeforeYear_succ, daysFromZero]
  omega

------------------------------------------------------------
-- Going On
------------------------------------------------------------

/- What a day is followed by. -/
theorem tomorrow_cases
    {date : Date}
    (hReal : date.IsReal) :
    date.day < monthLength date.year date.month ∧
        date.tomorrow = ⟨date.year, date.month, date.day + 1⟩ ∨
      date.day = monthLength date.year date.month ∧
        (date.month < 12 ∧
            date.tomorrow = ⟨date.year, date.month + 1, 1⟩ ∨
          date.month = 12 ∧ date.tomorrow = ⟨date.year + 1, 1, 1⟩) := by
  have hDay := isReal_iff.mp hReal
  have hMonth :=
    monthLength_pos_iff.mp (Nat.lt_of_lt_of_le hDay.1 hDay.2)
  unfold tomorrow
  simp only [isReal_iff]
  by_cases hLast : date.day = monthLength date.year date.month
  · right
    refine ⟨hLast, ?_⟩
    rw [if_neg (by omega)]
    by_cases hDecember : date.month = 12
    · right
      have hNone : ¬ 0 < monthLength date.year (date.month + 1) := by
        rw [monthLength_pos_iff]
        omega
      rw [if_neg (by omega)]
      exact ⟨hDecember, rfl⟩
    · left
      have hNext : 0 < monthLength date.year (date.month + 1) := by
        rw [monthLength_pos_iff]
        omega
      rw [if_pos (by omega)]
      exact ⟨by omega, rfl⟩
  · left
    rw [if_pos (by omega)]
    exact ⟨by omega, rfl⟩

theorem isReal_tomorrow
    {date : Date}
    (hReal : date.IsReal) :
    date.tomorrow.IsReal := by
  rcases tomorrow_cases hReal with
    ⟨hDay, hNext⟩ | ⟨_, ⟨hMonth, hNext⟩ | ⟨_, hNext⟩⟩
  · rw [hNext, isReal_iff]
    omega
  · have hPos : 0 < monthLength date.year (date.month + 1) := by
      rw [monthLength_pos_iff]
      omega
    rw [hNext, isReal_iff]
    omega
  · rw [hNext, isReal_iff]
    exact ⟨Nat.le_refl 1, monthLength_pos_iff.mpr (by omega)⟩

/- The next day is one day later. -/
theorem daysFromZero_tomorrow
    {date : Date}
    (hReal : date.IsReal) :
    date.tomorrow.daysFromZero = date.daysFromZero + 1 := by
  have hDay := isReal_iff.mp hReal
  rcases tomorrow_cases hReal with
    ⟨_, hNext⟩ | ⟨hLast, ⟨_, hNext⟩ | ⟨hDecember, hNext⟩⟩
  · rw [hNext]
    simp only [daysFromZero]
    omega
  · rw [hNext]
    simp only [daysFromZero, daysBeforeMonth]
    omega
  · rw [hNext]
    have hYear := daysBeforeYear_succ date.year
    have hStart : daysBeforeMonth (date.year + 1) 1 = 0 := rfl
    have hEnd :
        daysBeforeMonth date.year 13 =
          daysBeforeMonth date.year 12 + monthLength date.year 12 :=
      rfl
    rw [hDecember] at hLast
    simp only [daysFromZero, hDecember]
    omega

/- Every day but the first follows another. -/
theorem exists_tomorrow_eq
    {date : Date}
    (hReal : date.IsReal)
    (hLater : date ≠ ⟨0, 1, 1⟩) :
    ∃ other : Date, other.IsReal ∧ other.tomorrow = date := by
  rcases date with ⟨year, month, day⟩
  have hDay := isReal_iff.mp hReal
  have hMonth :=
    monthLength_pos_iff.mp (Nat.lt_of_lt_of_le hDay.1 hDay.2)
  by_cases hFirst : day = 1
  · by_cases hJanuary : month = 1
    · -- the last of December
      rcases year with _ | year
      · exact absurd (by rw [hFirst, hJanuary]) hLater
      · have hOther : IsReal ⟨year, 12, 31⟩ :=
          isReal_iff.mpr ⟨by omega, Nat.le_refl 31⟩
        refine ⟨_, hOther, ?_⟩
        rcases tomorrow_cases hOther with
          ⟨hLt, _⟩ | ⟨_, ⟨hLt, _⟩ | ⟨_, hNext⟩⟩
        · exact absurd hLt (Nat.lt_irrefl 31)
        · exact absurd hLt (Nat.lt_irrefl 12)
        · rw [hNext, hFirst, hJanuary]
    · -- the last of the month before
      rcases month with _ | month
      · omega
      · have hPos : 0 < monthLength year month :=
          monthLength_pos_iff.mpr (by omega)
        have hOther : IsReal ⟨year, month, monthLength year month⟩ :=
          isReal_iff.mpr ⟨hPos, Nat.le_refl _⟩
        refine ⟨_, hOther, ?_⟩
        rcases tomorrow_cases hOther with
          ⟨hLt, _⟩ | ⟨_, ⟨_, hNext⟩ | ⟨hLast, _⟩⟩
        · exact absurd hLt (Nat.lt_irrefl _)
        · rw [hNext, hFirst]
        · dsimp only at hLast
          omega
  · -- the day before in the same month
    rcases day with _ | day
    · omega
    · have hOther : IsReal ⟨year, month, day⟩ :=
        isReal_iff.mpr (by omega)
      refine ⟨_, hOther, ?_⟩
      rcases tomorrow_cases hOther with ⟨_, hNext⟩ | ⟨hLast, _⟩
      · exact hNext
      · dsimp only at hLast
        omega

------------------------------------------------------------
-- Numbers Of Days
------------------------------------------------------------

theorem isReal_iterate
    {date : Date}
    (hReal : date.IsReal)
    (k : Nat) :
    (tomorrow^[k] date).IsReal := by
  induction k with
  | zero => exact hReal
  | succ k ih =>
      rw [Function.iterate_succ_apply']
      exact isReal_tomorrow ih

theorem daysFromZero_iterate
    {date : Date}
    (hReal : date.IsReal)
    (k : Nat) :
    (tomorrow^[k] date).daysFromZero = date.daysFromZero + k := by
  induction k with
  | zero => rfl
  | succ k ih =>
      rw [Function.iterate_succ_apply',
        daysFromZero_tomorrow (isReal_iterate hReal k), ih]
      omega

/- A day is reached after as many days as it is counted. -/
theorem iterate_daysFromZero
    {date : Date}
    (hReal : date.IsReal) :
    tomorrow^[date.daysFromZero] ⟨0, 1, 1⟩ = date := by
  generalize hCount : date.daysFromZero = count
  induction count generalizing date with
  | zero =>
      apply Decidable.byContradiction
      intro hOther
      rcases exists_tomorrow_eq hReal (Ne.symm hOther) with
        ⟨other, hBefore, rfl⟩
      rw [daysFromZero_tomorrow hBefore] at hCount
      omega
  | succ count ih =>
      have hLater : date ≠ ⟨0, 1, 1⟩ := by
        intro hFirst
        rw [hFirst] at hCount
        cases hCount
      rcases exists_tomorrow_eq hReal hLater with
        ⟨other, hBefore, rfl⟩
      rw [daysFromZero_tomorrow hBefore] at hCount
      rw [Function.iterate_succ_apply', ih hBefore (by omega)]

/- So two days are as far apart as their counts. -/
theorem iterate_tomorrow_eq_iff
    {start date : Date}
    (hStart : start.IsReal)
    (hReal : date.IsReal)
    {k : Nat} :
    tomorrow^[k] start = date ↔
      date.daysFromZero = start.daysFromZero + k := by
  constructor
  · intro hReached
    rw [← hReached, daysFromZero_iterate hStart]
  · intro hCount
    rw [← iterate_daysFromZero hStart, ← Function.iterate_add_apply,
      Nat.add_comm, ← hCount, iterate_daysFromZero hReal]

/- The first day of 1970. -/
def epoch : Date :=
  ⟨1970, 1, 1⟩

theorem isReal_epoch :
    epoch.IsReal := by
  decide

/- The number of days that is computed is the one that is counted. -/
theorem isDaysAfter_epoch_iff
    {date : Date}
    (hReal : date.IsReal)
    {n : Int} :
    IsDaysAfter epoch date n ↔ n = date.days := by
  unfold IsDaysAfter
  simp only [iterate_tomorrow_eq_iff isReal_epoch hReal,
    iterate_tomorrow_eq_iff hReal isReal_epoch]
  have hDays :
      date.days =
        (date.daysFromZero : Int) - (epoch.daysFromZero : Int) :=
    rfl
  rw [hDays]
  constructor
  · intro hCount
    rcases hCount with ⟨k, ⟨rfl, hCount⟩ | ⟨rfl, hCount⟩⟩
    · omega
    · omega
  · intro hCount
    rcases Nat.le_total epoch.daysFromZero date.daysFromZero with
      hLater | hEarlier
    · exact
        ⟨date.daysFromZero - epoch.daysFromZero,
          Or.inl (by omega)⟩
    · exact
        ⟨epoch.daysFromZero - date.daysFromZero,
          Or.inr (by omega)⟩

end Date

end Datetime

end PolicyCheck
