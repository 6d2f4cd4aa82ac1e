import PolicyCheck.Text.Digit

/-
  This file reads datetime literals: a date, optionally
  followed by a time of day, milliseconds, and either `Z`
  or the offset of the local time. The value is the number
  of milliseconds since the start of 1970, UTC.

  Key definitions include:
    * `Datetime.Date`
    * `Datetime.Date.days`
    * `Datetime.Clock`
    * `Datetime.earliest`
    * `Datetime.latest`
    * `Datetime.parse`
-/

namespace PolicyCheck

namespace Datetime

------------------------------------------------------------
-- Errors
------------------------------------------------------------

/- Why a text is no datetime literal. -/
inductive Error where
  | malformed
  | invalidDate
  | invalidOffset
  | invalidTime
  | outOfRange
deriving DecidableEq, Repr

/- An error as it is reported for a text. -/
def Error.message
    (text : String) : Error → String
  | .malformed => "`" ++ text ++ "` is not a well-formed datetime value"
  | .invalidDate => "`" ++ text ++ "` does not name a valid date"
  | .invalidOffset => "`" ++ text ++ "` has an invalid UTC offset"
  | .invalidTime => "`" ++ text ++ "` does not name a valid time of day"
  | .outOfRange => "`" ++ text ++ "` is out of range"

------------------------------------------------------------
-- Dates
------------------------------------------------------------

/-
  A date of the Gregorian calendar, not necessarily valid.
  Its rules also hold for the years before it was in use, of
  which the first is year zero.
-/
structure Date where
  year : Nat
  month : Nat
  day : Nat
deriving DecidableEq, Repr

/- A year has a twenty-ninth of February. -/
def isLeap
    (year : Nat) : Bool :=
  year % 4 = 0 && (year % 100 ≠ 0 || year % 400 = 0)

/- The number of days of a month, zero if there is no such month. -/
def monthLength
    (year : Nat) : Nat → Nat
  | 1 => 31
  | 2 => if isLeap year then 29 else 28
  | 3 => 31
  | 4 => 30
  | 5 => 31
  | 6 => 30
  | 7 => 31
  | 8 => 31
  | 9 => 30
  | 10 => 31
  | 11 => 30
  | 12 => 31
  | _ => 0

namespace Date

/- The date is in the calendar. -/
def isValid
    (date : Date) : Bool :=
  1 ≤ date.day && date.day ≤ monthLength date.year date.month

/- The number of days of all years before a year, from year zero on. -/
def daysBeforeYear
    (year : Nat) : Nat :=
  365 * year + (year + 3) / 4 - (year + 99) / 100 + (year + 399) / 400

/-
  The number of days of 400 years. Every 400 years the same
  years are leap years.
-/
def cycleLength : Nat :=
  daysBeforeYear 400

/- The number of days of a year before a month. -/
def daysBeforeMonth
    (year : Nat) : Nat → Nat
  | 0 => 0
  | month + 1 => daysBeforeMonth year month + monthLength year month

/- The number of days from the start of year zero to a date. -/
def daysFromZero
    (date : Date) : Nat :=
  daysBeforeYear date.year + daysBeforeMonth date.year date.month +
    (date.day - 1)

/- The number of days from the first day of 1970 to a date. -/
def days
    (date : Date) : Int :=
  (date.daysFromZero : Int) - (Date.daysFromZero ⟨1970, 1, 1⟩ : Int)

end Date

------------------------------------------------------------
-- Times Of Day
------------------------------------------------------------

/- A time of day, not necessarily valid. -/
structure Clock where
  hour : Nat
  minute : Nat
  second : Nat
  millisecond : Nat
deriving DecidableEq, Repr

namespace Clock

/- The start of the day. -/
def midnight : Clock :=
  ⟨0, 0, 0, 0⟩

/- The time is on the clock. -/
def isValid
    (clock : Clock) : Bool :=
  clock.hour < 24 && clock.minute < 60 && clock.second < 60 &&
    clock.millisecond < 1000

/- The number of milliseconds since the start of the day. -/
def milliseconds
    (clock : Clock) : Int :=
  ((clock.hour * 3600 + clock.minute * 60 + clock.second) * 1000 +
    clock.millisecond : Nat)

end Clock

------------------------------------------------------------
-- Reading
------------------------------------------------------------

/- A number, unless a character is no digit. -/
def number
    (cs : List Char) : Except Error Nat :=
  match Text.decimal? cs with
  | some n => .ok n
  | none => .error .malformed

/-
  The milliseconds at the head of a text, and what follows
  them. Without a point and three characters there are none.
-/
def readMilliseconds
    (cs : List Char) : Except Error (Nat × List Char) :=
  match cs with
  | '.' :: a :: b :: c :: rest => do
      let n ← number [a, b, c]
      .ok (n, rest)
  | rest => .ok (0, rest)

/- The seconds by which a local time is ahead of UTC. -/
def readOffset
    (cs : List Char) : Except Error Int :=
  match cs with
  | ['Z'] => .ok 0
  | [sign, a, b, c, d] =>
      if sign = '+' ∨ sign = '-' then do
        let hours ← number [a, b]
        let minutes ← number [c, d]
        if 24 ≤ hours ∨ 60 ≤ minutes then
          .error .invalidOffset
        else
          let seconds : Int := (hours * 3600 + minutes * 60 : Nat)
          .ok (if sign = '+' then seconds else -seconds)
      else
        .error .malformed
  | _ => .error .malformed

/-
  The time of day and the offset of what follows a date.
  The offset is judged before the time of day.
-/
def readTime
    (cs : List Char) : Except Error (Clock × Int) :=
  match cs with
  | [] => .ok (.midnight, 0)
  | 'T' :: h :: i :: ':' :: m :: n :: ':' :: s :: t :: rest => do
      let (millisecond, rest) ← readMilliseconds rest
      let offset ← readOffset rest
      let hour ← number [h, i]
      let minute ← number [m, n]
      let second ← number [s, t]
      let clock : Clock := ⟨hour, minute, second, millisecond⟩
      if clock.isValid then .ok (clock, offset)
      else .error .invalidTime
  | _ => .error .malformed

/-
  The first millisecond that is counted: the start of the
  year -262143, which is 656 times 400 years before 257.
-/
def earliest : Int :=
  (Date.days ⟨257, 1, 1⟩ - 656 * Date.cycleLength) * 86400000

/-
  The last millisecond that is counted: the end of the year
  262142.
-/
def latest : Int :=
  Date.days ⟨262143, 1, 1⟩ * 86400000 - 1

/- A number of milliseconds, unless it is before or after that. -/
def inRange
    (n : Int) : Except Error Int :=
  if earliest ≤ n && n ≤ latest then .ok n else .error .outOfRange

/- The greatest number of characters of a literal. -/
def maxLength : Nat :=
  28

/- The number of milliseconds that a literal writes. -/
def parse
    (text : String) : Except Error Int :=
  if maxLength < text.toList.length then .error .malformed
  else
    match text.toList with
    | a :: b :: c :: d :: '-' :: e :: f :: '-' :: g :: h :: rest => do
        let year ← number [a, b, c, d]
        let month ← number [e, f]
        let day ← number [g, h]
        let date : Date := ⟨year, month, day⟩
        if date.isValid then do
          let (clock, offset) ← readTime rest
          inRange
            (date.days * 86400000 + clock.milliseconds - offset * 1000)
        else
          .error .invalidDate
    | _ => .error .malformed

end Datetime

end PolicyCheck
