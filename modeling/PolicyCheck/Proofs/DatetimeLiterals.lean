import PolicyCheck.Proofs.Calendar
import PolicyCheck.Proofs.Numerals

/-
  Which texts are datetime literals, and which instants they
  name. All fields have fixed widths, so the parts of a text
  are found by their places; only the milliseconds can be
  left out, and what follows them begins with none of their
  characters.

  Main declarations:
    * `Datetime.Field`
    * `Datetime.Literal`
    * `Datetime.Literal.IsInstant`
    * `Datetime.readOffset_cases`
    * `Datetime.readTime_cases`
    * `Datetime.Literal.inRange_instant`
    * `Datetime.parse_eq_ok_iff`
    * `datetimes_accepted_if_real`
-/

namespace PolicyCheck

namespace Datetime

------------------------------------------------------------
-- Literals
------------------------------------------------------------

/- A number that is written with so many ASCII digits. -/
structure Field
    (width : Nat) where
  chars : List Char
  isDigit : ∀ c ∈ chars, c.isDigit = true
  length_chars : chars.length = width

/- The number of a field. -/
def Field.value
    {width : Nat}
    (field : Field width) : Nat :=
  Text.numeral field.chars

/- What a literal says about its distance from UTC. -/
inductive Zone where
  | utc
  | offset
      (ahead : Bool)
      (hours minutes : Field 2)
      (hHours : hours.value < 24)
      (hMinutes : minutes.value < 60)

namespace Zone

/- `Z`, or a sign with hours and minutes. -/
def chars : Zone → List Char
  | .utc => ['Z']
  | .offset ahead hours minutes _ _ =>
      (if ahead then '+' else '-') :: (hours.chars ++ minutes.chars)

/- The number of minutes by which the literal is ahead. -/
def minutes : Zone → Int
  | .utc => 0
  | .offset ahead hours minutes _ _ =>
      let distance : Int := hours.value * 60 + minutes.value
      if ahead then distance else -distance

end Zone

/-
  The part of a literal that follows the date. The fraction
  of a second can be left out.
-/
structure Time where
  hour : Field 2
  minute : Field 2
  second : Field 2
  fraction : Option (Field 3)
  zone : Zone
  hour_lt : hour.value < 24
  minute_lt : minute.value < 60
  second_lt : second.value < 60

/- A point and milliseconds, if there are any. -/
def fractionChars : Option (Field 3) → List Char
  | none => []
  | some field => '.' :: field.chars

/- The number of milliseconds, zero if there are none. -/
def fractionValue : Option (Field 3) → Nat
  | none => 0
  | some field => field.value

namespace Time

/- The characters from the `T` on. -/
def chars
    (time : Time) : List Char :=
  'T' :: (time.hour.chars ++
    ':' :: (time.minute.chars ++
      ':' :: (time.second.chars ++
        (fractionChars time.fraction ++ time.zone.chars))))

/- The number of milliseconds since the start of the day in UTC. -/
def milliseconds
    (time : Time) : Int :=
  (((time.hour.value : Int) * 60 + time.minute.value -
      time.zone.minutes) * 60 +
    time.second.value) * 1000 +
    fractionValue time.fraction

end Time

/-
  The parts of a datetime literal. The date is one of the
  calendar, and the time can be left out.
-/
structure Literal where
  year : Field 4
  month : Field 2
  day : Field 2
  time : Option Time
  isReal : Date.IsReal ⟨year.value, month.value, day.value⟩

namespace Literal

/- The date of a literal. -/
def date
    (literal : Literal) : Date :=
  ⟨literal.year.value, literal.month.value, literal.day.value⟩

/- The characters of a literal. -/
def chars
    (literal : Literal) : List Char :=
  literal.year.chars ++
    '-' :: (literal.month.chars ++
      '-' :: (literal.day.chars ++
        (literal.time.map Time.chars).getD []))

/-
  The instant that a literal names, in milliseconds from the
  start of 1970: all days from one date to the other, and the
  time of day in UTC.
-/
def IsInstant
    (literal : Literal)
    (n : Int) : Prop :=
  ∃ days : Int,
    Date.IsDaysAfter Date.epoch literal.date days ∧
      n = days * (24 * 60 * 60 * 1000) +
        (literal.time.map Time.milliseconds).getD 0

end Literal

------------------------------------------------------------
-- Fields
------------------------------------------------------------

/- A text is refused, and for another reason than its range. -/
def Refused
    {α : Type}
    (result : Except Error α) : Prop :=
  ∃ error, result = .error error ∧ error ≠ .outOfRange

/- What goes wrong first is what is reported. -/
theorem Refused.bind
    {α β : Type}
    {first : Except Error α}
    (hRefused : Refused first)
    (next : α → Except Error β) :
    Refused (first >>= next) := by
  rcases hRefused with ⟨error, rfl, hOther⟩
  exact ⟨error, rfl, hOther⟩

theorem Refused.bind_ok
    {α β : Type}
    {first : Except Error α}
    {next : α → Except Error β}
    {value : α}
    (hOk : first = .ok value)
    (hRefused : Refused (next value)) :
    Refused (first >>= next) := by
  rw [hOk]
  exact hRefused

theorem number_chars
    {width : Nat}
    (field : Field width) :
    number field.chars = .ok field.value := by
  have hRead : Text.decimal? field.chars = some field.value :=
    Text.decimal?_eq_some_iff.mpr ⟨field.isDigit, rfl⟩
  rw [number, hRead]

/- Characters that are no field of their number are refused. -/
theorem number_cases
    (width : Nat)
    {cs : List Char}
    (hLength : cs.length = width) :
    Refused (number cs) ∨
      ∃ field : Field width,
        cs = field.chars ∧ number cs = .ok field.value := by
  by_cases hDigits : ∀ c ∈ cs, c.isDigit = true
  · exact
      Or.inr
        ⟨⟨cs, hDigits, hLength⟩, rfl, number_chars ⟨cs, hDigits, hLength⟩⟩
  · left
    have hNone : Text.decimal? cs = none := by
      rw [Option.eq_none_iff_forall_ne_some]
      intro n hRead
      exact hDigits (Text.decimal?_eq_some_iff.mp hRead).1
    exact ⟨.malformed, by rw [number, hNone], by decide⟩

theorem Field.exists_two
    (field : Field 2) :
    ∃ a b, field.chars = [a, b] :=
  List.length_eq_two.mp field.length_chars

theorem Field.exists_three
    (field : Field 3) :
    ∃ a b c, field.chars = [a, b, c] :=
  List.length_eq_three.mp field.length_chars

theorem Field.exists_four
    (field : Field 4) :
    ∃ a b c d, field.chars = [a, b, c, d] := by
  rcases field with ⟨chars, _, hLength⟩
  rcases chars with _ | ⟨a, rest⟩
  · cases hLength
  · have hRest : rest.length = 3 := Nat.succ.inj hLength
    rcases List.length_eq_three.mp hRest with ⟨b, c, d, rfl⟩
    exact ⟨a, b, c, d, rfl⟩

theorem Field.value_lt
    {width : Nat}
    (field : Field width) :
    field.value < 10 ^ width := by
  have hBound := Text.numeral_lt field.isDigit
  rw [field.length_chars] at hBound
  exact hBound

------------------------------------------------------------
-- Times
------------------------------------------------------------

/- The seconds of an offset are the minutes that are written. -/
theorem Zone.offset_seconds
    (ahead : Bool)
    (hours minutes : Field 2)
    (hHours : hours.value < 24)
    (hMinutes : minutes.value < 60) :
    (if ahead then
        ((hours.value * 3600 + minutes.value * 60 : Nat) : Int)
      else
        -((hours.value * 3600 + minutes.value * 60 : Nat) : Int)) =
      (Zone.offset ahead hours minutes hHours hMinutes).minutes * 60 := by
  unfold Zone.minutes
  cases ahead with
  | true =>
      simp only [if_true]
      omega
  | false =>
      simp only [Bool.false_eq_true, if_false]
      omega

/- A sign with two numbers is an offset if they are in range. -/
theorem readOffset_digits
    (ahead : Bool)
    {a b c d : Char}
    {hours minutes : Nat}
    (hHours : number [a, b] = .ok hours)
    (hMinutes : number [c, d] = .ok minutes) :
    readOffset [if ahead then '+' else '-', a, b, c, d] =
      if 24 ≤ hours ∨ 60 ≤ minutes then .error .invalidOffset
      else
        .ok (if ahead then (hours * 3600 + minutes * 60 : Nat)
          else -(hours * 3600 + minutes * 60 : Nat)) := by
  cases ahead with
  | true =>
      simp only [readOffset, hHours, hMinutes]
      rfl
  | false =>
      simp only [readOffset, hHours, hMinutes]
      rfl

theorem readOffset_chars
    (zone : Zone) :
    readOffset zone.chars = .ok (zone.minutes * 60) := by
  cases zone with
  | utc => rfl
  | offset ahead hours minutes hHours hMinutes =>
      rcases hours.exists_two with ⟨a, b, hHourChars⟩
      rcases minutes.exists_two with ⟨c, d, hMinuteChars⟩
      have hHour := number_chars hours
      have hMinute := number_chars minutes
      have hRange : ¬ (24 ≤ hours.value ∨ 60 ≤ minutes.value) := by
        omega
      rw [hHourChars] at hHour
      rw [hMinuteChars] at hMinute
      rw [Zone.chars, hHourChars, hMinuteChars,
        ← Zone.offset_seconds ahead hours minutes hHours hMinutes]
      exact
        (readOffset_digits ahead hHour hMinute).trans (if_neg hRange)

/- A text that is no offset from end to end is refused. -/
theorem readOffset_cases
    (cs : List Char) :
    Refused (readOffset cs) ∨ ∃ zone : Zone, cs = zone.chars := by
  unfold readOffset
  split
  · exact Or.inr ⟨.utc, rfl⟩
  · rename_i sign a b c d
    by_cases hSign : sign = '+' ∨ sign = '-'
    · rw [if_pos hSign]
      rcases number_cases 2 (rfl : [a, b].length = 2) with
        hBad | ⟨hours, hHours, hHour⟩
      · exact Or.inl (hBad.bind _)
      rcases number_cases 2 (rfl : [c, d].length = 2) with
        hBad | ⟨minutes, hMinutes, hMinute⟩
      · exact Or.inl (.bind_ok hHour (hBad.bind _))
      by_cases hRange : 24 ≤ hours.value ∨ 60 ≤ minutes.value
      · left
        refine .bind_ok hHour (.bind_ok hMinute ?_)
        exact ⟨.invalidOffset, if_pos hRange, by decide⟩
      · right
        have hText : [a, b, c, d] = hours.chars ++ minutes.chars := by
          rw [← hHours, ← hMinutes]
          rfl
        rw [hText]
        rcases hSign with rfl | rfl
        · exact
            ⟨.offset true hours minutes (by omega) (by omega), rfl⟩
        · exact
            ⟨.offset false hours minutes (by omega) (by omega), rfl⟩
    · rw [if_neg hSign]
      exact Or.inl ⟨.malformed, rfl, by decide⟩
  · exact Or.inl ⟨.malformed, rfl, by decide⟩

/- What is written after the seconds does not begin with a point. -/
theorem Zone.head?_chars_ne
    (zone : Zone) :
    zone.chars.head? ≠ some '.' := by
  cases zone with
  | utc => decide
  | offset ahead hours minutes hHours hMinutes =>
      cases ahead with
      | true => simp [Zone.chars]
      | false => simp [Zone.chars]

/- Milliseconds are taken from the text in front of what follows. -/
theorem readMilliseconds_cases
    (cs : List Char) :
    Refused (readMilliseconds cs) ∨
      ∃ fraction rest,
        cs = fractionChars fraction ++ rest ∧
          readMilliseconds cs = .ok (fractionValue fraction, rest) := by
  unfold readMilliseconds
  split
  · rename_i a b c rest
    rcases number_cases 3 (rfl : [a, b, c].length = 3) with
      hBad | ⟨field, hField, hNumber⟩
    · exact Or.inl (hBad.bind _)
    · refine Or.inr ⟨some field, rest, ?_, ?_⟩
      · rw [fractionChars, ← hField]
        rfl
      · rw [hNumber]
        rfl
  · exact Or.inr ⟨none, cs, rfl, rfl⟩

theorem readMilliseconds_append
    (fraction : Option (Field 3))
    {rest : List Char}
    (hRest : rest.head? ≠ some '.') :
    readMilliseconds (fractionChars fraction ++ rest) =
      .ok (fractionValue fraction, rest) := by
  cases fraction with
  | none =>
      change readMilliseconds rest = _
      unfold readMilliseconds
      split
      · simp at hRest
      · rfl
  | some field =>
      rcases field.exists_three with ⟨a, b, c, hChars⟩
      have hNumber := number_chars field
      rw [hChars] at hNumber
      rw [fractionChars, hChars]
      change (number [a, b, c] >>= fun n => .ok (n, rest)) = _
      rw [hNumber]
      rfl

/- The time of day of a literal, as it is read. -/
def Time.clock
    (time : Time) : Clock :=
  ⟨time.hour.value, time.minute.value, time.second.value,
    fractionValue time.fraction⟩

theorem Clock.isValid_iff
    {clock : Clock} :
    clock.isValid = true ↔
      clock.hour < 24 ∧ clock.minute < 60 ∧ clock.second < 60 ∧
        clock.millisecond < 1000 := by
  simp only [Clock.isValid, Bool.and_eq_true, decide_eq_true_iff,
    and_assoc]

/- Three digits are fewer than a thousand milliseconds. -/
theorem fractionValue_lt
    (fraction : Option (Field 3)) :
    fractionValue fraction < 1000 := by
  cases fraction with
  | none => exact Nat.succ_pos 999
  | some field => exact field.value_lt

/- All times of literals are on the clock. -/
theorem Time.isValid_clock
    (time : Time) :
    time.clock.isValid = true :=
  Clock.isValid_iff.mpr
    ⟨time.hour_lt, time.minute_lt, time.second_lt,
      fractionValue_lt time.fraction⟩

theorem readTime_chars
    (time : Time) :
    readTime time.chars = .ok (time.clock, time.zone.minutes * 60) := by
  rcases time.hour.exists_two with ⟨h, i, hHourChars⟩
  rcases time.minute.exists_two with ⟨m, n, hMinuteChars⟩
  rcases time.second.exists_two with ⟨s, t, hSecondChars⟩
  have hHour := number_chars time.hour
  have hMinute := number_chars time.minute
  have hSecond := number_chars time.second
  have hMillis :=
    readMilliseconds_append time.fraction time.zone.head?_chars_ne
  rw [hHourChars] at hHour
  rw [hMinuteChars] at hMinute
  rw [hSecondChars] at hSecond
  rw [Time.chars, hHourChars, hMinuteChars, hSecondChars]
  simp only [readTime, List.cons_append, List.nil_append, hMillis,
    hHour, hMinute, hSecond]
  change
    (readOffset time.zone.chars >>= fun offset =>
      if time.clock.isValid then .ok (time.clock, offset)
      else .error .invalidTime) = _
  rw [readOffset_chars]
  exact if_pos time.isValid_clock

/- What follows a date is refused unless it is empty or a time. -/
theorem readTime_cases
    (cs : List Char) :
    Refused (readTime cs) ∨
      ∃ time : Option Time, cs = (time.map Time.chars).getD [] := by
  unfold readTime
  split
  · exact Or.inr ⟨none, rfl⟩
  · rename_i h i m n s t rest
    rcases readMilliseconds_cases rest with
      hBad | ⟨fraction, tail, rfl, hMillis⟩
    · exact Or.inl (hBad.bind _)
    rcases readOffset_cases tail with hBad | ⟨zone, rfl⟩
    · exact Or.inl (.bind_ok hMillis (hBad.bind _))
    have hOffset := readOffset_chars zone
    rcases number_cases 2 (rfl : [h, i].length = 2) with
      hBad | ⟨hour, hHourChars, hHour⟩
    · exact Or.inl (.bind_ok hMillis (.bind_ok hOffset (hBad.bind _)))
    rcases number_cases 2 (rfl : [m, n].length = 2) with
      hBad | ⟨minute, hMinuteChars, hMinute⟩
    · left
      refine .bind_ok hMillis (.bind_ok hOffset (.bind_ok hHour ?_))
      exact hBad.bind _
    rcases number_cases 2 (rfl : [s, t].length = 2) with
      hBad | ⟨second, hSecondChars, hSecond⟩
    · left
      refine .bind_ok hMillis (.bind_ok hOffset (.bind_ok hHour ?_))
      exact .bind_ok hMinute (hBad.bind _)
    by_cases hValid :
        Clock.isValid
          ⟨hour.value, minute.value, second.value,
            fractionValue fraction⟩ = true
    · right
      rcases Clock.isValid_iff.mp hValid with
        ⟨hHourLt, hMinuteLt, hSecondLt, _⟩
      refine
        ⟨some ⟨hour, minute, second, fraction, zone, hHourLt,
          hMinuteLt, hSecondLt⟩, ?_⟩
      simp only [Option.map_some, Option.getD_some, Time.chars,
        ← hHourChars, ← hMinuteChars, ← hSecondChars]
      rfl
    · left
      refine .bind_ok hMillis (.bind_ok hOffset (.bind_ok hHour ?_))
      refine .bind_ok hMinute (.bind_ok hSecond ?_)
      exact ⟨.invalidTime, if_neg hValid, by decide⟩
  · exact Or.inl ⟨.malformed, rfl, by decide⟩

------------------------------------------------------------
-- Instants
------------------------------------------------------------

/- The time of day in UTC, as it is computed. -/
theorem Time.milliseconds_eq
    (time : Time) :
    time.milliseconds =
      time.clock.milliseconds - time.zone.minutes * 60 * 1000 := by
  simp only [Time.milliseconds, Clock.milliseconds, Time.clock]
  omega

/- The instant of a literal, as it is computed. -/
def Literal.instant
    (literal : Literal) : Int :=
  literal.date.days * 86400000 +
    (literal.time.map Time.milliseconds).getD 0

theorem Literal.isInstant_iff
    {literal : Literal}
    {n : Int} :
    literal.IsInstant n ↔ n = literal.instant := by
  constructor
  · intro hInstant
    rcases hInstant with ⟨days, hDays, rfl⟩
    rw [(Date.isDaysAfter_epoch_iff literal.isReal).mp hDays]
    rfl
  · intro hInstant
    refine ⟨literal.date.days, ?_, hInstant⟩
    exact (Date.isDaysAfter_epoch_iff literal.isReal).mpr rfl

/- An offset is shorter than a day. -/
theorem Zone.minutes_bounds
    (zone : Zone) :
    -(24 * 60) < zone.minutes ∧ zone.minutes < 24 * 60 := by
  cases zone with
  | utc => decide
  | offset ahead hours minutes hHours hMinutes =>
      unfold Zone.minutes
      cases ahead with
      | true =>
          simp only [if_true]
          omega
      | false =>
          simp only [Bool.false_eq_true, if_false]
          omega

/- So a time is less than a day away from the day of its date. -/
theorem Time.milliseconds_bounds
    (time : Time) :
    -86400000 < time.milliseconds ∧
      time.milliseconds < 2 * 86400000 := by
  have hHour := time.hour_lt
  have hMinute := time.minute_lt
  have hSecond := time.second_lt
  have hFraction := fractionValue_lt time.fraction
  have hZone := time.zone.minutes_bounds
  unfold Time.milliseconds
  omega

/- The dates of literals are in the years with four digits. -/
theorem Literal.daysFromZero_lt
    (literal : Literal) :
    literal.date.daysFromZero < Date.daysBeforeYear 10000 := by
  have hYear : literal.date.year + 1 ≤ 10000 := literal.year.value_lt
  exact
    Nat.lt_of_lt_of_le (Date.daysFromZero_lt literal.isReal)
      (Date.daysBeforeYear_mono hYear)

/- And their instants are less than a day away from those years. -/
theorem Literal.instant_bounds
    (literal : Literal) :
    Date.days ⟨0, 1, 1⟩ * 86400000 - 86400000 < literal.instant ∧
      literal.instant <
        Date.days ⟨10000, 1, 1⟩ * 86400000 + 86400000 := by
  have hDays := literal.daysFromZero_lt
  have hTime :
      -86400000 < (literal.time.map Time.milliseconds).getD 0 ∧
        (literal.time.map Time.milliseconds).getD 0 <
          2 * 86400000 := by
    cases literal.time with
    | none => decide
    | some time => exact time.milliseconds_bounds
  have hFirst : Date.daysFromZero ⟨0, 1, 1⟩ = 0 := by decide
  have hLast :
      Date.daysFromZero ⟨10000, 1, 1⟩ = Date.daysBeforeYear 10000 :=
    rfl
  simp only [instant, Date.days, hFirst, hLast]
  omega

theorem Literal.inRange_instant
    (literal : Literal) :
    inRange literal.instant = .ok literal.instant := by
  have hBounds := literal.instant_bounds
  have hEarliest :
      earliest ≤ Date.days ⟨0, 1, 1⟩ * 86400000 - 86400000 := by
    decide
  have hLatest :
      Date.days ⟨10000, 1, 1⟩ * 86400000 + 86400000 ≤ latest := by
    decide
  unfold inRange
  apply if_pos
  rw [Bool.and_eq_true, decide_eq_true_iff, decide_eq_true_iff]
  omega

------------------------------------------------------------
-- Reading
------------------------------------------------------------

theorem Zone.length_chars_le
    (zone : Zone) :
    zone.chars.length ≤ 5 := by
  cases zone with
  | utc => decide
  | offset ahead hours minutes hHours hMinutes =>
      rw [Zone.chars, List.length_cons, List.length_append,
        hours.length_chars, minutes.length_chars]

theorem length_fractionChars_le
    (fraction : Option (Field 3)) :
    (fractionChars fraction).length ≤ 4 := by
  cases fraction with
  | none => exact Nat.zero_le 4
  | some field =>
      rw [fractionChars, List.length_cons, field.length_chars]

theorem Time.length_chars_le
    (time : Time) :
    time.chars.length ≤ 18 := by
  have hFraction := length_fractionChars_le time.fraction
  have hZone := time.zone.length_chars_le
  simp only [Time.chars, List.length_cons, List.length_append,
    Field.length_chars]
  omega

/- A literal has no more characters than are looked at. -/
theorem Literal.length_chars_le
    (literal : Literal) :
    literal.chars.length ≤ maxLength := by
  have hTime :
      ((literal.time.map Time.chars).getD []).length ≤ 18 := by
    cases literal.time with
    | none => exact Nat.zero_le 18
    | some time => exact time.length_chars_le
  simp only [Literal.chars, List.length_cons, List.length_append,
    Field.length_chars, maxLength]
  omega

/- The instant is computed from what is read of the time. -/
theorem Literal.instant_eq
    (literal : Literal) :
    literal.date.days * 86400000 +
        ((literal.time.map Time.clock).getD .midnight).milliseconds -
        (literal.time.map fun t => t.zone.minutes * 60).getD 0 * 1000 =
      literal.instant := by
  unfold instant
  cases literal.time with
  | none => exact Int.sub_zero _
  | some time =>
      simp only [Option.map_some, Option.getD_some,
        time.milliseconds_eq]
      omega

theorem Literal.readTime_chars
    (literal : Literal) :
    readTime ((literal.time.map Time.chars).getD []) =
      .ok ((literal.time.map Time.clock).getD .midnight,
        (literal.time.map fun t => t.zone.minutes * 60).getD 0) := by
  cases literal.time with
  | none => rfl
  | some time => exact Datetime.readTime_chars time

/- What a literal is read as. -/
theorem parse_of_chars
    {text : String}
    {literal : Literal}
    (hText : text.toList = literal.chars) :
    parse text = .ok literal.instant := by
  rcases literal.year.exists_four with ⟨a, b, c, d, hYearChars⟩
  rcases literal.month.exists_two with ⟨e, f, hMonthChars⟩
  rcases literal.day.exists_two with ⟨g, h, hDayChars⟩
  have hYear := number_chars literal.year
  have hMonth := number_chars literal.month
  have hDay := number_chars literal.day
  rw [hYearChars] at hYear
  rw [hMonthChars] at hMonth
  rw [hDayChars] at hDay
  have hLength := Nat.not_lt.mpr literal.length_chars_le
  have hValid : literal.date.isValid = true :=
    Date.isValid_iff.mpr literal.isReal
  unfold parse
  rw [hText, if_neg hLength, Literal.chars, hYearChars, hMonthChars,
    hDayChars]
  simp only [List.cons_append, List.nil_append, hYear, hMonth, hDay,
    literal.readTime_chars]
  exact
    (if_pos hValid).trans
      ((congrArg inRange literal.instant_eq).trans
        literal.inRange_instant)

/- A text that is no literal is refused. -/
theorem parse_cases
    (text : String) :
    Refused (parse text) ∨
      ∃ literal : Literal, text.toList = literal.chars := by
  unfold parse
  split
  · exact Or.inl ⟨.malformed, rfl, by decide⟩
  split
  · rename_i a b c d e f g h rest hText
    rcases number_cases 4 (rfl : [a, b, c, d].length = 4) with
      hBad | ⟨year, hYearChars, hYear⟩
    · exact Or.inl (hBad.bind _)
    rcases number_cases 2 (rfl : [e, f].length = 2) with
      hBad | ⟨month, hMonthChars, hMonth⟩
    · exact Or.inl (.bind_ok hYear (hBad.bind _))
    rcases number_cases 2 (rfl : [g, h].length = 2) with
      hBad | ⟨day, hDayChars, hDay⟩
    · exact Or.inl (.bind_ok hYear (.bind_ok hMonth (hBad.bind _)))
    by_cases hValid :
        Date.isValid ⟨year.value, month.value, day.value⟩ = true
    · rcases readTime_cases rest with hBad | ⟨time, rfl⟩
      · left
        refine .bind_ok hYear (.bind_ok hMonth (.bind_ok hDay ?_))
        rw [if_pos hValid]
        exact hBad.bind _
      · right
        refine
          ⟨⟨year, month, day, time, Date.isValid_iff.mp hValid⟩, ?_⟩
        simp only [hText, Literal.chars, ← hYearChars, ← hMonthChars,
          ← hDayChars, List.cons_append, List.nil_append]
    · left
      refine .bind_ok hYear (.bind_ok hMonth (.bind_ok hDay ?_))
      exact ⟨.invalidDate, if_neg hValid, by decide⟩
  · exact Or.inl ⟨.malformed, rfl, by decide⟩

/- A text is read if it is a literal. -/
theorem parse_eq_ok_iff
    {text : String}
    {n : Int} :
    parse text = .ok n ↔
      ∃ literal : Literal,
        text.toList = literal.chars ∧ n = literal.instant := by
  constructor
  · intro hRead
    rcases parse_cases text with ⟨error, hError, _⟩ | ⟨literal, hText⟩
    · rw [hError] at hRead
      cases hRead
    · rw [parse_of_chars hText] at hRead
      exact ⟨literal, hText, (Except.ok.inj hRead).symm⟩
  · intro hLiteral
    rcases hLiteral with ⟨literal, hText, rfl⟩
    exact parse_of_chars hText

/- No literal is out of range, and nothing else gets so far. -/
theorem parse_ne_outOfRange
    (text : String) :
    parse text ≠ .error .outOfRange := by
  intro hRange
  rcases parse_cases text with
    ⟨error, hError, hOther⟩ | ⟨literal, hText⟩
  · rw [hError] at hRange
    exact hOther (Except.error.inj hRange)
  · rw [parse_of_chars hText] at hRange
    cases hRange

end Datetime

------------------------------------------------------------
-- Acceptance
------------------------------------------------------------

/-
  A text is read if it is a literal: a date of the calendar,
  alone or with a time of day and an offset on the clock. It
  is read as the number of milliseconds to the instant that
  the literal names. No literal is too long, and no text is
  refused as out of range, since all instants are less than a
  day away from the years with four digits.
-/
theorem datetimes_accepted_if_real
    (text : String) :
    ((∃ n, Datetime.parse text = .ok n) ↔
      ∃ literal : Datetime.Literal, text.toList = literal.chars) ∧
      (∀ n : Int,
        Datetime.parse text = .ok n ↔
          ∃ literal : Datetime.Literal,
            text.toList = literal.chars ∧ literal.IsInstant n) ∧
      (∀ literal : Datetime.Literal,
        literal.chars.length ≤ Datetime.maxLength) ∧
      Datetime.parse text ≠ .error .outOfRange := by
  refine ⟨?_, ?_, ?_, ?_⟩
  · constructor
    · intro hRead
      rcases hRead with ⟨n, hRead⟩
      rcases Datetime.parse_eq_ok_iff.mp hRead with ⟨literal, hText, _⟩
      exact ⟨literal, hText⟩
    · intro hLiteral
      rcases hLiteral with ⟨literal, hText⟩
      exact ⟨literal.instant, Datetime.parse_of_chars hText⟩
  · intro n
    simp only [Datetime.Literal.isInstant_iff]
    exact Datetime.parse_eq_ok_iff
  · intro literal
    exact literal.length_chars_le
  · exact Datetime.parse_ne_outOfRange text

/- A leap day that is over in UTC. -/
example :
    (Datetime.parse "2000-02-29T23:30:00.250-0130").toOption =
      some 951872400250 := by
  decide

end PolicyCheck
