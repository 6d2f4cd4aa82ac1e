import PolicyCheck.Literal.Bounded
import PolicyCheck.Text.Digit

/-
  This file reads duration literals: an optional sign and
  counts of days, hours, minutes, seconds and milliseconds,
  in this order and each at most once. The value is in
  milliseconds and has to fit 64 bits.

  Key definitions include:
    * `Duration.Unit`
    * `Duration.components?`
    * `Duration.parse`
-/

namespace PolicyCheck

namespace Duration

------------------------------------------------------------
-- Errors
------------------------------------------------------------

/- Why a text is no duration literal. -/
inductive Error where
  | malformed
  | overflow
deriving DecidableEq, Repr

/- An error as it is reported for a text. -/
def Error.message
    (text : String) : Error → String
  | .malformed => "`" ++ text ++ "` is not a well-formed duration value"
  | .overflow => "`" ++ text ++ "` overflows the range of a duration"

------------------------------------------------------------
-- Units
------------------------------------------------------------

/- The units in which a duration is given. -/
inductive Unit where
  | days
  | hours
  | minutes
  | seconds
  | milliseconds
deriving DecidableEq, Repr

namespace Unit

/- The place of a unit in a literal. -/
def rank : Unit → Nat
  | .days => 0
  | .hours => 1
  | .minutes => 2
  | .seconds => 3
  | .milliseconds => 4

/- The number of milliseconds in a unit. -/
def scale : Unit → Int
  | .days => 86400000
  | .hours => 3600000
  | .minutes => 60000
  | .seconds => 1000
  | .milliseconds => 1

end Unit

/-
  The unit at the head of a text, and what follows it. An
  `m` is read as minutes unless an `s` makes it
  milliseconds.
-/
def unit? : List Char → Option (Unit × List Char)
  | 'd' :: cs => some (.days, cs)
  | 'h' :: cs => some (.hours, cs)
  | 'm' :: 's' :: cs => some (.milliseconds, cs)
  | 'm' :: cs => some (.minutes, cs)
  | 's' :: cs => some (.seconds, cs)
  | _ => none

/- What follows a unit is shorter than the text. -/
theorem unit?_length_lt
    {cs rest : List Char}
    {unit : Unit}
    (h : unit? cs = some (unit, rest)) :
    rest.length < cs.length := by
  unfold unit? at h
  split at h <;>
    simp only [Option.some.injEq, Prod.mk.injEq, reduceCtorEq] at h
  all_goals
    obtain ⟨_, rfl⟩ := h
    simp only [List.length_cons]
    omega

------------------------------------------------------------
-- Reading
------------------------------------------------------------

/-
  The components of a text without sign: digits followed by
  a unit, again and again. `least` is the least rank that
  the next unit may have.
-/
def components?
    (least : Nat)
    (cs : List Char) : Option (List (List Char × Unit)) :=
  if cs.isEmpty then some []
  else
    let digits := cs.takeWhile Char.isDigit
    if digits.isEmpty then none
    else
      match h : unit? (cs.dropWhile Char.isDigit) with
      | none => none
      | some (unit, rest) =>
          if least ≤ unit.rank then
            (components? (unit.rank + 1) rest).map
              ((digits, unit) :: ·)
          else
            none
termination_by cs.length
decreasing_by
  have hRest := unit?_length_lt h
  have hDrop : (cs.dropWhile Char.isDigit).length ≤ cs.length :=
    (List.dropWhile_sublist _).length_le
  omega

/- Add a component to a total. -/
def addComponent?
    (total : Int)
    (component : List Char × Unit) : Option Int := do
  let n ← Text.decimal? component.1
  let n ← Bounded.check? n
  let ms ← Bounded.mul? n component.2.scale
  Bounded.add? total ms

/-
  The number of milliseconds of a literal. At least one
  component is needed, so the text has two bytes or more.
-/
def parse
    (text : String) : Except Error Int :=
  let (negative, cs) := Text.unsign text.toList
  if text.utf8ByteSize < 2 then .error .malformed
  else
    match components? 0 cs with
    | none => .error .malformed
    | some components =>
        match components.foldlM addComponent? 0 with
        | none => .error .overflow
        | some total => .ok (if negative then -total else total)

end Duration

end PolicyCheck
