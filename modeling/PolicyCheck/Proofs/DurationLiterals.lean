import PolicyCheck.Literal.Duration
import PolicyCheck.Proofs.Patterns

/-
  Which texts are duration literals, and of what length. The
  units come in one order, and only digits can follow a unit,
  so an `m` with an `s` after it is never one of minutes.
  Counts are scaled, added and checked one by one, but none
  of them is negative, so a total in range is never refused
  on the way.

  Main declarations:
    * `Duration.Literal`
    * `Duration.Literal.value`
    * `Duration.components?_eq_some_iff`
    * `Duration.matches_pattern_iff`
    * `Duration.foldlM_addComponent?_eq_some_iff`
    * `durations_accepted_if_in_range`
-/

namespace PolicyCheck

namespace Duration

------------------------------------------------------------
-- Literals
------------------------------------------------------------

namespace Unit

/- How a unit is written. -/
def symbol : Unit → List Char
  | .days => ['d']
  | .hours => ['h']
  | .minutes => ['m']
  | .seconds => ['s']
  | .milliseconds => ['m', 's']

/- The number of milliseconds in a unit. -/
def length : Unit → Nat
  | .days => 24 * 60 * 60 * 1000
  | .hours => 60 * 60 * 1000
  | .minutes => 60 * 1000
  | .seconds => 1000
  | .milliseconds => 1

/- All units, in the order of a literal. -/
def all : List Unit :=
  [.days, .hours, .minutes, .seconds, .milliseconds]

end Unit

/- Counts and their units as they are written. -/
def written
    (components : List (List Char × Unit)) : List Char :=
  components.flatMap fun component =>
    component.1 ++ component.2.symbol

/- The number of milliseconds in all components. -/
def total
    (components : List (List Char × Unit)) : Nat :=
  (components.map fun component =>
    Text.numeral component.1 * component.2.length).sum

/-
  The parts of a duration literal: a sign, and one or more
  counts with units, which leave out some units but keep
  their order.
-/
@[ext]
structure Literal where
  negative : Bool
  components : List (List Char × Unit)
  components_ne_nil : components ≠ []
  numerals : ∀ component ∈ components, Text.IsNumeral component.1
  units_sublist : (components.map Prod.snd).Sublist Unit.all

/- The characters of a literal. -/
def Literal.chars
    (literal : Literal) : List Char :=
  Text.signed literal.negative (written literal.components)

/- The number of milliseconds that a literal denotes. -/
def Literal.value
    (literal : Literal) : Int :=
  if literal.negative then -(total literal.components : Int)
  else total literal.components

------------------------------------------------------------
-- Units
------------------------------------------------------------

theorem written_cons
    (component : List Char × Unit)
    (components : List (List Char × Unit)) :
    written (component :: components) =
      component.1 ++ (component.2.symbol ++ written components) := by
  rw [written, List.flatMap_cons, List.append_assoc]
  rfl

/- A unit is taken from the text in front of what follows. -/
theorem eq_append_of_unit?
    {cs rest : List Char}
    {unit : Unit}
    (hUnit : unit? cs = some (unit, rest)) :
    cs = unit.symbol ++ rest := by
  unfold unit? at hUnit
  split at hUnit <;>
    simp only [Option.some.injEq, Prod.mk.injEq, reduceCtorEq] at hUnit
  all_goals
    rcases hUnit with ⟨rfl, rfl⟩
    rfl

/- Only an `s` can make another unit of a unit. -/
theorem unit?_symbol_append
    (unit : Unit)
    {rest : List Char}
    (hRest : rest.head? ≠ some 's') :
    unit? (unit.symbol ++ rest) = some (unit, rest) := by
  cases unit with
  | minutes =>
      cases rest with
      | nil => rfl
      | cons c rest =>
          have hOther : c ≠ 's' := by
            intro hSame
            exact hRest (congrArg some hSame)
          simp [Unit.symbol, unit?, hOther]
  | days => rfl
  | hours => rfl
  | seconds => rfl
  | milliseconds => rfl

/- No unit is written with a digit. -/
theorem Unit.isDigit_head_symbol
    (unit : Unit)
    (rest : List Char) :
    ∃ c cs, unit.symbol ++ rest = c :: cs ∧ c.isDigit = false := by
  cases unit with
  | days => exact ⟨'d', rest, rfl, rfl⟩
  | hours => exact ⟨'h', rest, rfl, rfl⟩
  | minutes => exact ⟨'m', rest, rfl, rfl⟩
  | seconds => exact ⟨'s', rest, rfl, rfl⟩
  | milliseconds => exact ⟨'m', 's' :: rest, rfl, rfl⟩

/-
  After a unit those of a higher rank are left. Ranks are the
  places of units among all units.
-/
theorem Unit.cons_sublist_drop_iff
    (unit : Unit)
    (units : List Unit)
    (least : Nat) :
    (unit :: units).Sublist (all.drop least) ↔
      least ≤ unit.rank ∧ units.Sublist (all.drop (unit.rank + 1)) := by
  rcases least with _ | _ | _ | _ | _ | least <;>
    cases unit <;>
    simp [all, rank, List.cons_sublist_cons']

------------------------------------------------------------
-- Components
------------------------------------------------------------

/- The digits of a count are told apart from its unit. -/
theorem takeWhile_isDigit
    {digits : List Char}
    (hDigits : ∀ c ∈ digits, c.isDigit = true)
    (unit : Unit)
    (rest : List Char) :
    (digits ++ (unit.symbol ++ rest)).takeWhile Char.isDigit =
        digits ∧
      (digits ++ (unit.symbol ++ rest)).dropWhile Char.isDigit =
        unit.symbol ++ rest := by
  rcases unit.isDigit_head_symbol rest with ⟨c, cs, hText, hOther⟩
  rw [hText]
  exact
    Text.takeWhile_dropWhile_iff.mpr
      ⟨rfl, hDigits, Text.ends_cons_iff.mpr hOther⟩

/- Components begin with a digit. -/
theorem isDigit_of_head?_written
    {components : List (List Char × Unit)}
    (hNumerals :
      ∀ component ∈ components, Text.IsNumeral component.1)
    {c : Char}
    (hHead : (written components).head? = some c) :
    c.isDigit = true := by
  cases components with
  | nil => cases hHead
  | cons component components =>
      have hNumeral := hNumerals component List.mem_cons_self
      rw [written_cons,
        List.head?_append_of_ne_nil _ hNumeral.ne_nil] at hHead
      exact hNumeral.isDigit c (List.mem_of_head? hHead)

/- Read a count with its unit, and then what follows. -/
theorem components?_append
    {digits : List Char}
    (hNumeral : Text.IsNumeral digits)
    (unit : Unit)
    {rest : List Char}
    (hRest : rest.head? ≠ some 's')
    (least : Nat) :
    components? least (digits ++ (unit.symbol ++ rest)) =
      if least ≤ unit.rank then
        (components? (unit.rank + 1) rest).map ((digits, unit) :: ·)
      else
        none := by
  rcases takeWhile_isDigit hNumeral.isDigit unit rest with
    ⟨hTake, hDrop⟩
  have hUnit := unit?_symbol_append unit hRest
  rw [components?, if_neg (by simp [hNumeral.ne_nil])]
  simp only [hTake]
  rw [if_neg (by simp [hNumeral.ne_nil])]
  split
  · rename_i hNone
    rw [hDrop, hUnit] at hNone
    cases hNone
  · rename_i found other hFound
    rw [hDrop, hUnit] at hFound
    rcases hFound with ⟨⟩
    rfl

/-
  Components are read from what is written with them, and
  from nothing else. The induction is on the text that is
  left after each unit.
-/
theorem components?_eq_some_iff
    {least : Nat}
    {cs : List Char}
    {components : List (List Char × Unit)} :
    components? least cs = some components ↔
      cs = written components ∧
        (∀ component ∈ components, Text.IsNumeral component.1) ∧
        (components.map Prod.snd).Sublist (Unit.all.drop least) := by
  constructor
  · intro hRead
    fun_induction components? least cs generalizing components with
    | case1 least cs hEmpty =>
        rcases Option.some.inj hRead with rfl
        exact
          ⟨List.isEmpty_iff.mp hEmpty, by simp, List.nil_sublist _⟩
    | case2 => cases hRead
    | case3 => cases hRead
    | case4 least cs hText digits hDigits unit rest hUnit hRank =>
        rename_i ih
        rcases Option.map_eq_some_iff.mp hRead with
          ⟨others, hOthers, rfl⟩
        rcases ih hOthers with ⟨hRest, hNumerals, hUnits⟩
        have hNumeral : Text.IsNumeral digits := by
          refine ⟨fun hNil => hDigits (by simp [hNil]), ?_⟩
          intro c hMem
          exact List.all_eq_true.mp List.all_takeWhile c hMem
        refine ⟨?_, ?_, ?_⟩
        · rw [written_cons, ← hRest, ← eq_append_of_unit? hUnit]
          exact List.takeWhile_append_dropWhile.symm
        · rw [List.forall_mem_cons]
          exact ⟨hNumeral, hNumerals⟩
        · rw [List.map_cons, Unit.cons_sublist_drop_iff]
          exact ⟨hRank, hUnits⟩
    | case5 => cases hRead
  · intro hParts
    rcases hParts with ⟨rfl, hNumerals, hUnits⟩
    induction components generalizing least with
    | nil => rw [written, List.flatMap_nil, components?]; rfl
    | cons component components ih =>
        rw [List.forall_mem_cons] at hNumerals
        rw [List.map_cons, Unit.cons_sublist_drop_iff] at hUnits
        have hRest : (written components).head? ≠ some 's' := by
          intro hHead
          cases isDigit_of_head?_written hNumerals.2 hHead
        rw [written_cons,
          components?_append hNumerals.1 component.2 hRest least,
          if_pos hUnits.1, ih hNumerals.2 hUnits.2]
        rfl

------------------------------------------------------------
-- Captures
------------------------------------------------------------

/-
  The pattern of a count with its unit, which may be left
  out: `(([0-9]+)d)?` for days. The outer group is of an odd
  number, and the count is in the next one.
-/
def Unit.pattern
    (unit : Unit) : Text.Pattern :=
  .opt
    (.group (2 * unit.rank + 1)
      (.seq (.group (2 * unit.rank + 2) (.digits Char.isDigit))
        (.word unit.symbol)))

/- The patterns of units one after the other. -/
def unitsPattern
    (units : List Unit) : Text.Pattern :=
  units.foldr (fun unit rest => .seq unit.pattern rest) .nothing

/-
  The pattern of a literal, which the empty text and a sign
  match as well:
  `^-?(([0-9]+)d)?(([0-9]+)h)?(([0-9]+)m)?(([0-9]+)s)?(([0-9]+)ms)?$`.
-/
def pattern : Text.Pattern :=
  .afterSign (unitsPattern Unit.all)

/- What the groups of a component capture. -/
def captured
    (component : List Char × Unit) : Text.Captures :=
  [(2 * component.2.rank + 1, component.1 ++ component.2.symbol),
    (2 * component.2.rank + 2, component.1)]

/- A unit is matched by nothing or by a count in front of it. -/
theorem Unit.matches_pattern_iff
    {unit : Unit}
    {cs : List Char}
    {captures : Text.Captures} :
    unit.pattern.Matches cs captures ↔
      (cs = [] ∧ captures = []) ∨
        ∃ digits,
          Text.IsNumeral digits ∧ cs = digits ++ unit.symbol ∧
            captures = captured (digits, unit) := by
  rw [Unit.pattern, Text.Pattern.matches_opt_iff,
    Text.Pattern.matches_group_iff]
  simp only [Text.Pattern.matches_seq_iff,
    Text.Pattern.matches_group_digits_iff,
    Text.Pattern.matches_word_iff]
  refine or_congr_right ?_
  constructor
  · intro hGroup
    rcases hGroup with ⟨_, ⟨digits, _, _, _, hCount, hUnit, rfl, rfl⟩, rfl⟩
    rcases hCount with ⟨hDigits, rfl⟩
    rcases hUnit with ⟨rfl, rfl⟩
    exact ⟨digits, ⟨hDigits.1, hDigits.2⟩, rfl, rfl⟩
  · intro hCount
    rcases hCount with ⟨digits, hDigits, rfl, rfl⟩
    exact
      ⟨_, ⟨digits, _, _, _,
        ⟨⟨hDigits.ne_nil, hDigits.isDigit⟩, rfl⟩, ⟨rfl, rfl⟩, rfl, rfl⟩,
        rfl⟩

/-
  Units are matched by components that leave out some of
  them. The induction is on the units.
-/
theorem matches_unitsPattern_iff
    {units : List Unit}
    {cs : List Char}
    {captures : Text.Captures} :
    (unitsPattern units).Matches cs captures ↔
      ∃ components : List (List Char × Unit),
        (cs = written components ∧
          (∀ component ∈ components, Text.IsNumeral component.1) ∧
          (components.map Prod.snd).Sublist units) ∧
        captures = components.flatMap captured := by
  induction units generalizing cs captures with
  | nil =>
      rw [unitsPattern, List.foldr_nil,
        Text.Pattern.matches_nothing_iff]
      constructor
      · intro hNone
        rcases hNone with ⟨rfl, rfl⟩
        exact ⟨[], ⟨rfl, by simp, by simp⟩, rfl⟩
      · intro hParts
        rcases hParts with ⟨components, ⟨rfl, _, hUnits⟩, rfl⟩
        have hNone : components = [] := by simpa using hUnits
        rw [hNone]
        exact ⟨rfl, rfl⟩
  | cons unit units ih =>
      have hCons :
          unitsPattern (unit :: units) =
            .seq unit.pattern (unitsPattern units) :=
        rfl
      simp only [hCons, Text.Pattern.matches_seq_iff,
        Unit.matches_pattern_iff, ih]
      constructor
      · intro hMatches
        rcases hMatches with ⟨_, _, _, _, hFirst, hOthers, rfl, rfl⟩
        rcases hOthers with ⟨components, ⟨rfl, hNumerals, hUnits⟩, rfl⟩
        rcases hFirst with ⟨rfl, rfl⟩ | ⟨digits, hDigits, rfl, rfl⟩
        · exact ⟨components, ⟨rfl, hNumerals, hUnits.cons unit⟩, rfl⟩
        · refine
            ⟨(digits, unit) :: components, ⟨?_, ?_, ?_⟩, rfl⟩
          · rw [written_cons, List.append_assoc]
          · exact List.forall_mem_cons.mpr ⟨hDigits, hNumerals⟩
          · exact hUnits.cons_cons unit
      · intro hParts
        rcases hParts with ⟨components, ⟨rfl, hNumerals, hUnits⟩, rfl⟩
        -- the unit is left out or the unit of the first component
        rcases List.sublist_cons_iff.mp hUnits with
          hOthers | ⟨_, hMap, hOthers⟩
        · exact
            ⟨[], _, [], _, Or.inl ⟨rfl, rfl⟩,
              ⟨components, ⟨rfl, hNumerals, hOthers⟩, rfl⟩, rfl, rfl⟩
        · rcases List.map_eq_cons_iff.mp hMap with
            ⟨⟨digits, _⟩, others, rfl, rfl, rfl⟩
          rw [List.forall_mem_cons] at hNumerals
          refine
            ⟨_, _, _, _, Or.inr ⟨digits, hNumerals.1, rfl, rfl⟩,
              ⟨others, ⟨rfl, hNumerals.2, hOthers⟩, rfl⟩, ?_, rfl⟩
          rw [written_cons, List.append_assoc]

/-
  The components of a text after its sign are what its
  pattern captures.
-/
theorem matches_pattern_iff
    {cs : List Char}
    {captures : Text.Captures} :
    pattern.Matches cs captures ↔
      ∃ components,
        components? 0 (Text.unsign cs).2 = some components ∧
          captures = components.flatMap captured := by
  simp only [pattern, Text.Pattern.matches_afterSign_iff,
    matches_unitsPattern_iff, components?_eq_some_iff, List.drop_zero]
  constructor
  · intro hMatches
    rcases hMatches with ⟨negative, _, hUnits, rfl⟩
    rcases hUnits with ⟨components, ⟨rfl, hNumerals, hUnits⟩, rfl⟩
    refine ⟨components, ⟨?_, hNumerals, hUnits⟩, rfl⟩
    rw [Text.unsign_signed]
    intro hMinus
    cases isDigit_of_head?_written hNumerals hMinus
  · intro hRead
    rcases hRead with ⟨components, hComponents, rfl⟩
    exact
      ⟨_, _, ⟨components, hComponents, rfl⟩,
        Text.eq_signed_of_unsign rfl⟩

------------------------------------------------------------
-- Totals
------------------------------------------------------------

theorem total_cons
    (component : List Char × Unit)
    (components : List (List Char × Unit)) :
    total (component :: components) =
      Text.numeral component.1 * component.2.length +
        total components := by
  rw [total, List.map_cons, List.sum_cons]
  rfl

theorem Unit.scale_eq
    (unit : Unit) :
    unit.scale = (unit.length : Int) := by
  cases unit <;> rfl

theorem Unit.length_pos
    (unit : Unit) :
    0 < unit.length := by
  cases unit <;> decide

/-
  A component is added if the sum is in range: neither the
  count nor its product with the unit is greater.
-/
theorem addComponent?_eq_some_iff
    {start n : Int}
    (hStart : 0 ≤ start)
    {component : List Char × Unit}
    (hNumeral : Text.IsNumeral component.1) :
    addComponent? start component = some n ↔
      n = start + (Text.numeral component.1 *
          component.2.length : Nat) ∧
        n ≤ 2 ^ 63 - 1 := by
  have hCount :
      Text.numeral component.1 ≤
        Text.numeral component.1 * component.2.length :=
    Nat.le_mul_of_pos_right _ component.2.length_pos
  simp only [addComponent?, Bounded.mul?, Bounded.add?,
    Option.bind_eq_bind, Option.bind_eq_some_iff,
    Text.decimal?_eq_some_iff, Bounded.check?_eq_some_iff,
    Bounded.fits_iff, Unit.scale_eq]
  constructor
  · intro hAdded
    rcases hAdded with
      ⟨count, ⟨_, rfl⟩, _, ⟨rfl, _⟩, part, ⟨rfl, _⟩, rfl, hFits⟩
    exact ⟨rfl, hFits.2⟩
  · intro hSum
    rcases hSum with ⟨rfl, hLe⟩
    refine
      ⟨_, ⟨hNumeral.isDigit, rfl⟩, _, ⟨rfl, ?_⟩, _, ⟨rfl, ?_⟩, rfl,
        ?_⟩
    all_goals omega

/-
  All components are added if their total is in range, since
  no sum on the way is greater.
-/
theorem foldlM_addComponent?_eq_some_iff
    {components : List (List Char × Unit)}
    (hNumerals :
      ∀ component ∈ components, Text.IsNumeral component.1)
    {start n : Int}
    (hStart : 0 ≤ start)
    (hRange : start ≤ 2 ^ 63 - 1) :
    components.foldlM addComponent? start = some n ↔
      n = start + total components ∧ n ≤ 2 ^ 63 - 1 := by
  induction components generalizing start with
  | nil =>
      rw [List.foldlM_nil]
      have hNone : total [] = 0 := rfl
      simp only [hNone, Option.pure_def, Option.some.injEq]
      constructor
      · rintro rfl
        exact ⟨by simp, hRange⟩
      · rintro ⟨rfl, _⟩
        simp
  | cons component components ih =>
      rw [List.forall_mem_cons] at hNumerals
      simp only [List.foldlM_cons, Option.bind_eq_bind,
        Option.bind_eq_some_iff, total_cons,
        addComponent?_eq_some_iff hStart hNumerals.1]
      constructor
      · intro hAdded
        rcases hAdded with ⟨sum, ⟨rfl, hLe⟩, hRest⟩
        rw [ih hNumerals.2 (by omega) hLe] at hRest
        omega
      · intro hSum
        refine ⟨_, ⟨rfl, by omega⟩, ?_⟩
        rw [ih hNumerals.2 (by omega) (by omega)]
        omega

------------------------------------------------------------
-- Reading
------------------------------------------------------------

/- A text has no fewer bytes than characters. -/
theorem length_le_utf8ByteSize
    (cs : List Char) :
    cs.length ≤ (String.ofList cs).utf8ByteSize := by
  induction cs with
  | nil => exact Nat.zero_le _
  | cons c cs ih =>
      have hSize := c.utf8Size_pos
      rw [String.ofList_cons, String.utf8ByteSize_append,
        String.utf8ByteSize_singleton, List.length_cons]
      omega

/- A literal has two characters or more. -/
theorem Literal.two_le_length_chars
    (literal : Literal) :
    2 ≤ literal.chars.length := by
  have hWritten : 2 ≤ (written literal.components).length := by
    cases hComponents : literal.components with
    | nil => exact absurd hComponents literal.components_ne_nil
    | cons component components =>
        have hNumeral : Text.IsNumeral component.1 := by
          apply literal.numerals
          rw [hComponents]
          exact List.mem_cons_self
        have hDigits := List.length_pos_iff.mpr hNumeral.ne_nil
        rcases component.2.isDigit_head_symbol (written components) with
          ⟨c, cs, hUnit, _⟩
        rw [written_cons, hUnit, List.length_append, List.length_cons]
        omega
  unfold chars Text.signed
  split
  · rw [List.length_cons]
    omega
  · exact hWritten

/- The reader gives back the parts of a literal. -/
theorem Literal.unsign_chars
    (literal : Literal) :
    Text.unsign literal.chars =
      (literal.negative, written literal.components) := by
  apply Text.unsign_signed
  intro hMinus
  cases isDigit_of_head?_written literal.numerals hMinus

theorem Literal.components?_written
    (literal : Literal) :
    components? 0 (written literal.components) =
      some literal.components :=
  components?_eq_some_iff.mpr
    ⟨rfl, literal.numerals, literal.units_sublist⟩

/- So no text can be cut into parts in two ways. -/
theorem Literal.eq_of_chars_eq
    {first second : Literal}
    (hSame : first.chars = second.chars) :
    first = second := by
  have hUnsign := first.unsign_chars
  rw [hSame, second.unsign_chars, Prod.mk.injEq] at hUnsign
  have hComponents := first.components?_written
  rw [← hUnsign.2, second.components?_written] at hComponents
  exact
    Literal.ext hUnsign.1.symm (Option.some.inj hComponents).symm

/- A sign alone is too short. -/
theorem utf8ByteSize_lt_of_signed_nil
    {text : String}
    {negative : Bool}
    (hText : text.toList = Text.signed negative []) :
    text.utf8ByteSize < 2 := by
  rw [← String.ofList_toList (s := text), hText]
  cases negative with
  | true => decide
  | false => decide

/- A text is read if it is a literal with a total in range. -/
theorem parse_eq_ok_iff
    {text : String}
    {n : Int} :
    parse text = .ok n ↔
      ∃ literal : Literal,
        text.toList = literal.chars ∧
          total literal.components ≤ 2 ^ 63 - 1 ∧
          n = literal.value := by
  constructor
  · intro hParse
    cases hUnsign : Text.unsign text.toList with
    | mk negative rest =>
        have hText := Text.eq_signed_of_unsign hUnsign
        simp only [parse, hUnsign] at hParse
        split at hParse
        · cases hParse
        · rename_i hSize
          split at hParse
          · cases hParse
          · rename_i components hComponents
            rcases components?_eq_some_iff.mp hComponents with
              ⟨rfl, hNumerals, hUnits⟩
            split at hParse
            · cases hParse
            · rename_i sum hSum
              rcases Except.ok.inj hParse with rfl
              rw [foldlM_addComponent?_eq_some_iff hNumerals
                (Int.le_refl 0) (by omega), Int.zero_add] at hSum
              rcases hSum with ⟨rfl, hRange⟩
              have hSome : components ≠ [] := by
                intro hNil
                rw [hNil] at hText
                exact hSize (utf8ByteSize_lt_of_signed_nil hText)
              have hTotal : total components ≤ 2 ^ 63 - 1 := by
                omega
              exact
                ⟨⟨negative, components, hSome, hNumerals, hUnits⟩,
                  hText, hTotal, rfl⟩
  · intro hLiteral
    rcases hLiteral with ⟨literal, hText, hRange, rfl⟩
    have hUnsign := literal.unsign_chars
    rw [← hText] at hUnsign
    have hSize : ¬ text.utf8ByteSize < 2 := by
      have hBytes := length_le_utf8ByteSize text.toList
      have hLength := literal.two_le_length_chars
      rw [String.ofList_toList, hText] at hBytes
      omega
    have hComponents := literal.components?_written
    have hSum :
        literal.components.foldlM addComponent? 0 =
          some (total literal.components : Int) := by
      rw [foldlM_addComponent?_eq_some_iff literal.numerals
        (Int.le_refl 0) (by omega), Int.zero_add]
      exact ⟨rfl, by omega⟩
    simp only [parse, hUnsign, if_neg hSize, hComponents, hSum,
      Literal.value]

end Duration

------------------------------------------------------------
-- Acceptance
------------------------------------------------------------

/-
  A text is read as a number of milliseconds if it is a
  literal that denotes this number, and if its total is in
  the range of 64 bits. A text is a literal in at most one
  way, and neither the empty text nor a sign is one.
-/
theorem durations_accepted_if_in_range
    (text : String) :
    (∀ n : Int,
      Duration.parse text = .ok n ↔
        ∃ literal : Duration.Literal,
          text.toList = literal.chars ∧
            Duration.total literal.components ≤ 2 ^ 63 - 1 ∧
            n = literal.value) ∧
      (∀ first second : Duration.Literal,
        text.toList = first.chars → text.toList = second.chars →
          first = second) ∧
      (text = "" ∨ text = "-" →
        Duration.parse text = .error .malformed) := by
  refine ⟨?_, ?_, ?_⟩
  · intro n
    exact Duration.parse_eq_ok_iff
  · intro first second hFirst hSecond
    exact Duration.Literal.eq_of_chars_eq (hFirst.symm.trans hSecond)
  · intro hShort
    rcases hShort with rfl | rfl
    · rfl
    · rfl

/- A day, half an hour and five milliseconds ago. -/
def mixedDuration : Duration.Literal where
  negative := true
  components :=
    [(['1'], .days), (['3', '0'], .minutes), (['5'], .milliseconds)]
  components_ne_nil := by decide
  numerals := by
    simp only [List.forall_mem_cons]
    exact ⟨by decide, by decide, by decide, List.forall_mem_nil _⟩
  units_sublist := by decide

/- Its text is not taken for minutes, and the total is negated. -/
theorem mixedDuration_read :
    "-1d30m5ms".toList = mixedDuration.chars ∧
      Duration.parse "-1d30m5ms" = .ok (-88200005) ∧
      ∀ other : Duration.Literal,
        "-1d30m5ms".toList = other.chars → other = mixedDuration := by
  have hText : "-1d30m5ms".toList = mixedDuration.chars := by decide
  rcases durations_accepted_if_in_range "-1d30m5ms" with
    ⟨hRead, hUnique, _⟩
  refine ⟨hText, ?_, ?_⟩
  · rw [hRead]
    exact ⟨mixedDuration, hText, by decide, by decide⟩
  · intro other hOther
    exact hUnique other mixedDuration hOther hText

end PolicyCheck
