import PolicyCheck.Literal.IpAddr
import PolicyCheck.Proofs.Numerals

/-
  Which texts are IP addresses. An address is written with
  four octets, or with groups of hexadecimal digits, of which
  the last two can be written as four octets and of which any
  number can be left out once. What follows a part decides
  where it ends, and whether octets or a group are read.

  Main declarations:
    * `IpAddr.Number`
    * `IpAddr.Group`
    * `IpAddr.Quad`
    * `IpAddr.Run`
    * `IpAddr.Written`
    * `IpAddr.readQuad_eq_some_iff`
    * `IpAddr.readGroup_eq_some_iff`
    * `IpAddr.exists_run_of_readGroups`
    * `IpAddr.readGroups_chars`
    * `IpAddr.address?_eq_some_iff`
-/

namespace PolicyCheck

namespace IpAddr

------------------------------------------------------------
-- Written Addresses
------------------------------------------------------------

/- A decimal number without leading zeros, up to a limit. -/
structure Number
    (limit : Nat) where
  digits : List Char
  isNumeral : Text.IsNumeral digits
  noLeadingZero : digits.head? = some '0' → digits = ['0']
  numeral_le : Text.numeral digits ≤ limit

/- The value of a number. -/
def Number.value
    {limit : Nat}
    (number : Number limit) : Nat :=
  Text.numeral number.digits

/- A digit of base sixteen, in whatever case. -/
def isHexDigit
    (c : Char) : Bool :=
  c.isDigit || ('a' ≤ c && c ≤ 'f') || ('A' ≤ c && c ≤ 'F')

/- A group of one to four hexadecimal digits. -/
structure Group where
  digits : List Char
  ne_nil : digits ≠ []
  length_le : digits.length ≤ 4
  isHexDigit : ∀ c ∈ digits, isHexDigit c = true

/- The value of a group. -/
def Group.value
    (group : Group) : Nat :=
  Nat.ofDigits 16
    (group.digits.map fun c => (hexDigit? c).getD 0).reverse

/- Four octets. -/
structure Quad where
  first : Number 255
  second : Number 255
  third : Number 255
  fourth : Number 255

namespace Quad

/- Octets have points between them. -/
def chars
    (quad : Quad) : List Char :=
  quad.first.digits ++
    '.' :: (quad.second.digits ++
      '.' :: (quad.third.digits ++ '.' :: quad.fourth.digits))

/- The values of the octets. -/
def octets
    (quad : Quad) : List Nat :=
  [quad.first.value, quad.second.value, quad.third.value,
    quad.fourth.value]

end Quad

/- Texts with colons between them, or one before each of them. -/
def separated
    (first : Bool) : List (List Char) → List Char
  | [] => []
  | text :: texts =>
      (if first then text else ':' :: text) ++ separated false texts

/- Groups, of which the last two can be written as octets. -/
structure Run where
  groups : List Group
  quad : Option Quad

namespace Run

/- What has colons between in a run. -/
def texts
    (run : Run) : List (List Char) :=
  run.groups.map Group.digits ++ run.quad.toList.map Quad.chars

/- The characters of a run. -/
def chars
    (run : Run) : List Char :=
  separated true run.texts

/- The values of all groups. -/
def values
    (run : Run) : List Nat :=
  run.groups.map Group.value ++
    run.quad.toList.flatMap fun quad => quadGroups quad.octets

/- The number of groups, where octets count as two. -/
def width
    (run : Run) : Nat :=
  run.groups.length + 2 * run.quad.toList.length

end Run

/-
  An address as it can be written: four octets, eight groups,
  or fewer groups around a double colon. Only the last groups
  can be written as octets.
-/
inductive Written where
  | octets (quad : Quad)
  | full (run : Run) (hWidth : run.width = 8)
  | elided
      (head : List Group)
      (tail : Run)
      (hWidth : head.length + tail.width ≤ 7)

namespace Written

/- The characters of an address. -/
def chars : Written → List Char
  | .octets quad => quad.chars
  | .full run _ => run.chars
  | .elided head tail _ =>
      separated true (head.map Group.digits) ++
        ':' :: ':' :: tail.chars

/- The address that is written. -/
def address : Written → Address
  | .octets quad => .v4 quad.octets
  | .full run _ => .v6 run.values
  | .elided head tail _ =>
      .v6 (head.map Group.value ++
        List.replicate (8 - head.length - tail.width) 0 ++
        tail.values)

/- Some groups of the address are written as octets. -/
def embeds : Written → Bool
  | .octets _ => false
  | .full run _ => run.quad.isSome
  | .elided _ tail _ => tail.quad.isSome

end Written

------------------------------------------------------------
-- Numbers
------------------------------------------------------------

/- Digits without leading zeros are no more than the limit has. -/
theorem Number.length_le
    {limit width : Nat}
    (number : Number limit)
    (hLimit : limit < 10 ^ width)
    (hWidth : 0 < width) :
    number.digits.length ≤ width := by
  rcases number with ⟨digits, hNumeral, hZero, hLe⟩
  apply Nat.le_of_not_lt
  intro hLong
  cases digits with
  | nil => exact hNumeral.ne_nil rfl
  | cons c cs =>
      dsimp only at hLong
      rw [List.length_cons] at hLong
      have hNonzero : c ≠ '0' := by
        intro hSame
        have hOne := hZero (congrArg some hSame)
        rw [(List.cons.inj hOne).2, List.length_nil] at hLong
        omega
      have hDigit := hNumeral.isDigit c List.mem_cons_self
      have hPos := Text.digitValue_pos hDigit hNonzero
      have hPower : 10 ^ width ≤ 10 ^ cs.length :=
        Nat.pow_le_pow_right (by omega) (by omega)
      have hMany := Nat.le_mul_of_pos_left (10 ^ cs.length) hPos
      rw [Text.numeral_cons] at hLe
      omega

/- A leading zero is told by the number of digits. -/
theorem noLeadingZero_iff
    {digits : List Char} :
    (digits.head? = some '0' → digits = ['0']) ↔
      ¬ (digits.head? = some '0' ∧ 1 < digits.length) := by
  cases digits with
  | nil => simp
  | cons c cs =>
      cases cs with
      | nil => simp
      | cons d cs => simp

/- The checks of an octet are those of a number. -/
theorem octet?_eq_some_iff
    {digits : List Char}
    {n : Nat} :
    octet? digits = some n ↔
      ∃ octet : Number 255,
        digits = octet.digits ∧ n = octet.value := by
  simp only [octet?, Option.bind_eq_bind, Option.bind_eq_some_iff,
    Text.decimal?_eq_some_iff]
  constructor
  · intro hOctet
    rcases hOctet with ⟨m, ⟨hDigits, rfl⟩, hChecks⟩
    split at hChecks
    · cases hChecks
    · rename_i hLength
      split at hChecks
      · cases hChecks
      · rename_i hZero
        split at hChecks
        · cases hChecks
        · rename_i hLe
          have hSome : digits ≠ [] := by
            intro hNil
            simp [hNil] at hLength
          have hLeading : digits.head? = some '0' → digits = ['0'] := by
            rw [noLeadingZero_iff]
            simpa using hZero
          exact
            ⟨⟨digits, ⟨hSome, hDigits⟩, hLeading, Nat.le_of_not_lt hLe⟩,
              rfl, (Option.some.inj hChecks).symm⟩
  · intro hOctet
    rcases hOctet with ⟨octet, rfl, rfl⟩
    have hLength : octet.digits.length ≤ 3 :=
      octet.length_le (by decide) (by decide)
    have hZero := noLeadingZero_iff.mp octet.noLeadingZero
    refine ⟨_, ⟨octet.isNumeral.isDigit, rfl⟩, ?_⟩
    rw [if_neg, if_neg, if_neg]
    · rfl
    · exact Nat.not_lt.mpr octet.numeral_le
    · simpa using hZero
    · simpa [octet.isNumeral.ne_nil] using hLength

/- What can be read as a digit of base sixteen. -/
theorem isSome_hexDigit?
    (c : Char) :
    (hexDigit? c).isSome = isHexDigit c := by
  unfold hexDigit? isHexDigit
  split
  · simp [*]
  · split
    · simp [*]
    · split
      · simp [*]
      · simp [*]

theorem group?_eq_some_iff
    {digits : List Char}
    {n : Nat} :
    group? digits = some n ↔
      ∃ group : Group, digits = group.digits ∧ n = group.value := by
  unfold group?
  constructor
  · intro hGroup
    split at hGroup
    · cases hGroup
    · rename_i hLength
      rw [Text.foldlM_digit?_eq_some_iff, Nat.zero_mul,
        Nat.zero_add] at hGroup
      simp only [isSome_hexDigit?] at hGroup
      rcases hGroup with ⟨hHex, rfl⟩
      simp only [Bool.or_eq_true, List.isEmpty_iff, decide_eq_true_iff,
        not_or, Nat.not_lt] at hLength
      exact ⟨⟨digits, hLength.1, hLength.2, hHex⟩, rfl, rfl⟩
  · intro hGroup
    rcases hGroup with ⟨group, rfl, rfl⟩
    have hLength :
        ¬ (group.digits.isEmpty || 4 < group.digits.length) = true := by
      simp only [Bool.or_eq_true, List.isEmpty_iff, decide_eq_true_iff,
        not_or, Nat.not_lt]
      exact ⟨group.ne_nil, group.length_le⟩
    rw [if_neg hLength, Text.foldlM_digit?_eq_some_iff, Nat.zero_mul,
      Nat.zero_add]
    simp only [isSome_hexDigit?]
    exact ⟨group.isHexDigit, rfl⟩

------------------------------------------------------------
-- Octets And Groups
------------------------------------------------------------

/- Characters of a kind are read as a whole. -/
theorem map_takeWhile_eq_some_iff
    {p : Char → Bool}
    {value? : List Char → Option Nat}
    {cs rest : List Char}
    {n : Nat} :
    (value? (cs.takeWhile p)).map (·, cs.dropWhile p) =
        some (n, rest) ↔
      ∃ part,
        cs = part ++ rest ∧ (∀ c ∈ part, p c = true) ∧ Text.Ends p rest ∧
          value? part = some n := by
  simp only [Option.map_eq_some_iff, Prod.mk.injEq]
  constructor
  · intro hRead
    rcases hRead with ⟨m, hValue, rfl, hDrop⟩
    rcases Text.takeWhile_dropWhile_iff.mp ⟨rfl, hDrop⟩ with
      ⟨hText, hPart, hEnds⟩
    exact ⟨_, hText, hPart, hEnds, hValue⟩
  · intro hParts
    rcases hParts with ⟨part, hText, hPart, hEnds, hValue⟩
    rcases Text.takeWhile_dropWhile_iff.mpr ⟨hText, hPart, hEnds⟩ with
      ⟨rfl, hDrop⟩
    exact ⟨n, hValue, rfl, hDrop⟩

theorem readOctet_eq_some_iff
    {cs rest : List Char}
    {n : Nat} :
    readOctet cs = some (n, rest) ↔
      ∃ octet : Number 255,
        cs = octet.digits ++ rest ∧ n = octet.value ∧
          Text.Ends Char.isDigit rest := by
  simp only [readOctet, map_takeWhile_eq_some_iff, octet?_eq_some_iff]
  constructor
  · intro hRead
    rcases hRead with ⟨_, hText, _, hEnds, octet, rfl, hValue⟩
    exact ⟨octet, hText, hValue, hEnds⟩
  · intro hParts
    rcases hParts with ⟨octet, hText, hValue, hEnds⟩
    exact
      ⟨_, hText, octet.isNumeral.isDigit, hEnds, octet, rfl, hValue⟩

theorem readGroup_eq_some_iff
    {cs rest : List Char}
    {n : Nat} :
    readGroup cs = some (n, rest) ↔
      ∃ group : Group,
        cs = group.digits ++ rest ∧ n = group.value ∧
          Text.Ends isHexDigit rest := by
  simp only [readGroup, isSome_hexDigit?, map_takeWhile_eq_some_iff,
    group?_eq_some_iff]
  constructor
  · intro hRead
    rcases hRead with ⟨_, hText, _, hEnds, group, rfl, hValue⟩
    exact ⟨group, hText, hValue, hEnds⟩
  · intro hParts
    rcases hParts with ⟨group, hText, hValue, hEnds⟩
    exact ⟨_, hText, group.isHexDigit, hEnds, group, rfl, hValue⟩

/- What stands after a separator. -/
theorem readAfter_eq_some_iff
    {α : Type}
    {separator : Char}
    {first : Bool}
    {read : Read α}
    {cs : List Char}
    {result : α × List Char} :
    readAfter separator first read cs = some result ↔
      ∃ text,
        cs = (if first then text else separator :: text) ∧
          read text = some result := by
  unfold readAfter
  cases first with
  | true => simp
  | false =>
      cases cs with
      | nil => simp
      | cons c cs =>
          by_cases hSame : c = separator
          · simp [hSame]
          · simp [hSame]

/- Each octet ends at a point, and the last where the text allows. -/
theorem readQuad_eq_some_iff
    {cs rest : List Char}
    {octets : List Nat} :
    readQuad cs = some (octets, rest) ↔
      ∃ quad : Quad,
        cs = quad.chars ++ rest ∧ octets = quad.octets ∧
          Text.Ends Char.isDigit rest := by
  simp only [readQuad, Option.bind_eq_bind, Option.bind_eq_some_iff,
    Prod.exists, readAfter_eq_some_iff, readOctet_eq_some_iff,
    Bool.false_eq_true, if_false, Option.some.injEq, Prod.mk.injEq]
  constructor
  · intro hRead
    rcases hRead with
      ⟨_, _, ⟨a, rfl, rfl, _⟩, _, _, ⟨_, rfl, b, rfl, rfl, _⟩, _, _,
        ⟨_, rfl, c, rfl, rfl, _⟩, _, _, ⟨_, rfl, d, rfl, rfl, hEnds⟩,
        rfl, rfl⟩
    refine ⟨⟨a, b, c, d⟩, ?_, rfl, hEnds⟩
    simp [Quad.chars]
  · intro hParts
    rcases hParts with ⟨⟨a, b, c, d⟩, rfl, rfl, hEnds⟩
    have hPoint (cs : List Char) : Text.Ends Char.isDigit ('.' :: cs) :=
      Text.ends_cons_iff.mpr rfl
    refine
      ⟨_, _, ⟨a, ?_, rfl, hPoint _⟩, _, _,
        ⟨_, rfl, b, rfl, rfl, hPoint _⟩, _, _,
        ⟨_, rfl, c, rfl, rfl, hPoint _⟩, _, _,
        ⟨_, rfl, d, rfl, rfl, hEnds⟩, rfl, rfl⟩
    simp [Quad.chars]

------------------------------------------------------------
-- Where Groups End
------------------------------------------------------------

/- A text that can follow a group: it begins with a colon, if at all. -/
def Closes
    (rest : List Char) : Prop :=
  ∀ c ∈ rest.head?, c = ':'

/- A text that can follow all groups: nothing or a double colon. -/
def Stops
    (rest : List Char) : Prop :=
  rest = [] ∨ ∃ tail, rest = ':' :: ':' :: tail

theorem closes_cons
    (rest : List Char) :
    Closes (':' :: rest) := by
  simp [Closes]

theorem Closes.ends
    {p : Char → Bool}
    {rest : List Char}
    (hCloses : Closes rest)
    (hColon : p ':' = false) :
    Text.Ends p rest := by
  intro c hHead
  rw [hCloses c hHead]
  exact hColon

theorem Stops.closes
    {rest : List Char}
    (hStops : Stops rest) :
    Closes rest := by
  rcases hStops with rfl | ⟨tail, rfl⟩
  · simp [Closes]
  · exact closes_cons _

/- Each further text has a colon in front. -/
theorem closes_separated
    (texts : List (List Char))
    {rest : List Char}
    (hRest : Closes rest) :
    Closes (separated false texts ++ rest) := by
  cases texts with
  | nil => exact hRest
  | cons text texts => exact closes_cons _

/- Octets are told from groups by the point after the first. -/
theorem readQuad_eq_none
    {digits rest : List Char}
    (hDigits : ∀ c ∈ digits, isHexDigit c = true)
    (hCloses : Closes rest) :
    readQuad (digits ++ rest) = none := by
  rw [Option.eq_none_iff_forall_ne_some]
  intro result hRead
  rcases readQuad_eq_some_iff.mp hRead with ⟨quad, hText, _⟩
  rw [Quad.chars, List.append_assoc, List.cons_append] at hText
  rcases List.append_eq_append_iff.mp hText with
    ⟨more, hFirst, hRest⟩ | ⟨more, hFirst, hRest⟩
  -- The first octet goes on behind the digits, or ends before them.
  · cases more with
    | nil =>
        have hPoint := hCloses '.' (by rw [hRest]; rfl)
        exact absurd hPoint (by decide)
    | cons c more =>
        have hColon := hCloses c (by rw [hRest]; rfl)
        have hDigit := quad.first.isNumeral.isDigit c (by simp [hFirst])
        rw [hColon] at hDigit
        exact absurd hDigit (by decide)
  · cases more with
    | nil =>
        have hPoint := hCloses '.' (by
          rw [List.nil_append] at hRest
          rw [← hRest]
          rfl)
        exact absurd hPoint (by decide)
    | cons c more =>
        rcases List.cons.inj hRest with ⟨rfl, _⟩
        have hHex := hDigits '.' (by simp [hFirst])
        exact absurd hHex (by decide)

/- There is no group where a group can end. -/
theorem readGroup_eq_none
    {rest : List Char}
    (hCloses : Closes rest) :
    readGroup rest = none := by
  rw [Option.eq_none_iff_forall_ne_some]
  intro result hRead
  rcases readGroup_eq_some_iff.mp hRead with ⟨group, rfl, _⟩
  cases hDigits : group.digits with
  | nil => exact group.ne_nil hDigits
  | cons c digits =>
      have hColon := hCloses c (by rw [hDigits]; rfl)
      have hHex := group.isHexDigit c (by simp [hDigits])
      rw [hColon] at hHex
      exact absurd hHex (by decide)

------------------------------------------------------------
-- Runs Of Groups
------------------------------------------------------------

theorem separated_cons_append
    (first : Bool)
    (text : List Char)
    (texts : List (List Char))
    (rest : List Char) :
    separated first (text :: texts) ++ rest =
      if first then text ++ (separated false texts ++ rest)
      else ':' :: (text ++ (separated false texts ++ rest)) := by
  cases first with
  | true => exact List.append_assoc _ _ _
  | false => exact congrArg (':' :: ·) (List.append_assoc _ _ _)

/- The first of the texts is read where they begin. -/
theorem readAfter_separated
    {α : Type}
    (first : Bool)
    (read : Read α)
    (text : List Char)
    (texts : List (List Char))
    (rest : List Char) :
    readAfter ':' first read
        (separated first (text :: texts) ++ rest) =
      read (text ++ (separated false texts ++ rest)) := by
  rw [separated_cons_append]
  cases first with
  | true => rfl
  | false => simp [readAfter]

/- Nothing is read where all groups have ended. -/
theorem readAfter_eq_none
    {α : Type}
    {first : Bool}
    {read : Read α}
    {rest : List Char}
    (hNone : ∀ cs, Closes cs → read cs = none)
    (hStops : Stops rest) :
    readAfter ':' first read rest = none := by
  cases first with
  | true => exact hNone rest hStops.closes
  | false =>
      rcases hStops with rfl | ⟨tail, rfl⟩
      · rfl
      · simpa [readAfter] using hNone _ (closes_cons tail)

theorem Run.length_values
    (run : Run) :
    run.values.length = run.width := by
  rcases run with ⟨groups, quad⟩
  cases quad with
  | none => simp [values, width]
  | some quad => simp [values, width, quadGroups, Quad.octets]

/- Whatever is read as groups is a run of them. -/
theorem exists_run_of_readGroups
    {first embedded : Bool}
    {left : Nat}
    {cs rest : List Char}
    {values : List Nat}
    (hRead : readGroups first left cs = ((values, embedded), rest)) :
    ∃ run : Run,
      cs = separated first run.texts ++ rest ∧
        values = run.values ∧
        embedded = run.quad.isSome ∧
        run.width ≤ left := by
  induction left generalizing first cs values embedded rest with
  | zero =>
      cases hRead
      exact ⟨⟨[], none⟩, rfl, rfl, rfl, Nat.le_refl 0⟩
  | succ left ih =>
      unfold readGroups at hRead
      dsimp only at hRead
      split at hRead
      · rename_i octets tail hQuad
        cases hRead
        split at hQuad
        · cases hQuad
        · rename_i hLeft
          rcases readAfter_eq_some_iff.mp hQuad with
            ⟨text, rfl, hOctets⟩
          rcases readQuad_eq_some_iff.mp hOctets with
            ⟨quad, rfl, rfl, _⟩
          refine ⟨⟨[], some quad⟩, ?_, rfl, rfl, ?_⟩
          · exact (separated_cons_append first quad.chars [] rest).symm
          · change 0 + 2 * 1 ≤ left + 1
            omega
      · split at hRead
        · rename_i value tail hGroup
          generalize hTail :
            readGroups false left tail = result at hRead
          rcases result with ⟨⟨others, _⟩, _⟩
          cases hRead
          rcases readAfter_eq_some_iff.mp hGroup with
            ⟨text, rfl, hDigits⟩
          rcases readGroup_eq_some_iff.mp hDigits with
            ⟨group, rfl, rfl, _⟩
          rcases ih hTail with ⟨run, hText, hValues, hQuad, hWidth⟩
          refine ⟨⟨group :: run.groups, run.quad⟩, ?_, ?_, hQuad, ?_⟩
          · rw [hText]
            exact (separated_cons_append first _ _ _).symm
          · rw [hValues]
            rfl
          · simp only [Run.width, List.length_cons] at hWidth ⊢
            omega
        · cases hRead
          exact ⟨⟨[], none⟩, rfl, rfl, rfl, Nat.zero_le _⟩

/- Nothing is read where no group can follow. -/
theorem readGroups_of_stops
    {first : Bool}
    {left : Nat}
    {rest : List Char}
    (hStops : Stops rest) :
    readGroups first left rest = (([], false), rest) := by
  cases left with
  | zero => rfl
  | succ left =>
      have hQuad : readAfter ':' first readQuad rest = none := by
        apply readAfter_eq_none _ hStops
        intro cs hCloses
        exact readQuad_eq_none (List.forall_mem_nil _) hCloses
      have hGroup : readAfter ':' first readGroup rest = none :=
        readAfter_eq_none (fun _ => readGroup_eq_none) hStops
      simp [readGroups, hQuad, hGroup]

/- Octets end the groups. -/
theorem readGroups_quad
    {first : Bool}
    {left : Nat}
    {rest : List Char}
    (quad : Quad)
    (hLeft : 2 ≤ left)
    (hStops : Stops rest) :
    readGroups first left (separated first [quad.chars] ++ rest) =
      ((quadGroups quad.octets, true), rest) := by
  have hQuad :
      readAfter ':' first readQuad
          (separated first [quad.chars] ++ rest) =
        some (quad.octets, rest) := by
    rw [readAfter_separated, readQuad_eq_some_iff]
    exact ⟨quad, rfl, rfl, hStops.closes.ends rfl⟩
  cases left with
  | zero => omega
  | succ left =>
      have hRoom : left ≠ 0 := by
        omega
      simp [readGroups, hRoom, hQuad]

/- A group is read before the groups that follow it. -/
theorem readGroups_cons
    {first : Bool}
    {left : Nat}
    {texts : List (List Char)}
    {rest tail : List Char}
    {values : List Nat}
    {embedded : Bool}
    (group : Group)
    (hRest : Closes rest)
    (hTail :
      readGroups false left (separated false texts ++ rest) =
        ((values, embedded), tail)) :
    readGroups first (left + 1)
        (separated first (group.digits :: texts) ++ rest) =
      ((group.value :: values, embedded), tail) := by
  have hCloses := closes_separated texts hRest
  have hQuad :
      readAfter ':' first readQuad
          (separated first (group.digits :: texts) ++ rest) =
        none := by
    rw [readAfter_separated]
    exact readQuad_eq_none group.isHexDigit hCloses
  have hGroup :
      readAfter ':' first readGroup
          (separated first (group.digits :: texts) ++ rest) =
        some (group.value, separated false texts ++ rest) := by
    rw [readAfter_separated, readGroup_eq_some_iff]
    exact ⟨group, rfl, rfl, hCloses.ends rfl⟩
  simp [readGroups, hQuad, hGroup, hTail]

/- A run is read to its end, if there is room for it. -/
theorem readGroups_chars
    {left : Nat}
    {rest : List Char}
    (first : Bool)
    (run : Run)
    (hWidth : run.width ≤ left)
    (hStops : Stops rest) :
    readGroups first left (separated first run.texts ++ rest) =
      ((run.values, run.quad.isSome), rest) := by
  rcases run with ⟨groups, quad⟩
  induction groups generalizing first left with
  | nil =>
      cases quad with
      | none => exact readGroups_of_stops hStops
      | some quad =>
          have hLeft : 2 ≤ left := by
            simpa [Run.width] using hWidth
          exact readGroups_quad quad hLeft hStops
  | cons group groups ih =>
      simp only [Run.width, List.length_cons] at hWidth ih
      cases left with
      | zero => omega
      | succ left =>
          have hRoom :
              groups.length + 2 * quad.toList.length ≤ left := by
            omega
          exact readGroups_cons group hStops.closes (ih false hRoom)

------------------------------------------------------------
-- Addresses
------------------------------------------------------------

/- Groups at the beginning are not taken for octets. -/
theorem readQuad_separated
    {groups : List Group}
    {texts : List (List Char)}
    {rest : List Char}
    (hFirst : groups = [] → texts = [])
    (hRest : Closes rest) :
    readQuad
        (separated true (groups.map Group.digits ++ texts) ++ rest) =
      none := by
  cases groups with
  | nil =>
      rw [hFirst rfl]
      exact readQuad_eq_none (List.forall_mem_nil _) hRest
  | cons group groups =>
      rw [List.map_cons, List.cons_append, separated_cons_append,
        if_pos rfl]
      exact readQuad_eq_none group.isHexDigit (closes_separated _ hRest)

/- All groups are read if eight are written. -/
theorem readV6_full
    {run : Run}
    (hWidth : run.width = 8) :
    readV6 run.chars = some (run.values, []) := by
  have hRead :=
    readGroups_chars true run (Nat.le_of_eq hWidth) (Or.inl rfl)
  have hLength : run.values.length = 8 := by
    rw [run.length_values, hWidth]
  rw [List.append_nil] at hRead
  simp [readV6, Run.chars, hRead, hLength]

/- The groups before and after a double colon are read apart. -/
theorem readV6_elided
    {head : List Group}
    {tail : Run}
    (hWidth : head.length + tail.width ≤ 7) :
    readV6
        (separated true (head.map Group.digits) ++
          ':' :: ':' :: tail.chars) =
      some
        (head.map Group.value ++
          List.replicate (8 - head.length - tail.width) 0 ++
          tail.values,
        []) := by
  have hHead :
      readGroups true 8
          (separated true (head.map Group.digits) ++
            ':' :: ':' :: tail.chars) =
        ((head.map Group.value, false), ':' :: ':' :: tail.chars) := by
    have hRoom : (Run.mk head none).width ≤ 8 := by
      simp only [Run.width, Option.toList_none, List.length_nil]
      omega
    have hRead :=
      readGroups_chars true ⟨head, none⟩ hRoom
        (Or.inr ⟨tail.chars, rfl⟩)
    simpa [Run.texts, Run.values] using hRead
  have hTail :
      readGroups true (7 - head.length) tail.chars =
        ((tail.values, tail.quad.isSome), []) := by
    have hRead :=
      readGroups_chars true tail (Nat.le_sub_of_add_le' hWidth)
        (Or.inl rfl)
    rwa [List.append_nil] at hRead
  have hShort : head.length ≠ 8 := by
    omega
  simp [readV6, hHead, hTail, hShort, tail.length_values]

/- Whatever is read as groups to its end is a written address. -/
theorem exists_written_of_readV6
    {cs : List Char}
    {groups : List Nat}
    (hRead : readV6 cs = some (groups, [])) :
    ∃ written : Written,
      cs = written.chars ∧ .v6 groups = written.address := by
  unfold readV6 at hRead
  dsimp only at hRead
  generalize hHead : readGroups true 8 cs = result at hRead
  rcases result with ⟨⟨values, embedded⟩, rest⟩
  rcases exists_run_of_readGroups hHead with
    ⟨⟨head, quad⟩, rfl, rfl, rfl, hRoom⟩
  dsimp only at hRead
  rw [Run.length_values] at hRead
  split at hRead
  · rename_i hWidth
    cases hRead
    exact ⟨.full ⟨head, quad⟩ hWidth, List.append_nil _, rfl⟩
  · rename_i hShort
    cases quad with
    | some quad => cases hRead
    | none =>
        rw [if_neg (by simp)] at hRead
        split at hRead
        · rename_i rest
          generalize hTail :
            readGroups true (7 - Run.width ⟨head, none⟩) rest =
              result at hRead
          rcases result with ⟨⟨values, embedded⟩, rest⟩
          rcases exists_run_of_readGroups hTail with
            ⟨tail, rfl, rfl, rfl, hLeft⟩
          cases hRead
          change head.length ≤ 8 at hRoom
          change head.length ≠ 8 at hShort
          change tail.width ≤ 7 - head.length at hLeft
          have hWidth : head.length + tail.width ≤ 7 := by
            omega
          refine ⟨.elided head tail hWidth, ?_, ?_⟩
          · simp [Written.chars, Run.texts, Run.chars]
          · rw [tail.length_values, Written.address]
            simp [Run.values, Run.width]
        · cases hRead

/- Groups are not taken for octets, and are read from end to end. -/
theorem address?_chars
    (written : Written) :
    address? written.chars = some written.address := by
  cases written with
  | octets quad =>
      have hQuad : readQuad quad.chars = some (quad.octets, []) :=
        readQuad_eq_some_iff.mpr
          ⟨quad, (List.append_nil _).symm, rfl, Text.ends_nil _⟩
      simp [address?, Written.chars, Written.address, hQuad]
  | full run hWidth =>
      have hQuad : readQuad run.chars = none := by
        rw [← List.append_nil run.chars]
        apply readQuad_separated _ (Stops.closes (Or.inl rfl))
        -- Octets alone are too few for an address of groups.
        intro hGroups
        cases hLast : run.quad with
        | none => rfl
        | some quad => simp [Run.width, hGroups, hLast] at hWidth
      simp [address?, Written.chars, Written.address, hQuad,
        readV6_full hWidth]
  | elided head tail hWidth =>
      have hQuad :
          readQuad
              (separated true (head.map Group.digits) ++
                ':' :: ':' :: tail.chars) =
            none := by
        rw [← List.append_nil (head.map Group.digits)]
        exact readQuad_separated (fun _ => rfl) (closes_cons _)
      simp [address?, Written.chars, Written.address, hQuad,
        readV6_elided hWidth]

/- The texts that are read as addresses are those that are written. -/
theorem address?_eq_some_iff
    {cs : List Char}
    {address : Address} :
    address? cs = some address ↔
      ∃ written : Written,
        cs = written.chars ∧ address = written.address := by
  constructor
  · intro hAddress
    unfold address? at hAddress
    split at hAddress
    · rename_i octets hQuad
      cases hAddress
      rcases readQuad_eq_some_iff.mp hQuad with ⟨quad, rfl, rfl, _⟩
      exact ⟨.octets quad, List.append_nil _, rfl⟩
    · cases hAddress
    · split at hAddress
      · rename_i hRead
        cases hAddress
        exact exists_written_of_readV6 hRead
      · cases hAddress
  · intro hWritten
    rcases hWritten with ⟨written, rfl, rfl⟩
    exact address?_chars written

end IpAddr

end PolicyCheck
