import PolicyCheck.Proofs.Numerals

/-
  Patterns of texts, with groups whose parts of the text are
  captured. A pattern can match a text in several ways; what
  is said of a scanner is said of all of them. No group is
  used in a part that is repeated, so each is captured once.

  Main declarations:
    * `Text.Pattern`
    * `Text.Pattern.Matches`
    * `Text.Pattern.matches_digits_iff`
    * `Text.Pattern.matches_word_iff`
    * `Text.Pattern.matches_afterSign_iff`
-/

namespace PolicyCheck

namespace Text

------------------------------------------------------------
-- Patterns
------------------------------------------------------------

/-
  A pattern: nothing, a character of a class, one pattern
  after another, a pattern that may be left out, one that is
  repeated once or more, or a group of a number.
-/
inductive Pattern where
  | nothing
  | one (allows : Char → Bool)
  | seq (first second : Pattern)
  | opt (inner : Pattern)
  | plus (inner : Pattern)
  | group (number : Nat) (inner : Pattern)

/- What the groups of a pattern capture, in the order of the groups. -/
abbrev Captures :=
  List (Nat × List Char)

/-
  `pattern.Matches cs captures` means that the whole of a
  text can be matched so that the groups capture these parts.
-/
inductive Pattern.Matches :
    Pattern → List Char → Captures → Prop where
  | nothing : Matches .nothing [] []
  | one
      {allows : Char → Bool}
      {c : Char}
      (hAllows : allows c = true) :
      Matches (.one allows) [c] []
  | seq
      {first second : Pattern}
      {cs ds : List Char}
      {captures others : Captures}
      (hFirst : Matches first cs captures)
      (hSecond : Matches second ds others) :
      Matches (.seq first second) (cs ++ ds) (captures ++ others)
  | leave {inner : Pattern} : Matches (.opt inner) [] []
  | take
      {inner : Pattern}
      {cs : List Char}
      {captures : Captures}
      (hInner : Matches inner cs captures) :
      Matches (.opt inner) cs captures
  | once
      {inner : Pattern}
      {cs : List Char}
      {captures : Captures}
      (hInner : Matches inner cs captures) :
      Matches (.plus inner) cs captures
  | again
      {inner : Pattern}
      {cs ds : List Char}
      {captures others : Captures}
      (hInner : Matches inner cs captures)
      (hMore : Matches (.plus inner) ds others) :
      Matches (.plus inner) (cs ++ ds) (captures ++ others)
  | group
      {number : Nat}
      {inner : Pattern}
      {cs : List Char}
      {captures : Captures}
      (hInner : Matches inner cs captures) :
      Matches (.group number inner) cs ((number, cs) :: captures)

namespace Pattern

/- One character and no other. -/
def char
    (c : Char) : Pattern :=
  .one (· = c)

/- Characters one after the other. -/
def word
    (cs : List Char) : Pattern :=
  cs.foldr (fun c rest => .seq (.char c) rest) .nothing

/- One or more characters of a class. -/
def digits
    (allows : Char → Bool) : Pattern :=
  .plus (.one allows)

/- A pattern after a minus sign, which may be left out. -/
def afterSign
    (pattern : Pattern) : Pattern :=
  .seq (.opt (.char '-')) pattern

------------------------------------------------------------
-- Matches
------------------------------------------------------------

variable {pattern first second : Pattern} {allows : Char → Bool}
variable {cs : List Char} {captures : Captures}

theorem matches_nothing_iff :
    nothing.Matches cs captures ↔ cs = [] ∧ captures = [] := by
  constructor
  · intro hMatches
    cases hMatches with
    | nothing => exact ⟨rfl, rfl⟩
  · intro hNone
    rcases hNone with ⟨rfl, rfl⟩
    exact .nothing

theorem matches_one_iff :
    (one allows).Matches cs captures ↔
      ∃ c, allows c = true ∧ cs = [c] ∧ captures = [] := by
  constructor
  · intro hMatches
    cases hMatches with
    | one hAllows => exact ⟨_, hAllows, rfl, rfl⟩
  · intro hOne
    rcases hOne with ⟨c, hAllows, rfl, rfl⟩
    exact .one hAllows

theorem matches_seq_iff :
    (seq first second).Matches cs captures ↔
      ∃ left right before after,
        first.Matches left before ∧ second.Matches right after ∧
          cs = left ++ right ∧ captures = before ++ after := by
  constructor
  · intro hMatches
    cases hMatches with
    | seq hFirst hSecond =>
        exact ⟨_, _, _, _, hFirst, hSecond, rfl, rfl⟩
  · intro hParts
    rcases hParts with
      ⟨left, right, before, after, hFirst, hSecond, rfl, rfl⟩
    exact .seq hFirst hSecond

theorem matches_opt_iff :
    (opt pattern).Matches cs captures ↔
      (cs = [] ∧ captures = []) ∨ pattern.Matches cs captures := by
  constructor
  · intro hMatches
    cases hMatches with
    | leave => exact Or.inl ⟨rfl, rfl⟩
    | take hInner => exact Or.inr hInner
  · intro hChoice
    rcases hChoice with ⟨rfl, rfl⟩ | hInner
    · exact .leave
    · exact .take hInner

theorem matches_group_iff
    {number : Nat} :
    (group number pattern).Matches cs captures ↔
      ∃ inner,
        pattern.Matches cs inner ∧ captures = (number, cs) :: inner := by
  constructor
  · intro hMatches
    cases hMatches with
    | group hInner => exact ⟨_, hInner, rfl⟩
  · intro hGroup
    rcases hGroup with ⟨inner, hInner, rfl⟩
    exact .group hInner

------------------------------------------------------------
-- Parts Of Literals
------------------------------------------------------------

/- A character in front of a pattern. -/
theorem matches_char_seq_iff
    {c : Char} :
    (seq (char c) pattern).Matches cs captures ↔
      ∃ rest, pattern.Matches rest captures ∧ cs = c :: rest := by
  simp only [matches_seq_iff, char, matches_one_iff,
    decide_eq_true_eq]
  constructor
  · intro hParts
    rcases hParts with
      ⟨_, rest, _, _, ⟨_, rfl, rfl, rfl⟩, hRest, rfl, rfl⟩
    exact ⟨rest, hRest, rfl⟩
  · intro hParts
    rcases hParts with ⟨rest, hRest, rfl⟩
    exact ⟨_, rest, _, _, ⟨c, rfl, rfl, rfl⟩, hRest, rfl, rfl⟩

/- Characters one after the other match themselves. -/
theorem matches_word_iff
    {text : List Char} :
    (word text).Matches cs captures ↔ cs = text ∧ captures = [] := by
  induction text generalizing cs captures with
  | nil => exact matches_nothing_iff
  | cons c text ih =>
      have hCons :
          word (c :: text) = .seq (.char c) (word text) := rfl
      rw [hCons, matches_char_seq_iff]
      simp only [ih]
      constructor
      · intro hParts
        rcases hParts with ⟨_, ⟨rfl, rfl⟩, rfl⟩
        exact ⟨rfl, rfl⟩
      · intro hSame
        rcases hSame with ⟨rfl, rfl⟩
        exact ⟨text, ⟨rfl, rfl⟩, rfl⟩

/- One or more characters of a class, and nothing is captured. -/
theorem matches_digits_iff :
    (digits allows).Matches cs captures ↔
      (cs ≠ [] ∧ ∀ c ∈ cs, allows c = true) ∧ captures = [] := by
  constructor
  · intro hMatches
    generalize hPattern : digits allows = pattern at hMatches
    induction hMatches with
    | once hInner =>
        cases hPattern
        rcases matches_one_iff.mp hInner with ⟨c, hAllows, rfl, rfl⟩
        simp [hAllows]
    | again hInner _ _ ih =>
        cases hPattern
        rcases matches_one_iff.mp hInner with ⟨c, hAllows, rfl, rfl⟩
        rcases ih rfl with ⟨⟨_, hRest⟩, rfl⟩
        simpa [hAllows] using hRest
    | _ => cases hPattern
  · intro hDigits
    rcases hDigits with ⟨⟨hSome, hAll⟩, rfl⟩
    induction cs with
    | nil => exact absurd rfl hSome
    | cons c rest ih =>
        rw [List.forall_mem_cons] at hAll
        by_cases hLast : rest = []
        · rw [hLast]
          exact .once (.one hAll.1)
        · exact .again (.one hAll.1) (ih hLast hAll.2)

/- A group of them is captured as a whole. -/
theorem matches_group_digits_iff
    {number : Nat} :
    (group number (digits allows)).Matches cs captures ↔
      (cs ≠ [] ∧ ∀ c ∈ cs, allows c = true) ∧
        captures = [(number, cs)] := by
  simp only [matches_group_iff, matches_digits_iff]
  constructor
  · intro hGroup
    rcases hGroup with ⟨_, ⟨hDigits, rfl⟩, rfl⟩
    exact ⟨hDigits, rfl⟩
  · intro hGroup
    rcases hGroup with ⟨hDigits, rfl⟩
    exact ⟨[], ⟨hDigits, rfl⟩, rfl⟩

/- A sign is not captured. -/
theorem matches_afterSign_iff :
    (afterSign pattern).Matches cs captures ↔
      ∃ negative rest,
        pattern.Matches rest captures ∧ cs = signed negative rest := by
  simp only [afterSign, matches_seq_iff, matches_opt_iff, char,
    matches_one_iff, decide_eq_true_eq]
  constructor
  · intro hParts
    rcases hParts with
      ⟨_, rest, _, _, ⟨rfl, rfl⟩ | ⟨_, rfl, rfl, rfl⟩, hRest, hText,
        hCaptures⟩
    · exact ⟨false, rest, hCaptures ▸ hRest, hText⟩
    · exact ⟨true, rest, hCaptures ▸ hRest, hText⟩
  · intro hParts
    rcases hParts with ⟨negative, rest, hRest, rfl⟩
    cases negative with
    | false =>
        exact ⟨[], rest, [], _, Or.inl ⟨rfl, rfl⟩, hRest, rfl, rfl⟩
    | true =>
        exact
          ⟨['-'], rest, [], _, Or.inr ⟨_, rfl, rfl, rfl⟩, hRest, rfl,
            rfl⟩

end Pattern

end Text

end PolicyCheck
