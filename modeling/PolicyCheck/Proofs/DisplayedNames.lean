import PolicyCheck.Name
import PolicyCheck.Proofs.Numerals

/-
  Displayed identifiers can be told apart. A character is
  shown as itself, by a short name after a backslash, or by
  its code point, and how it is shown says which it is. In a
  shown text every quote has a backslash in front, so the
  quote after a separator is where the id begins, whatever
  the type looks like.

  Main declarations:
    * `Text.Shows`
    * `Text.Shows.unique`
    * `Text.ShowsText`
    * `Text.escapeChars_shows`
    * `Text.ShowsText.unique`
    * `Text.ShowsText.backslash_of_quote`
    * `Text.escapeChars_injective`
    * `EntityUid.display_injective`
    * `PolicyId.display_injective`
    * `displayed_identifiers_unambiguous`
-/

namespace PolicyCheck

namespace Text

------------------------------------------------------------
-- Characters
------------------------------------------------------------

/- Characters with a short escape, and what names them there. -/
def shortEscapes : List (Char × Char) :=
  [('\x00', '0'), ('\t', 't'), ('\r', 'r'), ('\n', 'n'), ('\\', '\\'),
    ('"', '"'), ('\'', '\'')]

/-
  The ways to show a character. An extending character can be
  shown in two of them.
-/
inductive Shows : Char → List Char → Prop where
  | plain {c : Char} (hBackslash : c ≠ '\\') (hQuote : c ≠ '"') :
      Shows c [c]
  | short {c name : Char} (hMem : (c, name) ∈ shortEscapes) :
      Shows c ['\\', name]
  | codePoint (c : Char) :
      Shows c (codePointEscape c)

/- An escaped character is shown in one of the ways. -/
theorem escapeChar_shows
    (escapeExtending : Bool)
    (c : Char) :
    Shows c (escapeChar .identifier escapeExtending c) := by
  by_cases hShort : ∃ name, (c, name) ∈ shortEscapes
  · rcases hShort with ⟨name, hMem⟩
    have hEscape :
        escapeChar .identifier escapeExtending c = ['\\', name] := by
      simp only [shortEscapes, List.mem_cons, Prod.mk.injEq,
        List.not_mem_nil, or_false] at hMem
      rcases hMem with ⟨rfl, rfl⟩ | ⟨rfl, rfl⟩ | ⟨rfl, rfl⟩ |
        ⟨rfl, rfl⟩ | ⟨rfl, rfl⟩ | ⟨rfl, rfl⟩ | ⟨rfl, rfl⟩ <;> rfl
    rw [hEscape]
    exact .short hMem
  · have hOthers :
        c ≠ '\x00' ∧ c ≠ '\t' ∧ c ≠ '\r' ∧ c ≠ '\n' ∧ c ≠ '\\' ∧
          c ≠ '"' ∧ c ≠ '\'' := by
      simpa [shortEscapes, exists_or] using hShort
    rcases hOthers with
      ⟨hNul, hTab, hReturn, hLine, hBackslash, hQuote, hApostrophe⟩
    rw [escapeChar, if_neg hNul, if_neg hTab, if_neg hReturn,
      if_neg hLine, if_neg hBackslash, if_neg hQuote,
      if_neg hApostrophe]
    split
    · exact .codePoint c
    · split
      · exact .plain hBackslash hQuote
      · exact .codePoint c

/- Short escapes have different names, none of which is `u`. -/
theorem eq_of_shortEscapes
    {c d name : Char}
    (hFirst : (c, name) ∈ shortEscapes)
    (hSecond : (d, name) ∈ shortEscapes) :
    c = d := by
  have hNames :
      ∀ first ∈ shortEscapes, ∀ second ∈ shortEscapes,
        first.2 = second.2 → first.1 = second.1 := by
    decide
  exact hNames _ hFirst _ hSecond rfl

theorem ne_of_shortEscapes
    {c name : Char}
    (hMem : (c, name) ∈ shortEscapes) :
    name ≠ 'u' := by
  have hNames : ∀ short ∈ shortEscapes, short.2 ≠ 'u' := by
    decide
  exact hNames _ hMem

------------------------------------------------------------
-- Code Points
------------------------------------------------------------

/- The digits of a number of base sixteen stand for less than that. -/
theorem exists_of_mem_toDigits
    {n : Nat}
    {c : Char}
    (hMem : c ∈ Nat.toDigits 16 n) :
    ∃ d < 16, c = Nat.digitChar d := by
  induction n using Nat.strong_induction_on with
  | h n ih =>
      rw [Nat.toDigits_eq_if (by omega)] at hMem
      split at hMem
      · rename_i hSmall
        exact ⟨n, hSmall, List.mem_singleton.mp hMem⟩
      · rename_i hLarge
        rcases List.mem_append.mp hMem with hHigh | hLow
        · exact ih (n / 16) (by omega) hHigh
        · exact
            ⟨n % 16, Nat.mod_lt n (by omega),
              List.mem_singleton.mp hLow⟩

/- Neither the end of an escape nor a quote is such a digit. -/
theorem notMem_toDigits
    {n : Nat}
    {c : Char}
    (hOther : c = '\x7d' ∨ c = '"') :
    c ∉ Nat.toDigits 16 n := by
  intro hMem
  have hDigits :
      ∀ d < 16, Nat.digitChar d ≠ '\x7d' ∧ Nat.digitChar d ≠ '"' := by
    decide
  rcases exists_of_mem_toDigits hMem with ⟨d, hLt, rfl⟩
  rcases hOther with hEnd | hQuote
  · exact (hDigits d hLt).1 hEnd
  · exact (hDigits d hLt).2 hQuote

/- A number is known by its digits. -/
theorem toDigits_injective
    {n m : Nat}
    (hSame : Nat.toDigits 16 n = Nat.toDigits 16 m) :
    n = m := by
  have hChar :
      ∀ a < 16, ∀ b < 16,
        Nat.digitChar a = Nat.digitChar b → a = b := by
    decide
  have hDigits (k : Nat) :
      Nat.toDigits 16 k =
        if k < 16 then [Nat.digitChar k]
        else Nat.toDigits 16 (k / 16) ++ [Nat.digitChar (k % 16)] :=
    Nat.toDigits_eq_if (by omega)
  induction n using Nat.strong_induction_on generalizing m with
  | h n ih =>
      rw [hDigits n, hDigits m] at hSame
      split at hSame
      · rename_i hSmall
        split at hSame
        · rename_i hOther
          exact hChar n hSmall m hOther (List.cons.inj hSame).1
        · rcases List.append_eq_singleton_iff.mp hSame.symm with
            hParts | hParts
          · exact absurd hParts.1 Nat.toDigits_ne_nil
          · cases hParts.2
      · rename_i hLarge
        split at hSame
        · rcases List.append_eq_singleton_iff.mp hSame with
            hParts | hParts
          · exact absurd hParts.1 Nat.toDigits_ne_nil
          · cases hParts.2
        · rcases List.append_inj' hSame rfl with ⟨hHigh, hLow⟩
          have hQuotient := ih (n / 16) (by omega) hHigh
          have hRemainder :=
            hChar (n % 16) (Nat.mod_lt n (by omega)) (m % 16)
              (Nat.mod_lt m (by omega)) (List.cons.inj hLow).1
          omega

/- Code points are known by their escapes, wherever these end. -/
theorem eq_of_codePointEscape
    {c d : Char}
    {rest other : List Char}
    (hSame :
      codePointEscape c ++ rest = codePointEscape d ++ other) :
    c = d ∧ rest = other := by
  have hDigits :
      Nat.toDigits 16 c.toNat ++ '\x7d' :: rest =
        Nat.toDigits 16 d.toNat ++ '\x7d' :: other := by
    simpa [codePointEscape] using hSame
  have hCut (n : Nat) (cs : List Char) :
      (Nat.toDigits 16 n ++ '\x7d' :: cs).takeWhile (· ≠ '\x7d') =
          Nat.toDigits 16 n ∧
        (Nat.toDigits 16 n ++ '\x7d' :: cs).dropWhile (· ≠ '\x7d') =
          '\x7d' :: cs := by
    refine takeWhile_dropWhile_iff.mpr ⟨rfl, ?_, ends_cons_iff.mpr rfl⟩
    intro e hMem
    apply decide_eq_true
    intro hEnd
    rw [hEnd] at hMem
    exact notMem_toDigits (Or.inl rfl) hMem
  rcases hCut c.toNat rest with ⟨hTake, hDrop⟩
  rw [hDigits] at hTake hDrop
  rcases hCut d.toNat other with ⟨hOtherTake, hOtherDrop⟩
  rw [hOtherTake] at hTake
  rw [hOtherDrop] at hDrop
  constructor
  · exact Char.toNat_inj.mp (toDigits_injective hTake.symm)
  · exact (List.cons.inj hDrop).2.symm

/- How a character is shown says which it is, and where it ends. -/
theorem Shows.unique
    {c d : Char}
    {unit other rest more : List Char}
    (hFirst : Shows c unit)
    (hSecond : Shows d other)
    (hSame : unit ++ rest = other ++ more) :
    c = d ∧ rest = more := by
  cases hFirst with
  | plain hBackslash hQuote =>
      cases hSecond with
      | plain _ _ => exact List.cons.inj hSame
      | short _ => exact absurd (List.cons.inj hSame).1 hBackslash
      | codePoint => exact absurd (List.cons.inj hSame).1 hBackslash
  | short hMem =>
      cases hSecond with
      | plain hBackslash _ =>
          exact absurd (List.cons.inj hSame).1.symm hBackslash
      | short hOther =>
          rcases List.cons.inj (List.cons.inj hSame).2 with
            ⟨rfl, hRest⟩
          exact ⟨eq_of_shortEscapes hMem hOther, hRest⟩
      | codePoint =>
          exact
            absurd (List.cons.inj (List.cons.inj hSame).2).1
              (ne_of_shortEscapes hMem)
  | codePoint =>
      cases hSecond with
      | plain hBackslash _ =>
          exact absurd (List.cons.inj hSame).1.symm hBackslash
      | short hOther =>
          exact
            absurd (List.cons.inj (List.cons.inj hSame).2).1.symm
              (ne_of_shortEscapes hOther)
      | codePoint => exact eq_of_codePointEscape hSame

------------------------------------------------------------
-- Texts
------------------------------------------------------------

/- A text is shown character by character. -/
inductive ShowsText : List Char → List Char → Prop where
  | nil : ShowsText [] []
  | cons {c : Char} {cs unit text : List Char}
      (hUnit : Shows c unit) (hText : ShowsText cs text) :
      ShowsText (c :: cs) (unit ++ text)

theorem flatMap_escapeChar_shows
    (escapeExtending : Bool)
    (cs : List Char) :
    ShowsText cs
      (cs.flatMap (escapeChar .identifier escapeExtending)) := by
  induction cs with
  | nil => exact .nil
  | cons c cs ih => exact .cons (escapeChar_shows _ c) ih

/- An escaped text is one that is shown. -/
theorem escapeChars_shows
    (cs : List Char) :
    ShowsText cs (escapeChars .identifier cs) := by
  cases cs with
  | nil => exact .nil
  | cons c cs =>
      exact
        .cons (escapeChar_shows true c) (flatMap_escapeChar_shows _ cs)

theorem Shows.ne_nil
    {c : Char}
    {unit : List Char}
    (hShows : Shows c unit) :
    unit ≠ [] := by
  cases hShows <;> simp [codePointEscape]

/- The only quote that is shown stands after a backslash. -/
theorem Shows.backslash_of_quote
    {c : Char}
    {unit before after : List Char}
    (hShows : Shows c unit)
    (hUnit : unit = before ++ '"' :: after) :
    before.getLast? = some '\\' := by
  cases hShows with
  | plain hBackslash hQuote =>
      cases before with
      | nil => exact absurd (List.cons.inj hUnit).1 hQuote
      | cons d before => simp at hUnit
  | short hMem =>
      cases before with
      | nil => simp at hUnit
      | cons d before =>
          rcases List.cons.inj hUnit with ⟨rfl, hName⟩
          cases before with
          | nil => rfl
          | cons e before => simp at hName
  | codePoint =>
      have hQuote : '"' ∈ codePointEscape c := by
        simp [hUnit]
      simp [codePointEscape, notMem_toDigits] at hQuote

namespace ShowsText

/- How a text is shown says which it is. -/
theorem unique
    {cs ds text : List Char}
    (hFirst : ShowsText cs text)
    (hSecond : ShowsText ds text) :
    cs = ds := by
  induction hFirst generalizing ds with
  | nil =>
      generalize hEmpty : ([] : List Char) = text at hSecond
      cases hSecond with
      | nil => rfl
      | cons hUnit hText =>
          exact
            absurd (List.append_eq_nil_iff.mp hEmpty.symm).1
              hUnit.ne_nil
  | @cons c cs unit text hUnit hText ih =>
      generalize hWhole : unit ++ text = whole at hSecond
      cases hSecond with
      | nil =>
          exact
            absurd (List.append_eq_nil_iff.mp hWhole).1 hUnit.ne_nil
      | cons hOther hRest =>
          rcases hUnit.unique hOther hWhole with ⟨rfl, rfl⟩
          rw [ih hRest]

/- A quote in a shown text has a backslash in front. -/
theorem backslash_of_quote
    {cs before after : List Char}
    (hShows : ShowsText cs (before ++ '"' :: after)) :
    before.getLast? = some '\\' := by
  generalize hWhole : before ++ '"' :: after = whole at hShows
  induction hShows generalizing before with
  | nil => simp at hWhole
  | @cons c cs unit text hUnit hText ih =>
      rcases List.append_eq_append_iff.mp hWhole with
        ⟨part, hLonger, hRest⟩ | ⟨part, hLonger, hRest⟩
      -- The quote stands in what is shown of the first character.
      · cases part with
        | nil =>
            rw [List.nil_append] at hRest
            have hNone : [].getLast? = some '\\' := ih hRest
            cases hNone
        | cons d part =>
            rcases List.cons.inj hRest with ⟨rfl, _⟩
            exact hUnit.backslash_of_quote hLonger
      · have hLast := ih hRest.symm
        rw [hLonger, List.getLast?_append, hLast]
        rfl

end ShowsText

/- Escaped texts are told apart, though their escapes depend on places. -/
theorem escapeChars_injective :
    Function.Injective (escapeChars .identifier) := by
  intro cs ds hSame
  have hShows := escapeChars_shows cs
  rw [hSame] at hShows
  exact hShows.unique (escapeChars_shows ds)

end Text

------------------------------------------------------------
-- Identifiers
------------------------------------------------------------

namespace EntityUid

/- The characters of a displayed identifier. -/
theorem toList_display
    (uid : EntityUid) :
    uid.display.toList =
      uid.type.name.toList ++
          ':' :: ':' :: '"' ::
            Text.escapeChars .identifier uid.id.toList ++
        ['"'] := by
  simp [display, Text.escape]

/- No separator and quote are found behind the first ones. -/
theorem eq_nil_of_separator
    {cs text part rest : List Char}
    (hShows : Text.ShowsText cs text)
    (hSame :
      ':' :: ':' :: '"' :: text = part ++ ':' :: ':' :: '"' :: rest) :
    part = [] := by
  match part with
  | [] => rfl
  | [c] => simp at hSame
  | [c, d] => simp at hSame
  | c :: d :: e :: part =>
      have hText : text = (part ++ [':', ':']) ++ '"' :: rest := by
        simp_all
      rw [hText] at hShows
      have hLast := hShows.backslash_of_quote
      simp at hLast

/- Identifiers that are displayed alike are the same. -/
theorem display_injective :
    Function.Injective display := by
  intro first second hSame
  have hChars := congrArg String.toList hSame
  rw [toList_display, toList_display] at hChars
  replace hChars := List.append_cancel_right hChars
  have hFirst := Text.escapeChars_shows first.id.toList
  have hSecond := Text.escapeChars_shows second.id.toList
  have hTypes : first.type.name.toList = second.type.name.toList := by
    rcases List.append_eq_append_iff.mp hChars with
      ⟨part, hLonger, hRest⟩ | ⟨part, hLonger, hRest⟩
    · rw [hLonger, eq_nil_of_separator hFirst hRest, List.append_nil]
    · rw [hLonger, eq_nil_of_separator hSecond hRest, List.append_nil]
  rw [hTypes] at hChars
  have hIds : first.id.toList = second.id.toList := by
    apply Text.escapeChars_injective
    simpa using List.append_cancel_left hChars
  rcases first with ⟨⟨name⟩, id⟩
  rcases second with ⟨⟨other⟩, otherId⟩
  rw [String.toList_inj] at hTypes hIds
  dsimp only at hTypes hIds
  rw [hTypes, hIds]

end EntityUid

/- So are identifiers of policies. -/
theorem PolicyId.display_injective :
    Function.Injective PolicyId.display := by
  intro first second hSame
  rcases first with ⟨id⟩
  rcases second with ⟨other⟩
  have hChars :
      Text.escapeChars .identifier id.toList =
        Text.escapeChars .identifier other.toList :=
    String.ofList_injective hSame
  have hIds := Text.escapeChars_injective hChars
  rw [String.toList_inj] at hIds
  rw [hIds]

/-
  What is displayed of an entity or of a policy says which it
  is, whatever stands in its type and in its id.
-/
theorem displayed_identifiers_unambiguous :
    (∀ first second : EntityUid,
      first.display = second.display ↔ first = second) ∧
      ∀ first second : PolicyId,
        first.display = second.display ↔ first = second := by
  constructor
  · intro first second
    exact EntityUid.display_injective.eq_iff
  · intro first second
    exact PolicyId.display_injective.eq_iff

/-
  A type can look like the beginning of another identifier:
  the quotes of ids are escaped, so the last separator in
  front of a quote tells them apart.
-/
example :
    EntityUid.display ⟨⟨"A::\"x\""⟩, "y"⟩ ≠
      EntityUid.display ⟨⟨"A"⟩, "x\"::\"y"⟩ := by
  decide +kernel

end PolicyCheck
