import PolicyCheck.Proofs.IpGrammar

/-
  Which texts are IP address literals. A literal is a written
  address without embedded octets, with or without a network
  part. Three checks look at the text as a whole: the number
  of its bytes, of its colons and points, and its first slash.
  None of them refuses a literal, and counting colons and
  points tells exactly where octets are embedded.

  Main declarations:
    * `IpAddr.Literal`
    * `IpAddr.Written.mem_chars`
    * `IpAddr.Written.looksEmbedded_append`
    * `IpAddr.Literal.length_chars_le`
    * `IpAddr.parseNetwork_eq_ok_iff`
    * `IpAddr.parse_eq_ok_iff`
    * `addresses_accepted_if_plain`
-/

namespace PolicyCheck

namespace IpAddr

------------------------------------------------------------
-- Literals
------------------------------------------------------------

/- A network part stands after a slash. -/
def networkChars
    {limit : Nat} : Option (Number limit) → List Char
  | none => []
  | some number => '/' :: number.digits

/-
  A literal: an address without embedded octets, and a number
  of bits that the address has, if one is written.
-/
structure Literal where
  written : Written
  plain : written.embeds = false
  network : Option (Number written.address.networkLimit)

namespace Literal

/- The characters of a literal. -/
def chars
    (literal : Literal) : List Char :=
  literal.written.chars ++ networkChars literal.network

/- The length of the network part, or of the whole address. -/
def networkLength
    (literal : Literal) : Nat :=
  (literal.network.map Number.value).getD
    literal.written.address.networkLimit

end Literal

------------------------------------------------------------
-- Characters
------------------------------------------------------------

theorem mem_separated
    {first : Bool}
    {c : Char}
    {texts : List (List Char)}
    (hMem : c ∈ separated first texts) :
    c = ':' ∨ ∃ text ∈ texts, c ∈ text := by
  induction texts generalizing first with
  | nil => cases hMem
  | cons text texts ih =>
      have hParts : c = ':' ∨ c ∈ text ∨ c ∈ separated false texts := by
        cases first with
        | true => exact Or.inr (List.mem_append.mp hMem)
        | false => simpa [separated] using hMem
      rcases hParts with hColon | hText | hTexts
      · exact Or.inl hColon
      · exact Or.inr ⟨text, List.mem_cons_self, hText⟩
      · rcases ih hTexts with hColon | ⟨other, hOther, hChar⟩
        · exact Or.inl hColon
        · exact Or.inr ⟨other, List.mem_cons_of_mem _ hOther, hChar⟩

/- The digits of decimal numbers are among those of base sixteen. -/
theorem Number.isHexDigit
    {limit : Nat}
    {number : Number limit}
    {c : Char}
    (hMem : c ∈ number.digits) :
    isHexDigit c = true := by
  simp [IpAddr.isHexDigit, number.isNumeral.isDigit c hMem]

theorem Quad.mem_chars
    {quad : Quad}
    {c : Char}
    (hMem : c ∈ quad.chars) :
    c = '.' ∨ isHexDigit c = true := by
  simp only [chars, List.mem_append, List.mem_cons] at hMem
  rcases hMem with hDigit | hPoint | hDigit | hPoint | hDigit | hPoint |
    hDigit
  · exact Or.inr (Number.isHexDigit hDigit)
  · exact Or.inl hPoint
  · exact Or.inr (Number.isHexDigit hDigit)
  · exact Or.inl hPoint
  · exact Or.inr (Number.isHexDigit hDigit)
  · exact Or.inl hPoint
  · exact Or.inr (Number.isHexDigit hDigit)

theorem Run.chars_groups
    (groups : List Group) :
    (Run.mk groups none).chars =
      separated true (groups.map Group.digits) := by
  simp [chars, texts]

theorem Run.mem_chars
    {run : Run}
    {c : Char}
    (hMem : c ∈ run.chars) :
    c = ':' ∨ c = '.' ∨ isHexDigit c = true := by
  rcases mem_separated hMem with hColon | ⟨text, hText, hChar⟩
  · exact Or.inl hColon
  · rcases List.mem_append.mp hText with hGroup | hQuad
    · rcases List.mem_map.mp hGroup with ⟨group, _, rfl⟩
      exact Or.inr (Or.inr (group.isHexDigit c hChar))
    · rcases List.mem_map.mp hQuad with ⟨quad, _, rfl⟩
      exact Or.inr (Quad.mem_chars hChar)

/- An address has colons, points and hexadecimal digits. -/
theorem Written.mem_chars
    {written : Written}
    {c : Char}
    (hMem : c ∈ written.chars) :
    c = ':' ∨ c = '.' ∨ isHexDigit c = true := by
  cases written with
  | octets quad => exact Or.inr (Quad.mem_chars hMem)
  | full run hWidth => exact Run.mem_chars hMem
  | elided head tail hWidth =>
      have hParts :
          c ∈ separated true (head.map Group.digits) ∨ c = ':' ∨
            c ∈ tail.chars := by
        simpa [chars] using hMem
      rcases hParts with hHead | hColon | hTail
      · rw [← Run.chars_groups] at hHead
        exact Run.mem_chars hHead
      · exact Or.inl hColon
      · exact Run.mem_chars hTail

theorem mem_networkChars
    {limit : Nat}
    {network : Option (Number limit)}
    {c : Char}
    (hMem : c ∈ networkChars network) :
    c = '/' ∨ isHexDigit c = true := by
  cases network with
  | none => cases hMem
  | some number =>
      rcases List.mem_cons.mp hMem with hSlash | hDigit
      · exact Or.inl hSlash
      · exact Or.inr (Number.isHexDigit hDigit)

/- What is no digit does not occur among digits. -/
theorem count_digits
    {c : Char}
    {digits : List Char}
    (hDigits : ∀ d ∈ digits, isHexDigit d = true)
    (hOther : isHexDigit c = false) :
    digits.count c = 0 := by
  apply List.count_eq_zero_of_not_mem
  intro hMem
  rw [hDigits c hMem] at hOther
  cases hOther

------------------------------------------------------------
-- Colons And Points
------------------------------------------------------------

theorem count_point_separated
    (first : Bool)
    (texts : List (List Char)) :
    (separated first texts).count '.' =
      (texts.map (List.count '.')).sum := by
  induction texts generalizing first with
  | nil => rfl
  | cons text texts ih =>
      cases first with
      | true => simp [separated, ih]
      | false => simp [separated, ih]

theorem length_le_count_colon
    (texts : List (List Char)) :
    texts.length ≤ (separated false texts).count ':' := by
  induction texts with
  | nil => exact Nat.zero_le _
  | cons text texts ih =>
      rw [separated, List.count_append, if_neg Bool.false_ne_true,
        List.count_cons_self, List.length_cons]
      omega

theorem Quad.count_point
    (quad : Quad) :
    quad.chars.count '.' = 3 := by
  have hOctet (octet : Number 255) : octet.digits.count '.' = 0 :=
    count_digits (fun _ => Number.isHexDigit) rfl
  simp [chars, hOctet]

theorem Quad.count_colon
    (quad : Quad) :
    quad.chars.count ':' = 0 := by
  have hOctet (octet : Number 255) : octet.digits.count ':' = 0 :=
    count_digits (fun _ => Number.isHexDigit) rfl
  simp [chars, hOctet]

/- Points occur in octets only. -/
theorem Run.count_point
    (run : Run) :
    run.chars.count '.' = 3 * run.quad.toList.length := by
  have hGroup (group : Group) : group.digits.count '.' = 0 :=
    count_digits group.isHexDigit rfl
  rw [chars, count_point_separated, texts]
  cases run.quad with
  | none => simp [Function.comp_def, hGroup]
  | some quad => simp [Function.comp_def, hGroup, quad.count_point]

/- All but the first have a colon in front. -/
theorem Run.length_le_count_colon
    (run : Run) :
    run.texts.length ≤ run.chars.count ':' + 1 := by
  have hColons := IpAddr.length_le_count_colon run.texts
  rw [chars]
  cases hTexts : run.texts with
  | nil => simp
  | cons text texts =>
      rw [hTexts] at hColons
      simpa [separated] using hColons

/- Colons and points come together where octets are embedded. -/
theorem Written.looksEmbedded_append
    (written : Written)
    {rest : List Char}
    (hColon : ':' ∉ rest)
    (hPoint : '.' ∉ rest) :
    looksEmbedded (written.chars ++ rest) = written.embeds := by
  have hColons := List.count_eq_zero_of_not_mem hColon
  have hPoints := List.count_eq_zero_of_not_mem hPoint
  rw [looksEmbedded, List.count_append, List.count_append, hColons,
    hPoints, Nat.add_zero, Nat.add_zero]
  cases written with
  | octets quad => simp [chars, embeds, quad.count_colon]
  | full run hWidth =>
      cases hQuad : run.quad with
      | none => simp [chars, embeds, run.count_point, hQuad]
      | some quad =>
          -- Six groups and the octets have six colons between them.
          have hMany : 2 ≤ run.chars.count ':' := by
            have hColons := run.length_le_count_colon
            simp only [Run.width, Run.texts, hQuad,
              Option.toList_some, List.length_append, List.length_map,
              List.length_singleton] at hWidth hColons
            omega
          simp [chars, embeds, run.count_point, hQuad, hMany]
  | elided head tail hWidth =>
      have hHead := (Run.mk head none).count_point
      rw [Run.chars_groups] at hHead
      cases hQuad : tail.quad with
      | none => simp [chars, embeds, tail.count_point, hHead, hQuad]
      | some quad =>
          simp [chars, embeds, tail.count_point, hHead, hQuad,
            ← Nat.add_assoc]

------------------------------------------------------------
-- Lengths
------------------------------------------------------------

/- Groups have four digits and a colon at most. -/
theorem length_separated_le
    (groups : List Group) :
    (separated false (groups.map Group.digits)).length ≤
      5 * groups.length := by
  induction groups with
  | nil => exact Nat.le_refl 0
  | cons group groups ih =>
      have hGroup := group.length_le
      rw [List.map_cons, separated, List.length_append,
        if_neg Bool.false_ne_true, List.length_cons, List.length_cons]
      omega

theorem Quad.length_chars_le
    (quad : Quad) :
    quad.chars.length ≤ 15 := by
  have hOctet (octet : Number 255) : octet.digits.length ≤ 3 :=
    octet.length_le (by decide) (by decide)
  have hFirst := hOctet quad.first
  have hSecond := hOctet quad.second
  have hThird := hOctet quad.third
  have hFourth := hOctet quad.fourth
  simp only [chars, List.length_append, List.length_cons]
  omega

theorem Run.length_chars_le
    {run : Run}
    (hPlain : run.quad.isSome = false) :
    run.chars.length ≤ 5 * run.width - 1 := by
  rcases run with ⟨groups, quad⟩
  have hNone : quad = none := by
    simpa using hPlain
  subst hNone
  have hLength := length_separated_le groups
  rw [chars_groups]
  change _ ≤ 5 * groups.length - 1
  cases groups with
  | nil => exact Nat.le_refl 0
  | cons group groups => exact Nat.le_sub_one_of_lt hLength

/-
  Without embedded octets there is room for the longest
  address and its network part.
-/
theorem Written.length_chars_le
    {written : Written}
    (hPlain : written.embeds = false) :
    written.chars.length + 1 + written.address.networkDigits ≤
      maxBytes := by
  cases written with
  | octets quad =>
      have hQuad := quad.length_chars_le
      change quad.chars.length + 1 + 2 ≤ 43
      omega
  | full run hWidth =>
      have hRun := Run.length_chars_le hPlain
      change run.chars.length + 1 + 3 ≤ 43
      omega
  | elided head tail hWidth =>
      have hHead :
          (Run.mk head none).chars.length ≤ 5 * head.length - 1 :=
        Run.length_chars_le rfl
      have hTail := Run.length_chars_le hPlain
      rw [Run.chars_groups] at hHead
      change
        (separated true (head.map Group.digits) ++
            ':' :: ':' :: tail.chars).length + 1 + 3 ≤
          43
      rw [List.length_append, List.length_cons, List.length_cons]
      omega

theorem Address.networkLimit_lt
    (address : Address) :
    address.networkLimit < 10 ^ address.networkDigits := by
  cases address with
  | v4 octets => simp [networkLimit, networkDigits]
  | v6 groups => simp [networkLimit, networkDigits]

theorem Address.networkLimit_le
    (address : Address) :
    address.networkLimit ≤ 255 := by
  cases address with
  | v4 octets => simp [networkLimit]
  | v6 groups => simp [networkLimit]

/- No network part has more digits than the greatest. -/
theorem length_network_le
    {address : Address}
    (number : Number address.networkLimit) :
    number.digits.length ≤ address.networkDigits := by
  apply number.length_le address.networkLimit_lt
  cases address with
  | v4 octets => exact Nat.succ_pos 1
  | v6 groups => exact Nat.succ_pos 2

theorem isHexDigit_ascii
    {c : Char}
    (hDigit : isHexDigit c = true) :
    c.val ≤ 127 := by
  simp only [isHexDigit, Bool.or_eq_true, Bool.and_eq_true,
    decide_eq_true_iff] at hDigit
  rcases hDigit with (hDecimal | hLower) | hUpper
  · have hRange := Bool.and_eq_true_iff.mp hDecimal
    have hLast : c.val ≤ '9'.val := of_decide_eq_true hRange.2
    exact UInt32.le_trans hLast (by decide)
  · exact UInt32.le_trans hLower.2 (by decide)
  · exact UInt32.le_trans hUpper.2 (by decide)

/- ASCII characters have one byte each. -/
theorem utf8ByteSize_eq_length
    {cs : List Char}
    (hAscii : ∀ c ∈ cs, c.val ≤ 127) :
    (String.ofList cs).utf8ByteSize = cs.length := by
  induction cs with
  | nil => rfl
  | cons c cs ih =>
      rw [List.forall_mem_cons] at hAscii
      have hSize : c.utf8Size = 1 :=
        Char.utf8Size_eq_one_iff.mpr hAscii.1
      rw [String.ofList_cons, String.utf8ByteSize_append,
        String.utf8ByteSize_singleton, List.length_cons, hSize,
        ih hAscii.2, Nat.add_comm]

/- The characters of a literal have one byte each. -/
theorem Literal.ascii_chars
    {literal : Literal}
    {c : Char}
    (hMem : c ∈ literal.chars) :
    c.val ≤ 127 := by
  rcases List.mem_append.mp hMem with hAddress | hNetwork
  · rcases Written.mem_chars hAddress with rfl | rfl | hDigit
    · decide
    · decide
    · exact isHexDigit_ascii hDigit
  · rcases mem_networkChars hNetwork with rfl | hDigit
    · decide
    · exact isHexDigit_ascii hDigit

theorem Literal.utf8ByteSize_le
    {text : String}
    {literal : Literal}
    (hText : text.toList = literal.chars) :
    text.utf8ByteSize ≤ maxBytes := by
  have hBytes : text.utf8ByteSize = literal.chars.length := by
    rw [← utf8ByteSize_eq_length (fun _ => Literal.ascii_chars),
      ← hText, String.ofList_toList]
  have hNetwork :
      (networkChars literal.network).length ≤
        1 + literal.written.address.networkDigits := by
    cases hPart : literal.network with
    | none => exact Nat.zero_le _
    | some number =>
        have hDigits := length_network_le number
        rw [networkChars, List.length_cons]
        omega
  have hAddress := Written.length_chars_le literal.plain
  rw [hBytes, chars, List.length_append]
  omega

------------------------------------------------------------
-- Networks
------------------------------------------------------------

/- The checks of a network part are those of a number. -/
theorem parseNetwork_eq_ok_iff
    {address : Address}
    {network : String}
    {n : Nat} :
    parseNetwork address network = .ok n ↔
      ∃ number : Number address.networkLimit,
        network.toList = number.digits ∧ n = number.value := by
  constructor
  · intro hParse
    unfold parseNetwork at hParse
    dsimp only at hParse
    split at hParse
    · cases hParse
    · split at hParse
      · cases hParse
      · rename_i hDigits
        split at hParse
        · cases hParse
        · rename_i hZero
          split at hParse
          · cases hParse
          · rename_i m hValue
            split at hParse
            · cases hParse
            · split at hParse
              · cases hParse
              · rename_i hLimit
                cases hParse
                rcases Text.decimal?_eq_some_iff.mp hValue with
                  ⟨hDigit, rfl⟩
                have hSome : network.toList ≠ [] := by
                  intro hNil
                  simp [hNil] at hDigits
                have hLeading :
                    network.toList.head? = some '0' →
                      network.toList = ['0'] := by
                  simpa using hZero
                exact
                  ⟨⟨network.toList, ⟨hSome, hDigit⟩, hLeading,
                    Nat.le_of_not_lt hLimit⟩, rfl, rfl⟩
  · intro hNumber
    rcases hNumber with ⟨number, hText, rfl⟩
    have hBytes : ¬ address.networkDigits < network.utf8ByteSize := by
      rw [← network.ofList_toList, hText,
        utf8ByteSize_eq_length]
      · exact Nat.not_lt.mpr (length_network_le number)
      · intro c hMem
        exact isHexDigit_ascii (Number.isHexDigit hMem)
    have hDigits :
        ¬ (number.digits.isEmpty ||
          number.digits.any (fun c => !c.isDigit)) = true := by
      simpa [number.isNumeral.ne_nil] using number.isNumeral.isDigit
    have hZero :
        ¬ (number.digits.head? = some '0' &&
          number.digits ≠ ['0']) = true := by
      simpa using number.noLeadingZero
    have hValue :
        Text.decimal? number.digits = some number.value :=
      Text.decimal?_eq_some_iff.mpr ⟨number.isNumeral.isDigit, rfl⟩
    have hLimit : ¬ address.networkLimit < number.value :=
      Nat.not_lt.mpr number.numeral_le
    have hSmall : ¬ 255 < number.value := by
      have hByte := address.networkLimit_le
      omega
    simp only [parseNetwork, hText, if_neg hBytes, if_neg hDigits,
      if_neg hZero, hValue, if_neg hSmall, if_neg hLimit]

------------------------------------------------------------
-- Reading
------------------------------------------------------------

/- A literal is cut where its address ends. -/
theorem Literal.cut
    (literal : Literal) :
    literal.chars.takeWhile (· ≠ '/') = literal.written.chars ∧
      literal.chars.dropWhile (· ≠ '/') =
        networkChars literal.network := by
  apply Text.takeWhile_dropWhile_iff.mpr
  refine ⟨rfl, ?_, ?_⟩
  · intro c hMem
    apply decide_eq_true
    intro hSlash
    rw [hSlash] at hMem
    rcases Written.mem_chars hMem with hColon | hPoint | hDigit
    · cases hColon
    · cases hPoint
    · cases hDigit
  · cases literal.network with
    | none => exact Text.ends_nil _
    | some number => exact Text.ends_cons_iff.mpr rfl

theorem Written.looksEmbedded_networkChars
    (written : Written)
    (network : Option (Number written.address.networkLimit)) :
    looksEmbedded (written.chars ++ networkChars network) =
      written.embeds := by
  apply written.looksEmbedded_append
  · intro hMem
    rcases mem_networkChars hMem with hSlash | hDigit
    · cases hSlash
    · cases hDigit
  · intro hMem
    rcases mem_networkChars hMem with hSlash | hDigit
    · cases hSlash
    · cases hDigit

/- Every literal is read, as what it denotes. -/
theorem parse_of_chars
    {text : String}
    (literal : Literal)
    (hText : text.toList = literal.chars) :
    parse text =
      .ok (literal.written.address, literal.networkLength) := by
  have hBytes : ¬ maxBytes < text.utf8ByteSize :=
    Nat.not_lt.mpr (Literal.utf8ByteSize_le hText)
  have hEmbedded : looksEmbedded literal.chars = false := by
    rw [← literal.plain]
    exact literal.written.looksEmbedded_networkChars literal.network
  rcases literal.cut with ⟨hTake, hDrop⟩
  rw [parse, hText, if_neg hBytes, hEmbedded]
  simp only [Bool.false_eq_true, if_false]
  rw [hTake, hDrop, address?_chars]
  cases hNetwork : literal.network with
  | none => simp [networkChars, Literal.networkLength, hNetwork]
  | some number =>
      have hNumber :
          parseNetwork literal.written.address
              (String.ofList number.digits) =
            .ok number.value :=
        parseNetwork_eq_ok_iff.mpr
          ⟨number, String.toList_ofList, rfl⟩
      simp [networkChars, Literal.networkLength, hNetwork, hNumber,
        bind, Except.bind]

/- Whatever is read is an address, with a number if a slash follows. -/
theorem exists_written_of_parse
    {text : String}
    {address : Address}
    {n : Nat}
    (hParse : parse text = .ok (address, n)) :
    ∃ (written : Written)
        (network : Option (Number written.address.networkLimit)),
      looksEmbedded text.toList = false ∧
        text.toList = written.chars ++ networkChars network ∧
        address = written.address ∧
        n = (network.map Number.value).getD
          written.address.networkLimit := by
  unfold parse at hParse
  dsimp only at hParse
  split at hParse
  · cases hParse
  · split at hParse
    · cases hParse
    · rename_i hEmbedded
      rw [Bool.not_eq_true] at hEmbedded
      split at hParse
      · cases hParse
      · rename_i found hAddress
        rcases address?_eq_some_iff.mp hAddress with
          ⟨written, hTake, rfl⟩
        split at hParse
        · rename_i hDrop
          cases hParse
          rcases Text.takeWhile_dropWhile_iff.mp ⟨hTake, hDrop⟩ with
            ⟨hText, _, _⟩
          exact ⟨written, none, hEmbedded, hText, rfl, rfl⟩
        · rename_i c network hDrop
          rcases Text.takeWhile_dropWhile_iff.mp ⟨hTake, hDrop⟩ with
            ⟨hText, _, hEnds⟩
          have hSlash : c = '/' := by
            simpa using Text.ends_cons_iff.mp hEnds
          cases hNetwork :
              parseNetwork written.address (String.ofList network) with
          | error error =>
              rw [hNetwork] at hParse
              cases hParse
          | ok m =>
              rw [hNetwork] at hParse
              cases hParse
              rcases parseNetwork_eq_ok_iff.mp hNetwork with
                ⟨number, hDigits, rfl⟩
              rw [String.toList_ofList] at hDigits
              rw [hSlash, hDigits] at hText
              exact
                ⟨written, some number, hEmbedded, hText, rfl, rfl⟩

/- The texts that are read are the literals. -/
theorem parse_eq_ok_iff
    {text : String}
    {address : Address}
    {n : Nat} :
    parse text = .ok (address, n) ↔
      ∃ literal : Literal,
        text.toList = literal.chars ∧
          address = literal.written.address ∧
          n = literal.networkLength := by
  constructor
  · intro hParse
    rcases exists_written_of_parse hParse with
      ⟨written, network, hEmbedded, hText, hAddress, hLength⟩
    rw [hText, written.looksEmbedded_networkChars] at hEmbedded
    exact
      ⟨⟨written, hEmbedded, network⟩, hText, hAddress, hLength⟩
  · intro hLiteral
    rcases hLiteral with ⟨literal, hText, rfl, rfl⟩
    exact parse_of_chars literal hText

/- Embedded octets are what a text of a fitting size is refused for. -/
theorem parse_eq_embedded_iff
    {text : String}
    {written : Written}
    {network : Option (Number written.address.networkLimit)}
    (hText : text.toList = written.chars ++ networkChars network)
    (hBytes : text.utf8ByteSize ≤ maxBytes) :
    parse text = .error .embedded ↔ written.embeds = true := by
  have hLooks := written.looksEmbedded_networkChars network
  cases hEmbeds : written.embeds with
  | true =>
      rw [hEmbeds, ← hText] at hLooks
      simp [parse, Nat.not_lt.mpr hBytes, hLooks]
  | false =>
      have hParse :=
        parse_of_chars ⟨written, hEmbeds, network⟩ hText
      simp [hParse]

end IpAddr

------------------------------------------------------------
-- Acceptance
------------------------------------------------------------

/-
  A text is read as an address and the length of its network
  part if it is a literal that denotes these. No literal is
  too long. Addresses alone are read in every way they can
  be written, and of these, with a network part or not, the
  count of colons and points tells those with embedded octets.
-/
theorem addresses_accepted_if_plain
    (text : String) :
    (∀ address n,
      IpAddr.parse text = .ok (address, n) ↔
        ∃ literal : IpAddr.Literal,
          text.toList = literal.chars ∧
            address = literal.written.address ∧
            n = literal.networkLength) ∧
      (∀ literal : IpAddr.Literal,
        text.toList = literal.chars →
          text.utf8ByteSize ≤ IpAddr.maxBytes) ∧
      (∀ address,
        IpAddr.address? text.toList = some address ↔
          ∃ written : IpAddr.Written,
            text.toList = written.chars ∧
              address = written.address) ∧
      (∀ (written : IpAddr.Written)
          (network :
            Option (IpAddr.Number written.address.networkLimit)),
        text.toList = written.chars ++ IpAddr.networkChars network →
          IpAddr.looksEmbedded text.toList = written.embeds ∧
            (text.utf8ByteSize ≤ IpAddr.maxBytes →
              (IpAddr.parse text = .error .embedded ↔
                written.embeds = true))) := by
  refine ⟨?_, ?_, ?_, ?_⟩
  · intro address n
    exact IpAddr.parse_eq_ok_iff
  · intro literal hText
    exact IpAddr.Literal.utf8ByteSize_le hText
  · intro address
    exact IpAddr.address?_eq_some_iff
  · intro written network hText
    constructor
    · rw [hText]
      exact written.looksEmbedded_networkChars network
    · exact IpAddr.parse_eq_embedded_iff hText

/- All multicast addresses. -/
def multicast : IpAddr.Literal where
  written :=
    .elided
      [⟨['f', 'f', '0', '0'], by decide, by decide,
        List.all_eq_true.mp rfl⟩]
      ⟨[], none⟩
      (by decide)
  plain := rfl
  network := some ⟨['8'], by decide, by decide, by decide⟩

/- The loopback address as it is mapped into groups. -/
def mappedLoopback : IpAddr.Written :=
  let zero : IpAddr.Number 255 :=
    ⟨['0'], by decide, by decide, by decide⟩
  .elided
    []
    ⟨[⟨['f', 'f', 'f', 'f'], by decide, by decide,
        List.all_eq_true.mp rfl⟩],
      some
        ⟨⟨['1', '2', '7'], by decide, by decide, by decide⟩, zero,
          zero, ⟨['1'], by decide, by decide, by decide⟩⟩⟩
    (by decide)

/- One is read, the other is an address but refused. -/
theorem multicast_read :
    "ff00::/8".toList = multicast.chars ∧
      IpAddr.parse "ff00::/8" =
        .ok (.v6 [0xff00, 0, 0, 0, 0, 0, 0, 0], 8) ∧
      "ff00::/8".utf8ByteSize ≤ IpAddr.maxBytes ∧
      IpAddr.address? "::ffff:127.0.0.1".toList =
        some (.v6 [0, 0, 0, 0, 0, 0xffff, 0x7f00, 1]) ∧
      IpAddr.parse "::ffff:127.0.0.1" = .error .embedded := by
  have hText : "ff00::/8".toList = multicast.chars := by decide
  have hMapped : "::ffff:127.0.0.1".toList = mappedLoopback.chars := by
    decide
  rcases addresses_accepted_if_plain "ff00::/8" with
    ⟨hRead, hShort, _⟩
  rcases addresses_accepted_if_plain "::ffff:127.0.0.1" with
    ⟨_, _, hAddress, hEmbedded⟩
  refine ⟨hText, ?_, hShort multicast hText, ?_, ?_⟩
  · rw [hRead]
    exact ⟨multicast, hText, by decide, by decide⟩
  · rw [hAddress]
    exact ⟨mappedLoopback, hMapped, by decide⟩
  · have hPart := hMapped.trans (List.append_nil _).symm
    rw [(hEmbedded mappedLoopback none hPart).2 (by decide)]
    decide

end PolicyCheck
