import PolicyCheck.Json.Reader
import PolicyCheck.Proofs.DistinctKeys

/-
  The tokens of a document, and what readers make of tokens.
  The parts of a container stand between commas, so a reader
  of a container goes through them from left to right. The
  document of a text is the one that has its tokens.

  Main declarations:
    * `Json.tokens`
    * `Json.Nests`
    * `Json.TextReader.run?`
    * `Json.TextReader.run?_upTo`
    * `Json.TextReader.exists_of_run?_upTo`
    * `Json.run?_document`
    * `Json.parse?_eq_some_iff`
-/

namespace PolicyCheck

section Outcomes

variable {ε α β : Type}

/- What was found is there. -/
@[simp] theorem toOption_ok
    (a : α) :
    (Except.ok a : Except ε α).toOption = some a :=
  rfl

/- With an error there is nothing. -/
@[simp] theorem toOption_error
    (e : ε) :
    (Except.error e : Except ε α).toOption = none :=
  rfl

/- A result is there if it is one. -/
theorem toOption_eq_some_iff
    {result : Except ε α}
    {a : α} :
    result.toOption = some a ↔ result = .ok a := by
  cases result <;> simp

/-
  Two computations with the same result both have it, or
  both have an error.
-/
theorem cases_of_toOption_eq
    {δ : Type}
    {first : Except ε α}
    {second : Except δ α}
    (hSame : first.toOption = second.toOption) :
    (∃ a, first = .ok a ∧ second = .ok a) ∨
      ∃ e d, first = .error e ∧ second = .error d := by
  cases first with
  | ok a =>
      exact Or.inl ⟨a, rfl, toOption_eq_some_iff.mp hSame.symm⟩
  | error e =>
      cases second with
      | ok b => simp at hSame
      | error d => exact Or.inr ⟨e, d, rfl, rfl⟩

/- What is made of something is there if that is. -/
@[simp] theorem toOption_map
    (f : α → β)
    (result : Except ε α) :
    (result.map f).toOption = result.toOption.map f := by
  cases result <;> rfl

/- What comes after something is there if both are. -/
@[simp] theorem toOption_bind
    (result : Except ε α)
    (f : α → Except ε β) :
    (result >>= f).toOption =
      result.toOption.bind fun a => (f a).toOption := by
  cases result <;> rfl

end Outcomes

namespace Json

------------------------------------------------------------
-- Tokens Of Documents
------------------------------------------------------------

/- Tokens of several parts, with commas between them. -/
def separated : List (List Token) → List Token
  | [] => []
  | first :: later =>
      first ++ later.flatMap fun part => .comma :: part

mutual

/- The tokens of a document. -/
def tokens : Json → List Token
  | .null => [.null]
  | .bool b => [.bool b]
  | .num n => [.num n]
  | .str s => [.str s]
  | .arr items =>
      .beginArray :: (separated (itemTokens items) ++ [.endArray])
  | .obj members =>
      .beginObject ::
        (separated (memberTokens members) ++ [.endObject])

/- The tokens of each item of an array. -/
def itemTokens : List Json → List (List Token)
  | [] => []
  | j :: rest => tokens j :: itemTokens rest

/- The tokens of each member of an object. -/
def memberTokens : List (String × Json) → List (List Token)
  | [] => []
  | (key, j) :: rest =>
      (.str key :: .colon :: tokens j) :: memberTokens rest

end

/- The tokens of a member. -/
def tokensOfMember
    (member : String × Json) : List Token :=
  .str member.1 :: .colon :: member.2.tokens

/- Each item has its own tokens. -/
theorem itemTokens_eq_map
    (items : List Json) :
    itemTokens items = items.map tokens := by
  induction items with
  | nil => rfl
  | cons j rest ih => rw [itemTokens, ih, List.map_cons]

/- So has each member. -/
theorem memberTokens_eq_map
    (members : List (String × Json)) :
    memberTokens members = members.map tokensOfMember := by
  induction members with
  | nil => rfl
  | cons member rest ih =>
      rw [memberTokens, ih, List.map_cons]
      rfl

/- The tokens of an array, before some others. -/
theorem tokens_arr_append
    (items : List Json)
    (rest : List Token) :
    (Json.arr items).tokens ++ rest =
      .beginArray ::
        (separated (items.map tokens) ++ .endArray :: rest) := by
  simp [tokens, itemTokens_eq_map]

/- The tokens of an object, before some others. -/
theorem tokens_obj_append
    (members : List (String × Json))
    (rest : List Token) :
    (Json.obj members).tokens ++ rest =
      .beginObject ::
        (separated (members.map tokensOfMember) ++
          .endObject :: rest) := by
  simp [tokens, memberTokens_eq_map]

/- A document begins with a token that closes nothing. -/
theorem exists_tokens_eq_cons
    (j : Json) :
    ∃ token later,
      j.tokens = token :: later ∧ token ≠ .endArray := by
  cases j <;> exact ⟨_, _, by rw [tokens], by simp⟩

/- Containers of a document are nested at most so deep. -/
inductive Nests : Nat → Json → Prop where
  | null {depth : Nat} : Nests depth .null
  | bool {depth : Nat} (b : Bool) : Nests depth (.bool b)
  | num {depth : Nat} (n : Number) : Nests depth (.num n)
  | str {depth : Nat} (s : String) : Nests depth (.str s)
  | arr
      {depth : Nat}
      {items : List Json}
      (hItems : ∀ j ∈ items, Nests depth j) :
      Nests (depth + 1) (.arr items)
  | obj
      {depth : Nat}
      {members : List (String × Json)}
      (hMembers : ∀ member ∈ members, Nests depth member.2) :
      Nests (depth + 1) (.obj members)

/- What nests so deep nests within every greater depth. -/
theorem Nests.mono
    {depth more : Nat}
    {j : Json}
    (hNests : Nests depth j)
    (hLe : depth ≤ more) :
    Nests more j := by
  induction hNests generalizing more with
  | null => exact .null
  | bool b => exact .bool b
  | num n => exact .num n
  | str s => exact .str s
  | arr _ ih =>
      cases more with
      | zero => omega
      | succ more =>
          exact .arr fun j hMem => ih j hMem (by omega)
  | obj _ ih =>
      cases more with
      | zero => omega
      | succ more =>
          exact .obj fun member hMem => ih member hMem (by omega)

/- A part has no more tokens than all parts together. -/
theorem length_le_length_separated
    {part : List Token}
    {parts : List (List Token)}
    (hMem : part ∈ parts) :
    part.length ≤ (separated parts).length := by
  cases parts with
  | nil => cases hMem
  | cons first later =>
      rw [separated, List.length_append]
      rcases List.mem_cons.mp hMem with rfl | hLater
      · omega
      · have hMapped :=
          List.mem_map_of_mem (f := (Token.comma :: ·)) hLater
        have hLe := (List.sublist_flatten_of_mem hMapped).length_le
        rw [List.length_cons] at hLe
        rw [List.flatMap_def]
        omega

/- A document nests no deeper than it has tokens. -/
theorem nests_length_tokens
    (j : Json) :
    Nests j.tokens.length j := by
  induction j using Json.induction with
  | null => exact .null
  | bool b => exact .bool b
  | num n => exact .num n
  | str s => exact .str s
  | arr items ih =>
      rw [tokens, List.length_cons, itemTokens_eq_map]
      refine .arr fun j hMem => (ih j hMem).mono ?_
      have hLe :=
        length_le_length_separated
          (List.mem_map_of_mem (f := tokens) hMem)
      rw [List.length_append]
      omega
  | obj members ih =>
      rw [tokens, List.length_cons, memberTokens_eq_map]
      refine .obj fun member hMem => (ih member hMem).mono ?_
      have hLe :=
        length_le_length_separated
          (List.mem_map_of_mem (f := tokensOfMember) hMem)
      rw [tokensOfMember, List.length_cons, List.length_cons] at hLe
      rw [List.length_append]
      omega

------------------------------------------------------------
-- Results Of Readers
------------------------------------------------------------

/- What was read, without the proof that tokens were used up. -/
def Read.result
    {α : Type}
    {tokens : List Token}
    (found : Read α tokens) : α × List Token :=
  (found.value, found.rest)

namespace TextReader

variable {α β ι κ σ : Type}

/- What a reader makes of tokens, if it can read them. -/
def run?
    (read : TextReader α)
    (tokens : List Token) : Option (α × List Token) :=
  (read tokens).toOption.map Read.result

/- A reader makes something of tokens if it reads them. -/
theorem run?_eq_some_iff
    {read : TextReader α}
    {tokens rest : List Token}
    {a : α} :
    read.run? tokens = some (a, rest) ↔
      ∃ hShorter, read tokens = .ok ⟨a, rest, hShorter⟩ := by
  unfold run?
  cases read tokens with
  | error e => simp
  | ok found =>
      rcases found with ⟨value, left, hShorter⟩
      constructor
      · intro hSome
        cases hSome
        exact ⟨hShorter, rfl⟩
      · rintro ⟨_, hOk⟩
        cases hOk
        rfl

/- It makes nothing of them if there is an error. -/
theorem run?_eq_none_iff
    {read : TextReader α}
    {tokens : List Token} :
    read.run? tokens = none ↔ ∃ e, read tokens = .error e := by
  unfold run?
  cases read tokens <;> simp

/- Data is made of what was read. -/
@[simp] theorem run?_map
    (f : α → β)
    (read : TextReader α)
    (tokens : List Token) :
    (read.map f).run? tokens =
      (read.run? tokens).map (Prod.map f id) := by
  unfold run? map
  cases read tokens <;> rfl

/- Data is decoded from what was read. -/
@[simp] theorem run?_refine
    (read : TextReader α)
    (decode : α → Decoded β)
    (tokens : List Token) :
    (read.refine decode).run? tokens =
      (read.run? tokens).bind fun found =>
        (decode found.1).toOption.map (·, found.2) := by
  unfold run? refine
  cases read tokens with
  | error e => rfl
  | ok found =>
      simp only [toOption_ok, Option.map_some, Option.bind_some]
      cases hDecode : decode found.value <;>
        simp [Read.result, hDecode]

/- Nothing is read where reading fails. -/
@[simp] theorem run?_fail
    (e : DecodeError)
    (tokens : List Token) :
    (fail e : TextReader α).run? tokens = none :=
  rfl

/- One token is read. -/
@[simp] theorem run?_single
    (value : Token → Except TextError α)
    (token : Token)
    (rest : List Token) :
    (single value).run? (token :: rest) =
      (value token).toOption.map (·, rest) := by
  simp only [run?, single]
  cases value token <;> rfl

/- Nothing is read where it is refused. -/
@[simp] theorem run?_refuse
    (tokens : List Token) :
    (refuse : TextReader α).run? tokens = none := by
  cases tokens <;> rfl

/- Nothing is read where containers are too deep. -/
@[simp] theorem run?_tooDeep
    (tokens : List Token) :
    (tooDeep : TextReader α).run? tokens = none := by
  cases tokens with
  | nil => rfl
  | cons token rest =>
      rw [tooDeep, run?_single]
      split <;> rfl

/- After the first token of a container comes what is inside. -/
@[simp] theorem run?_opening_self
    (first : Token)
    (inside otherwise : TextReader α)
    (tokens : List Token) :
    (opening first inside otherwise).run? (first :: tokens) =
      inside.run? tokens := by
  simp only [run?, opening, if_true]
  cases inside tokens <;> rfl

/- With another token it is something else. -/
theorem run?_opening_of_ne
    {first token : Token}
    (hToken : token ≠ first)
    (inside otherwise : TextReader α)
    (tokens : List Token) :
    (opening first inside otherwise).run? (token :: tokens) =
      otherwise.run? (token :: tokens) := by
  simp only [run?, opening, hToken, if_false]

/- A member is read after its key and a colon. -/
theorem run?_member
    (key? : Token → Option κ)
    {token : Token}
    {key : κ}
    (hKey : key? token = some key)
    (step : κ → σ → TextReader σ)
    (state : σ)
    (tokens : List Token) :
    (member key? step state).run? (token :: .colon :: tokens) =
      (step key state).run? tokens := by
  simp only [run?, member, hKey]
  cases step key state tokens <;> rfl

------------------------------------------------------------
-- Parts Of Containers
------------------------------------------------------------

section Parts

variable {close : Token} {step : σ → TextReader σ}
variable {tokensOf : ι → List Token} {next : σ → ι → Option σ}

/- After the last part the container is closed. -/
theorem more_close
    (state : σ)
    {rest whole : List Token}
    (hLe : (close :: rest).length ≤ whole.length) :
    (more close step state (close :: rest) hLe).toOption.map
        Read.result =
      some (state, rest) := by
  rw [more, if_pos rfl]
  rfl

/- After a comma another part is read, and then the rest. -/
theorem more_comma_of_ok
    (hClose : close ≠ .comma)
    {state : σ}
    {rest whole : List Token}
    {found : Read σ rest}
    (hRead : step state rest = .ok found)
    (hLe : (Token.comma :: rest).length ≤ whole.length) :
    more close step state (.comma :: rest) hLe =
      more close step found.value found.rest
        (Nat.le_trans (Nat.le_of_lt found.shorter)
          (Nat.le_of_succ_le hLe)) := by
  rw [more, if_neg (Ne.symm hClose), if_pos rfl]
  simp only [hRead]

/- If it cannot be read, nothing is. -/
theorem more_comma_of_error
    (hClose : close ≠ .comma)
    {state : σ}
    {rest whole : List Token}
    {e : TextError}
    (hRead : step state rest = .error e)
    (hLe : (Token.comma :: rest).length ≤ whole.length) :
    more close step state (.comma :: rest) hLe = .error e := by
  rw [more, if_neg (Ne.symm hClose), if_pos rfl]
  simp only [hRead]

/-
  Parts behind commas are read one after the other, if each
  of them can be read into whatever was read before it.
-/
theorem run?_more
    (hClose : close ≠ .comma)
    {parts : List ι}
    (hStep :
      ∀ part ∈ parts, ∀ state rest,
        (step state).run? (tokensOf part ++ rest) =
          (next state part).map (·, rest))
    (state : σ)
    (rest : List Token)
    {whole tokens : List Token}
    (hTokens :
      tokens =
        (parts.map tokensOf).flatMap (.comma :: ·) ++
          close :: rest)
    (hLe : tokens.length ≤ whole.length) :
    (more close step state tokens hLe).toOption.map Read.result =
      (parts.foldlM next state).map (·, rest) := by
  induction parts generalizing state tokens with
  | nil =>
      cases hTokens
      exact more_close state hLe
  | cons part parts ih =>
      let later :=
        (parts.map tokensOf).flatMap (.comma :: ·) ++ close :: rest
      have hLater :
          tokens = .comma :: (tokensOf part ++ later) := by
        simp [hTokens, later]
      subst hLater
      have hPart := hStep part List.mem_cons_self state later
      rw [List.foldlM_cons]
      cases hNext : next state part with
      | none =>
          rw [hNext] at hPart
          rcases run?_eq_none_iff.mp hPart with ⟨e, hRead⟩
          rw [more_comma_of_error hClose hRead]
          rfl
      | some after =>
          rw [hNext] at hPart
          rcases run?_eq_some_iff.mp hPart with ⟨hShorter, hRead⟩
          rw [more_comma_of_ok hClose hRead]
          apply ih _ after rfl
          intro other hMem
          exact hStep other (List.mem_cons_of_mem _ hMem)

/- A container without parts is closed at once. -/
theorem run?_upTo_close
    (state : σ)
    (rest : List Token) :
    (upTo close step state).run? (close :: rest) =
      some (state, rest) := by
  simp only [run?, upTo, if_true]
  rfl

/- Otherwise its first part is read, and then the others. -/
theorem upTo_of_ok
    {state : σ}
    {token : Token}
    {rest : List Token}
    (hToken : token ≠ close)
    {found : Read σ (token :: rest)}
    (hRead : step state (token :: rest) = .ok found) :
    upTo close step state (token :: rest) =
      more close step found.value found.rest
        (Nat.le_of_lt found.shorter) := by
  simp only [upTo, hToken, if_false, hRead]

/- If its first part cannot be read, nothing is. -/
theorem upTo_of_error
    {state : σ}
    {token : Token}
    {rest : List Token}
    (hToken : token ≠ close)
    {e : TextError}
    (hRead : step state (token :: rest) = .error e) :
    upTo close step state (token :: rest) = .error e := by
  simp only [upTo, hToken, if_false, hRead]

/-
  All parts of a container are read one after the other. No
  part begins with the token that closes the container.
-/
theorem run?_upTo
    (hClose : close ≠ .comma)
    (next : σ → ι → Option σ)
    {parts : List ι}
    (hFirst :
      ∀ part ∈ parts, ∃ token later,
        tokensOf part = token :: later ∧ token ≠ close)
    (hStep :
      ∀ part ∈ parts, ∀ state rest,
        (step state).run? (tokensOf part ++ rest) =
          (next state part).map (·, rest))
    (state : σ)
    (rest : List Token) :
    (upTo close step state).run?
        (separated (parts.map tokensOf) ++ close :: rest) =
      (parts.foldlM next state).map (·, rest) := by
  cases parts with
  | nil => exact run?_upTo_close state rest
  | cons part parts =>
      let later :=
        (parts.map tokensOf).flatMap (.comma :: ·) ++ close :: rest
      rcases hFirst part List.mem_cons_self with
        ⟨token, tail, hTokens, hToken⟩
      have hAll :
          separated ((part :: parts).map tokensOf) ++ close :: rest =
            token :: (tail ++ later) := by
        simp [separated, hTokens, later]
      have hPart := hStep part List.mem_cons_self state later
      rw [hTokens, List.cons_append] at hPart
      rw [hAll, List.foldlM_cons]
      cases hNext : next state part with
      | none =>
          rw [hNext] at hPart
          rcases run?_eq_none_iff.mp hPart with ⟨e, hRead⟩
          rw [run?, upTo_of_error hToken hRead]
          rfl
      | some after =>
          rw [hNext] at hPart
          rcases run?_eq_some_iff.mp hPart with ⟨hShorter, hRead⟩
          rw [run?, upTo_of_ok hToken hRead]
          apply run?_more hClose _ after rest rfl
          intro other hMem
          exact hStep other (List.mem_cons_of_mem _ hMem)

/- What was read as further parts were parts behind commas. -/
theorem exists_of_more
    {tokensOf : ι → List Token}
    (Good : ι → Prop)
    (push : σ → ι → σ)
    (hStep :
      ∀ state tokens after rest,
        (step state).run? tokens = some (after, rest) →
          ∃ part,
            tokens = tokensOf part ++ rest ∧
              Good part ∧ after = push state part)
    {state last : σ}
    {tokens rest whole : List Token}
    {hLe : tokens.length ≤ whole.length}
    (hMore :
      (more close step state tokens hLe).toOption.map Read.result =
        some (last, rest)) :
    ∃ parts : List ι,
      tokens =
          (parts.map tokensOf).flatMap (.comma :: ·) ++
            close :: rest ∧
        (∀ part ∈ parts, Good part) ∧
        last = parts.foldl push state := by
  fun_induction more close step state tokens hLe with
  | case1 => cases hMore
  | case2 state rest' hLe =>
      cases hMore
      exact ⟨[], rfl, by simp, rfl⟩
  | case3 state rest' found hRead _ _ _ ih =>
      rcases ih hMore with ⟨parts, hTokens, hGood, hLast⟩
      have hRun :
          (step state).run? rest' = some (found.value, found.rest) :=
        run?_eq_some_iff.mpr ⟨found.shorter, hRead⟩
      rcases hStep state rest' found.value found.rest hRun with
        ⟨part, hPart, hFirst, hAfter⟩
      refine ⟨part :: parts, ?_, ?_, ?_⟩
      · simp [hPart, hTokens]
      · exact List.forall_mem_cons.mpr ⟨hFirst, hGood⟩
      · simp [← hAfter, hLast]
  | case4 => cases hMore
  | case5 => cases hMore

/- What was read as all parts of a container were its parts. -/
theorem exists_of_run?_upTo
    {tokensOf : ι → List Token}
    (Good : ι → Prop)
    (push : σ → ι → σ)
    (hStep :
      ∀ state tokens after rest,
        (step state).run? tokens = some (after, rest) →
          ∃ part,
            tokens = tokensOf part ++ rest ∧
              Good part ∧ after = push state part)
    {state last : σ}
    {tokens rest : List Token}
    (hUpTo :
      (upTo close step state).run? tokens = some (last, rest)) :
    ∃ parts : List ι,
      tokens = separated (parts.map tokensOf) ++ close :: rest ∧
        (∀ part ∈ parts, Good part) ∧
        last = parts.foldl push state := by
  cases tokens with
  | nil => cases hUpTo
  | cons token tail =>
      by_cases hToken : token = close
      · subst hToken
        rw [run?_upTo_close] at hUpTo
        cases hUpTo
        exact ⟨[], rfl, by simp, rfl⟩
      · cases hRead : step state (token :: tail) with
        | error e =>
            rw [run?, upTo_of_error hToken hRead] at hUpTo
            cases hUpTo
        | ok found =>
            rw [run?, upTo_of_ok hToken hRead] at hUpTo
            rcases exists_of_more Good push hStep hUpTo with
              ⟨parts, hTokens, hGood, hLast⟩
            have hRun :
                (step state).run? (token :: tail) =
                  some (found.value, found.rest) :=
              run?_eq_some_iff.mpr ⟨found.shorter, hRead⟩
            rcases hStep _ _ _ _ hRun with
              ⟨part, hPart, hFirst, hAfter⟩
            refine ⟨part :: parts, ?_, ?_, ?_⟩
            · simp [separated, hPart, hTokens]
            · exact List.forall_mem_cons.mpr ⟨hFirst, hGood⟩
            · simp [← hAfter, hLast]

end Parts

end TextReader

------------------------------------------------------------
-- Documents Of Texts
------------------------------------------------------------

open TextReader

/- Parts that are put before each other are reversed. -/
theorem foldlM_cons_eq_reverse
    {α : Type}
    (xs done : List α) :
    xs.foldlM (fun done x => some (x :: done)) done =
      some (xs.reverse ++ done) := by
  induction xs generalizing done with
  | nil => rfl
  | cons x xs ih => simp [ih]

/- The tokens of a member are its key and those of its value. -/
theorem run?_member_append
    {σ : Type}
    (step : String → σ → TextReader σ)
    (state : σ)
    (member : String × Json)
    (rest : List Token) :
    (TextReader.member key? step state).run?
        (tokensOfMember member ++ rest) =
      (step member.1 state).run? (member.2.tokens ++ rest) :=
  run?_member key? rfl step state _

/- The items of an array are read one after the other. -/
theorem run?_items
    {σ : Type}
    {step : σ → TextReader σ}
    (next : σ → Json → Option σ)
    {items : List Json}
    (hStep :
      ∀ j ∈ items, ∀ state rest,
        (step state).run? (j.tokens ++ rest) =
          (next state j).map (·, rest))
    (state : σ)
    (rest : List Token) :
    (TextReader.items step state).run?
        (separated (items.map tokens) ++ .endArray :: rest) =
      (items.foldlM next state).map (·, rest) := by
  refine run?_upTo (by simp) next ?_ hStep state rest
  intro j _
  exact exists_tokens_eq_cons j

/- So are the members of an object, each with its key. -/
theorem run?_members
    {σ : Type}
    {step : String → σ → TextReader σ}
    (next : σ → String × Json → Option σ)
    {members : List (String × Json)}
    (hStep :
      ∀ member ∈ members, ∀ state rest,
        (step member.1 state).run? (member.2.tokens ++ rest) =
          (next state member).map (·, rest))
    (state : σ)
    (rest : List Token) :
    (TextReader.members step state).run?
        (separated (members.map tokensOfMember) ++
          .endObject :: rest) =
      (members.foldlM next state).map (·, rest) := by
  refine run?_upTo (by simp) next ?_ ?_ state rest
  · intro member _
    exact ⟨_, _, rfl, by simp⟩
  · intro member hMem state rest
    rw [run?_member_append]
    exact hStep member hMem state rest

/- What is read as a member has a key and a colon before it. -/
theorem exists_of_run?_member
    {σ : Type}
    {step : String → σ → TextReader σ}
    {state after : σ}
    {tokens rest : List Token}
    (hRun :
      (TextReader.member key? step state).run? tokens =
        some (after, rest)) :
    ∃ key tail,
      tokens = .str key :: .colon :: tail ∧
        (step key state).run? tail = some (after, rest) := by
  rcases run?_eq_some_iff.mp hRun with ⟨_, hRead⟩
  unfold TextReader.member at hRead
  split at hRead
  · rename_i token tail _
    cases token with
    | str key =>
        refine ⟨key, tail, rfl, ?_⟩
        have hKey : key? (.str key) = some key := rfl
        rw [run?_member key? hKey] at hRun
        exact hRun
    | _ => cases hRead
  · cases hRead

/- A document without parts is one token. -/
theorem run?_document_leaf
    {token : Token}
    {j : Json}
    (hLeaf : leaf token = .ok j)
    (depth : Nat)
    (rest : List Token) :
    (document depth).run? (token :: rest) = some (j, rest) := by
  have hRead :
      (TextReader.single leaf).run? (token :: rest) =
        some (j, rest) := by
    rw [run?_single, hLeaf]
    rfl
  cases depth with
  | zero => exact hRead
  | succ depth =>
      have hObject : token ≠ .beginObject := by
        rintro rfl
        cases hLeaf
      have hArray : token ≠ .beginArray := by
        rintro rfl
        cases hLeaf
      rw [document, run?_opening_of_ne hObject,
        run?_opening_of_ne hArray, hRead]

/- The tokens of a document are read as this document. -/
theorem run?_document
    {depth : Nat}
    {j : Json}
    (hNests : Nests depth j)
    (rest : List Token) :
    (document depth).run? (j.tokens ++ rest) = some (j, rest) := by
  induction hNests generalizing rest with
  | null => exact run?_document_leaf rfl _ rest
  | bool b => exact run?_document_leaf rfl _ rest
  | num n => exact run?_document_leaf rfl _ rest
  | str s => exact run?_document_leaf rfl _ rest
  | @arr depth items _ ih =>
      rw [tokens_arr_append, document, run?_opening_of_ne (by simp),
        run?_opening_self, run?_map,
        run?_items fun done j => some (j :: done)]
      · rw [foldlM_cons_eq_reverse]
        simp
      · intro j hMem done rest
        rw [run?_map, ih j hMem]
        rfl
  | @obj depth members _ ih =>
      rw [tokens_obj_append, document, run?_opening_self, run?_map,
        run?_members fun done member => some (member :: done)]
      · rw [foldlM_cons_eq_reverse]
        simp
      · intro member hMem done rest
        rw [run?_map, ih member hMem]
        rfl

/- What is read as a document without parts is its token. -/
theorem tokens_of_run?_leaf
    {j : Json}
    {tokens rest : List Token}
    (hRun :
      (TextReader.single leaf).run? tokens = some (j, rest))
    (depth : Nat) :
    tokens = j.tokens ++ rest ∧ Nests depth j := by
  cases tokens with
  | nil => cases hRun
  | cons token tail =>
      rw [run?_single] at hRun
      cases token with
      | null => cases hRun; exact ⟨rfl, .null⟩
      | bool b => cases hRun; exact ⟨rfl, .bool b⟩
      | num n => cases hRun; exact ⟨rfl, .num n⟩
      | str s => cases hRun; exact ⟨rfl, .str s⟩
      | _ => cases hRun

section Inside

variable {depth : Nat} {tokens rest : List Token}
variable
  (hDocument :
    ∀ j tokens rest,
      (document depth).run? tokens = some (j, rest) →
        tokens = j.tokens ++ rest ∧ Nests depth j)

include hDocument

/- What is read inside an object are the tokens of members. -/
theorem tokens_of_run?_members
    {done : List (String × Json)}
    (hRun :
      (TextReader.members
          (fun key done =>
            (document depth).map fun j => (key, j) :: done)
          []).run? tokens =
        some (done, rest)) :
    .beginObject :: tokens = (Json.obj done.reverse).tokens ++ rest ∧
      Nests (depth + 1) (.obj done.reverse) := by
  have hStep :
      ∀ before tokens after rest,
        (TextReader.member key?
            (fun key done =>
              (document depth).map fun j => (key, j) :: done)
            before).run? tokens =
            some (after, rest) →
          ∃ member,
            tokens = tokensOfMember member ++ rest ∧
              Nests depth member.2 ∧ after = member :: before := by
    intro before tokens after rest hMember
    rcases exists_of_run?_member hMember with
      ⟨key, tail, rfl, hValue⟩
    rw [run?_map] at hValue
    rcases Option.map_eq_some_iff.mp hValue with
      ⟨⟨j, left⟩, hRead, hEq⟩
    cases hEq
    rcases hDocument j tail left hRead with ⟨rfl, hNests⟩
    exact ⟨(key, j), rfl, hNests, rfl⟩
  rcases exists_of_run?_upTo (fun member => Nests depth member.2)
      (fun done member => member :: done) hStep hRun with
    ⟨parts, hTokens, hNests, hDone⟩
  have hParts : done.reverse = parts := by
    rw [hDone, List.foldl_flip_cons_eq_append', List.append_nil,
      List.reverse_reverse]
  rw [hParts, tokens_obj_append, hTokens]
  exact ⟨rfl, .obj hNests⟩

/- What is read inside an array are the tokens of items. -/
theorem tokens_of_run?_items
    {done : List Json}
    (hRun :
      (TextReader.items
          (fun done => (document depth).map fun j => j :: done)
          []).run? tokens =
        some (done, rest)) :
    .beginArray :: tokens = (Json.arr done.reverse).tokens ++ rest ∧
      Nests (depth + 1) (.arr done.reverse) := by
  have hStep :
      ∀ before tokens after rest,
        ((document depth).map fun j => j :: before).run? tokens =
            some (after, rest) →
          ∃ j,
            tokens = Json.tokens j ++ rest ∧
              Nests depth j ∧ after = j :: before := by
    intro before tokens after rest hItem
    rw [run?_map] at hItem
    rcases Option.map_eq_some_iff.mp hItem with
      ⟨⟨j, left⟩, hRead, hEq⟩
    cases hEq
    rcases hDocument j tokens left hRead with ⟨rfl, hNests⟩
    exact ⟨j, rfl, hNests, rfl⟩
  rcases exists_of_run?_upTo (Nests depth)
      (fun done j => j :: done) hStep hRun with
    ⟨parts, hTokens, hNests, hDone⟩
  have hParts : done.reverse = parts := by
    rw [hDone, List.foldl_flip_cons_eq_append', List.append_nil,
      List.reverse_reverse]
  rw [hParts, tokens_arr_append, hTokens]
  exact ⟨rfl, .arr hNests⟩

end Inside

/-
  What is read as a document are its tokens. The induction
  is on the depth that is left.
-/
theorem tokens_of_run?_document
    {depth : Nat}
    {j : Json}
    {tokens rest : List Token}
    (hRun : (document depth).run? tokens = some (j, rest)) :
    tokens = j.tokens ++ rest ∧ Nests depth j := by
  induction depth generalizing j tokens rest with
  | zero => exact tokens_of_run?_leaf hRun 0
  | succ depth ih =>
      cases tokens with
      | nil => cases hRun
      | cons token tail =>
          rw [document] at hRun
          by_cases hObject : token = .beginObject
          · subst hObject
            rw [run?_opening_self, run?_map] at hRun
            rcases Option.map_eq_some_iff.mp hRun with
              ⟨⟨done, left⟩, hMembers, hEq⟩
            cases hEq
            exact tokens_of_run?_members (fun _ _ _ => ih) hMembers
          · rw [run?_opening_of_ne hObject] at hRun
            by_cases hArray : token = .beginArray
            · subst hArray
              rw [run?_opening_self, run?_map] at hRun
              rcases Option.map_eq_some_iff.mp hRun with
                ⟨⟨done, left⟩, hItems, hEq⟩
              cases hEq
              exact tokens_of_run?_items (fun _ _ _ => ih) hItems
            · rw [run?_opening_of_ne hArray] at hRun
              exact tokens_of_run?_leaf hRun (depth + 1)

/- A text is read if all of its tokens are. -/
theorem toOption_ofText
    {α : Type}
    (read : TextReader α)
    (text : String) :
    (ofText read text).toOption =
      (tokens? text.toList).bind fun tokens =>
        (read.run? tokens).bind fun found =>
          if found.2 = [] then some found.1 else none := by
  unfold ofText run?
  cases tokens? text.toList with
  | none => rfl
  | some tokens =>
      simp only [Option.bind_some]
      cases read tokens with
      | error e => rfl
      | ok found =>
          simp only [List.isEmpty_iff]
          by_cases hRest : found.rest = []
          · simp [hRest, Read.result]
          · simp [hRest, Read.result]

/- A text has a document if it has its tokens. -/
theorem parse?_eq_some_iff
    {depth : Nat}
    {text : String}
    {j : Json} :
    parse? depth text = some j ↔
      tokens? text.toList = some j.tokens ∧ Nests depth j := by
  rw [parse?, toOption_ofText]
  constructor
  · intro hSome
    rcases Option.bind_eq_some_iff.mp hSome with
      ⟨tokens, hTokens, hRest⟩
    rcases Option.bind_eq_some_iff.mp hRest with
      ⟨⟨found, left⟩, hRun, hDone⟩
    split at hDone
    · rename_i hLeft
      cases hLeft
      cases hDone
      rcases tokens_of_run?_document hRun with ⟨rfl, hNests⟩
      rw [List.append_nil] at hTokens
      exact ⟨hTokens, hNests⟩
    · cases hDone
  · rintro ⟨hTokens, hNests⟩
    have hRun := run?_document hNests []
    rw [List.append_nil] at hRun
    rw [hTokens, Option.bind_some, hRun]
    rfl

end Json

end PolicyCheck
