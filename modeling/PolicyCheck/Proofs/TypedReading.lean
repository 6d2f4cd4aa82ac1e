import Mathlib.Tactic.SplitIfs
import PolicyCheck.Proofs.Tokens

/-
  Typed data that is read from the tokens of a document, and
  the same data decoded from the document. Each reader for
  tokens goes with a decoder for documents: it reads what is
  decoded, stops where the tokens of the document end, and
  fails where decoding fails. Readers that are made of such
  readers in the same way as decoders are made of decoders
  are such readers again.

  Main declarations:
    * `Json.ReadsLike`
    * `Json.run?_skip`
    * `Json.ReadsLike.list`
    * `Json.ReadsLike.table`
    * `Json.ReadsLike.uniqueTable`
    * `Json.FieldsLike`
    * `Json.FieldsLike.ofTokens`
    * `Json.ReadsLike.ofText`
-/

namespace PolicyCheck

namespace Json

open TextReader

variable {α β : Type} {depth : Nat}

------------------------------------------------------------
-- Plain Data
------------------------------------------------------------

/-
  From the tokens of a document that nests at most so deep
  a reader reads what is decoded from the document, and
  leaves the tokens after it.
-/
def ReadsLike
    (depth : Nat)
    (read : TextReader α)
    (decode : Json → Decoded α) : Prop :=
  ∀ j rest, Nests depth j →
    read.run? (j.tokens ++ rest) =
      (decode j).toOption.map (·, rest)

/- A string is one token. -/
theorem readsLike_string :
    ReadsLike depth string asString := by
  intro j rest _
  cases j <;> simp [tokens, string, asString]

/- So is a truth value. -/
theorem readsLike_bool :
    ReadsLike depth TextReader.bool asBool := by
  intro j rest _
  cases j <;> simp [tokens, TextReader.bool, asBool]

/- A document is read as it is. -/
theorem readsLike_document :
    ReadsLike depth (document depth) .ok := by
  intro j rest hNests
  exact run?_document hNests rest

namespace ReadsLike

variable {read : TextReader α} {decode : Json → Decoded α}

/- Data is made of what is read and of what is decoded. -/
theorem map
    (hRead : ReadsLike depth read decode)
    (f : α → β) :
    ReadsLike depth (read.map f) fun j => (decode j).map f := by
  intro j rest hNests
  simp [hRead j rest hNests, Function.comp_def]

/- What is read can be decoded further. -/
theorem refine
    (hRead : ReadsLike depth read decode)
    (further : α → Decoded β) :
    ReadsLike depth (read.refine further) fun j =>
      decode j >>= further := by
  intro j rest hNests
  rw [run?_refine, hRead j rest hNests, toOption_bind]
  cases (decode j).toOption <;> rfl

/- Data may be absent in both. -/
theorem option
    (hRead : ReadsLike depth read decode) :
    ReadsLike depth (TextReader.option read) (asOption decode) := by
  intro j rest hNests
  have hSome := hRead.map some j rest hNests
  cases j with
  | null => rfl
  | arr items =>
      rw [tokens_arr_append] at hSome ⊢
      exact hSome
  | obj members =>
      rw [tokens_obj_append] at hSome ⊢
      exact hSome
  | _ => exact hSome

/-
  Data that is only in containers is not read where no more
  of them may be opened, and neither is it there.
-/
theorem tooDeep
    (hLeaf : ∀ j, Nests 0 j → (decode j).toOption = none) :
    ReadsLike 0 TextReader.tooDeep decode := by
  intro j rest hNests
  rw [run?_tooDeep, hLeaf j hNests]
  rfl

/-
  A reader for containers, with what is left of the depth
  inside of them.
-/
theorem within
    {inside : Nat → TextReader α}
    (hLeaf : ∀ j, Nests 0 j → (decode j).toOption = none)
    (hInside :
      ∀ depth, ReadsLike (depth + 1) (inside depth) decode)
    (depth : Nat) :
    ReadsLike depth (TextReader.within inside depth) decode := by
  cases depth with
  | zero => exact tooDeep hLeaf
  | succ depth => exact hInside depth

end ReadsLike

------------------------------------------------------------
-- Lists And Tables
------------------------------------------------------------

/- A list is not in a document without containers. -/
theorem toOption_asList_of_nests
    (decode : Json → Decoded α)
    (j : Json)
    (hNests : Nests 0 j) :
    (j.asList decode).toOption = none := by
  cases hNests <;> rfl

/- A table is not in it either. -/
theorem toOption_asMap_of_nests
    (decode : Json → Decoded α)
    (j : Json)
    (hNests : Nests 0 j) :
    (j.asMap decode).toOption = none := by
  cases hNests <;> rfl

/- Nor is a table in which no key is bound twice. -/
theorem toOption_asUniqueMap_of_nests
    (decode : Json → Decoded α)
    (j : Json)
    (hNests : Nests 0 j) :
    (j.asUniqueMap decode).toOption = none := by
  cases hNests <;> rfl

/- Data that is put before other data comes out in reverse. -/
theorem foldlM_decode_eq
    (decode : Json → Decoded α)
    (items : List Json)
    (done : List α) :
    items.foldlM
        (fun done j => (decode j).toOption.map fun a => a :: done)
        done =
      (items.mapM decode).toOption.map fun as =>
        as.reverse ++ done := by
  induction items generalizing done with
  | nil => rfl
  | cons j items ih =>
      rw [List.foldlM_cons, List.mapM_cons, toOption_bind]
      cases (decode j).toOption with
      | none => rfl
      | some a =>
          simp only [Option.map_some, Option.bind_some,
            toOption_bind]
          refine (ih (a :: done)).trans ?_
          cases (items.mapM decode).toOption with
          | none => rfl
          | some as => simp [pure, Except.pure]

/- The members of a table are bound one after the other. -/
theorem foldlM_bindMembers_eq
    (decode : Json → Decoded α)
    (members : List (String × Json))
    (done : Assoc String α) :
    members.foldlM
        (fun (done : Assoc String α) member =>
          (decode member.2).toOption.map fun a =>
            done.insert member.1 a)
        done =
      (bindMembers decode done members).toOption := by
  induction members generalizing done with
  | nil => rfl
  | cons member members ih =>
      rcases member with ⟨key, j⟩
      rw [List.foldlM_cons, bindMembers, toOption_bind]
      cases (decode j).toOption with
      | none => rfl
      | some a => exact ih (done.insert key a)

/- So are those of a table in which no key is bound twice. -/
theorem foldlM_bindUniqueMembers_eq
    (decode : Json → Decoded α)
    (members : List (String × Json))
    (done : Assoc String α) :
    members.foldlM
        (fun (done : Assoc String α) member =>
          (decode member.2).toOption.bind fun a =>
            if done.contains member.1 then none
            else some (done.insert member.1 a))
        done =
      (bindUniqueMembers decode done members).toOption := by
  induction members generalizing done with
  | nil => rfl
  | cons member members ih =>
      rcases member with ⟨key, j⟩
      rw [List.foldlM_cons, bindUniqueMembers, toOption_bind]
      cases (decode j).toOption with
      | none => rfl
      | some a =>
          simp only [Option.bind_some]
          split_ifs
          · rfl
          · exact ih (done.insert key a)

namespace ReadsLike

variable {read : TextReader α} {decode : Json → Decoded α}

/- The items of a list are read like each of them is. -/
theorem list
    (hRead : ReadsLike depth read decode) :
    ReadsLike (depth + 1) (TextReader.list read)
      (asList decode) := by
  intro j rest hNests
  cases hNests with
  | @arr _ items hItems =>
      rw [tokens_arr_append, TextReader.list, run?_opening_self,
        run?_map,
        run?_items fun done j =>
          (decode j).toOption.map fun a => a :: done]
      · rw [foldlM_decode_eq, asList]
        cases (items.mapM decode).toOption <;> simp
      · intro j hMem done rest
        rw [run?_map, hRead j rest (hItems j hMem)]
        cases (decode j).toOption <;> rfl
  | obj hMembers =>
      rw [tokens_obj_append, TextReader.list,
        run?_opening_of_ne (by simp), run?_refuse]
      rfl
  | _ => rfl

/- The values of a table are read like each of them is. -/
theorem table
    (hRead : ReadsLike depth read decode) :
    ReadsLike (depth + 1) (TextReader.table read)
      (asMap decode) := by
  intro j rest hNests
  cases hNests with
  | @obj _ members hMembers =>
      rw [tokens_obj_append, TextReader.table, run?_opening_self,
        run?_members fun (done : Assoc String α) member =>
          (decode member.2).toOption.map fun a =>
            done.insert member.1 a]
      · rw [foldlM_bindMembers_eq]
        rfl
      · intro member hMem done rest
        rw [run?_map,
          hRead member.2 rest (hMembers member hMem)]
        cases (decode member.2).toOption <;> rfl
  | arr hItems =>
      rw [tokens_arr_append, TextReader.table,
        run?_opening_of_ne (by simp), run?_refuse]
      rfl
  | _ => rfl

/- So are those of a table in which no key is bound twice. -/
theorem uniqueTable
    (hRead : ReadsLike depth read decode) :
    ReadsLike (depth + 1) (TextReader.uniqueTable read)
      (asUniqueMap decode) := by
  intro j rest hNests
  cases hNests with
  | @obj _ members hMembers =>
      rw [tokens_obj_append, TextReader.uniqueTable,
        run?_opening_self,
        run?_members fun (done : Assoc String α) member =>
          (decode member.2).toOption.bind fun a =>
            if done.contains member.1 then none
            else some (done.insert member.1 a)]
      · rw [foldlM_bindUniqueMembers_eq]
        rfl
      · intro member hMem done rest
        rw [run?_refine,
          hRead member.2 rest (hMembers member hMem)]
        cases (decode member.2).toOption with
        | none => rfl
        | some a =>
            simp only [Option.map_some, Option.bind_some]
            split_ifs <;> rfl
  | arr hItems =>
      rw [tokens_arr_append, TextReader.uniqueTable,
        run?_opening_of_ne (by simp), run?_refuse]
      rfl
  | _ => rfl

end ReadsLike

------------------------------------------------------------
-- Ignored Values
------------------------------------------------------------

/- A value that is one token can be ignored. -/
theorem run?_skipWithin_leaf
    {token : Token}
    (hLeaf : ignorable token = .ok ())
    (depth : Nat)
    (rest : List Token) :
    (skipWithin depth).run? (token :: rest) = some ((), rest) := by
  have hRead :
      (single ignorable).run? (token :: rest) =
        some ((), rest) := by
    rw [run?_single, hLeaf]
    rfl
  cases depth with
  | zero => exact hRead
  | succ depth =>
      have hObject : token ≠ .beginObject := by
        rintro rfl
        cases hLeaf
      have hArray : token ≠ .beginArray := by
        rintro rfl
        cases hLeaf
      rw [skipWithin, run?_opening_of_ne hObject,
        run?_opening_of_ne hArray, hRead]

/- What is ignored leaves nothing behind. -/
theorem foldlM_ignore_eq
    {ι : Type}
    (parts : List ι) :
    parts.foldlM (fun _ _ => some ()) () = some () := by
  induction parts with
  | nil => rfl
  | cons part parts ih => exact ih

/- A document that nests so deep can be ignored. -/
theorem run?_skipWithin
    {j : Json}
    (hNests : Nests depth j)
    (rest : List Token) :
    (skipWithin depth).run? (j.tokens ++ rest) =
      some ((), rest) := by
  induction hNests generalizing rest with
  | null => exact run?_skipWithin_leaf rfl _ rest
  | bool b => exact run?_skipWithin_leaf rfl _ rest
  | num n => exact run?_skipWithin_leaf rfl _ rest
  | str s => exact run?_skipWithin_leaf rfl _ rest
  | @arr depth items _ ih =>
      rw [tokens_arr_append, skipWithin,
        run?_opening_of_ne (by simp), run?_opening_self,
        run?_items fun _ _ => some ()]
      · rw [foldlM_ignore_eq]
        rfl
      · intro j hMem _ rest
        exact ih j hMem rest
  | @obj depth members _ ih =>
      rw [tokens_obj_append, skipWithin, run?_opening_self,
        run?_upTo (by simp) fun _ _ => some ()]
      · rw [foldlM_ignore_eq]
        rfl
      · intro member _
        exact ⟨_, _, rfl, by simp⟩
      · intro member hMem _ rest
        have hKey : ignorableKey? (.str member.1) = some () := rfl
        rw [tokensOfMember, List.cons_append, List.cons_append,
          run?_member ignorableKey? hKey]
        exact ih member hMem rest

/- Every document can be ignored. -/
theorem run?_skip
    (j : Json)
    (rest : List Token) :
    skip.run? (j.tokens ++ rest) = some ((), rest) := by
  have hNests : Nests (j.tokens ++ rest).length j := by
    apply (nests_length_tokens j).mono
    rw [List.length_append]
    exact Nat.le_add_right _ _
  exact run?_skipWithin hNests rest

------------------------------------------------------------
-- Structures
------------------------------------------------------------

/-
  Fields of a structure are read like they are set: what is
  read for a field changes the structure as it does when it
  is decoded.
-/
def FieldsLike
    (depth : Nat)
    (field : String → TextReader (α → α))
    (set : String → Json → α → Decoded α) : Prop :=
  ∀ name j rest partly, Nests depth j →
    ((field name).run? (j.tokens ++ rest)).map
        (Prod.map (fun change => change partly) id) =
      (set name j partly).toOption.map (·, rest)

/- What a field changes goes on into more than the structure. -/
theorem FieldsLike.run?_map
    {field : String → TextReader (α → α)}
    {set : String → Json → α → Decoded α}
    (hFields : FieldsLike depth field set)
    {name : String}
    {j : Json}
    {rest : List Token}
    {partly : α}
    (hNests : Nests depth j)
    (f : α → β) :
    ((field name).map fun change => f (change partly)).run?
        (j.tokens ++ rest) =
      (set name j partly).toOption.map fun next => (f next, rest) := by
  rw [TextReader.run?_map]
  calc
    _ = (((field name).run? (j.tokens ++ rest)).map
          (Prod.map (fun change => change partly) id)).map
          (Prod.map f id) := by
      rw [Option.map_map, Prod.map_comp_map]
      rfl
    _ = _ := by
      rw [hFields name j rest partly hNests, Option.map_map]
      rfl

/- A field that is decoded and then put into the structure. -/
theorem ReadsLike.field
    {read : TextReader β}
    {decode : Json → Decoded β}
    (hRead : ReadsLike depth read decode)
    (update : β → α → α)
    (j : Json)
    (rest : List Token)
    (partly : α)
    (hNests : Nests depth j) :
    ((read.map update).run? (j.tokens ++ rest)).map
        (Prod.map (fun change => change partly) id) =
      (decode j >>= fun b => Except.ok (update b partly)).toOption.map
        (·, rest) := by
  rw [run?_map, hRead j rest hNests, toOption_bind]
  cases (decode j).toOption <;> rfl

namespace Layout

variable (layout : Layout)

/- One member of a structure, after some fields were given. -/
def nextMember
    (set : String → Json → α → Decoded α)
    (state : List String × α)
    (member : String × Json) : Option (List String × α) :=
  if layout.fields.contains member.1 then
    if state.1.contains member.1 then none
    else
      (set member.1 member.2 state.2).toOption.map
        (member.1 :: state.1, ·)
  else if layout.closed then none
  else some state

/- A structure is assembled member by member. -/
theorem toOption_assembleMembers
    (set : String → Json → α → Decoded α)
    (members : List (String × Json))
    (given : List String)
    (partly : α) :
    (layout.assembleMembers given partly
        (members.map fun member =>
          (member.1, set member.1 member.2))).toOption =
      (members.foldlM (layout.nextMember set) (given, partly)).bind
        fun state =>
          (complete state.2 (layout.missing? state.1)).toOption := by
  induction members generalizing given partly with
  | nil =>
      rw [List.map_nil, assembleMembers, List.foldlM_nil,
        Option.pure_def, Option.bind_some]
      cases layout.missing? given <;> rfl
  | cons member members ih =>
      rw [List.map_cons, assembleMembers, List.foldlM_cons,
        nextMember]
      split_ifs
      · rfl
      · rw [toOption_bind]
        cases (set member.1 member.2 partly).toOption with
        | none => rfl
        | some next => exact ih (member.1 :: given) next
      · rfl
      · exact ih given partly

/- One item of a structure, for the first field that is left. -/
def nextItem
    (set : String → Json → α → Decoded α) :
    List String × α → Json → Option (List String × α)
  | ([], _), _ => none
  | (name :: left, partly), j =>
      (set name j partly).toOption.map (left, ·)

/- A structure is assembled item by item. -/
theorem toOption_assembleItems
    (set : String → Json → α → Decoded α)
    (items : List Json)
    (left : List String)
    (partly : α) :
    (layout.assembleItems partly left
        (items.map fun j name => set name j)).toOption =
      (items.foldlM (nextItem set) (left, partly)).bind
        fun state =>
          (complete state.2
            (layout.required.find? fun name =>
              state.1.contains name)).toOption := by
  induction items generalizing left partly with
  | nil =>
      rw [List.map_nil, assembleItems, List.foldlM_nil, Option.pure_def,
        Option.bind_some]
      cases layout.required.find? fun name => left.contains name <;>
        rfl
  | cons j items ih =>
      cases left with
      | nil => rfl
      | cons name left =>
          rw [List.map_cons, assembleItems, List.foldlM_cons,
            nextItem, toOption_bind]
          cases (set name j partly).toOption with
          | none => rfl
          | some next => exact ih left next

variable
  {field : String → TextReader (α → α)}
  {set : String → Json → α → Decoded α}

/- A member is read like it is assembled. -/
theorem run?_memberOfTokens
    (hFields : FieldsLike depth field set)
    {member : String × Json}
    (hNests : Nests depth member.2)
    (state : List String × α)
    (rest : List Token) :
    (layout.memberOfTokens field member.1 state).run?
        (member.2.tokens ++ rest) =
      (layout.nextMember set state member).map (·, rest) := by
  rw [memberOfTokens, nextMember]
  split_ifs
  · exact run?_fail _ _
  · rw [hFields.run?_map hNests (member.1 :: state.1, ·),
      Option.map_map]
    rfl
  · exact run?_fail _ _
  · rw [run?_map, run?_skip]
    rfl

/- An item is read like it is assembled. -/
theorem run?_itemOfTokens
    (hFields : FieldsLike depth field set)
    {j : Json}
    (hNests : Nests depth j)
    (state : List String × α)
    (rest : List Token) :
    (itemOfTokens field state).run? (j.tokens ++ rest) =
      (nextItem set state j).map (·, rest) := by
  rcases state with ⟨_ | ⟨name, left⟩, partly⟩
  · exact run?_fail _ _
  · rw [itemOfTokens, hFields.run?_map hNests (left, ·),
      nextItem, Option.map_map]
    rfl

end Layout

/- A structure is not in a document without containers. -/
theorem Layout.toOption_decode_of_nests
    (layout : Layout)
    (set : String → Json → α → Decoded α)
    (default : α)
    (j : Json)
    (hNests : Nests 0 j) :
    (layout.decode set default j).toOption = none := by
  cases hNests <;> rfl

/-
  A structure whose fields are read like they are set is
  read like it is decoded, from an object and from an array.
-/
theorem FieldsLike.ofTokens
    {field : String → TextReader (α → α)}
    {set : String → Json → α → Decoded α}
    (hFields : FieldsLike depth field set)
    (layout : Layout)
    (default : α) :
    ReadsLike (depth + 1) (layout.ofTokens field default)
      (layout.decode set default) := by
  intro j rest hNests
  rw [Layout.ofTokens]
  cases hNests with
  | @obj _ members hMembers =>
      rw [tokens_obj_append, run?_opening_self, run?_refine,
        run?_members (layout.nextMember set)]
      · rw [Layout.decode, layout.toOption_assembleMembers set,
          Option.bind_map, Option.map_bind]
        rfl
      · intro member hMem
        exact layout.run?_memberOfTokens hFields
          (hMembers member hMem)
  | @arr _ items hItems =>
      rw [tokens_arr_append, run?_opening_of_ne (by simp),
        run?_opening_self, run?_refine,
        run?_items (Layout.nextItem set)]
      · rw [Layout.decode, layout.toOption_assembleItems set,
          Option.bind_map, Option.map_bind]
        rfl
      · intro j hMem
        exact Layout.run?_itemOfTokens hFields (hItems j hMem)
  | _ => rfl

------------------------------------------------------------
-- Texts
------------------------------------------------------------

/- The data of a text is what is decoded from its document. -/
theorem ReadsLike.ofText
    {read : TextReader α}
    {decode : Json → Decoded α}
    (hRead : ReadsLike depth read decode)
    {text : String}
    {document : Json}
    (hParse : parse? depth text = some document) :
    (Json.ofText read text).toOption =
      (decode document).toOption := by
  rcases parse?_eq_some_iff.mp hParse with ⟨hTokens, hNests⟩
  have hRun := hRead document [] hNests
  rw [List.append_nil] at hRun
  rw [toOption_ofText, hTokens, Option.bind_some, hRun]
  cases (decode document).toOption <;> rfl

end Json

end PolicyCheck
