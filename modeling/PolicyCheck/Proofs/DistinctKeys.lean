import PolicyCheck.Proofs.Assoc
import PolicyCheck.Json.Basic

/-
  Documents in which no object repeats a key. Collapsing a
  document makes it one of them, and leaves alone those that
  are.

  Main declarations:
    * `Json.induction`
    * `Json.parts_induction`
    * `Json.NoRepeats`
    * `Json.noRepeats_collapse`
    * `Json.collapse_eq_self`
-/

------------------------------------------------------------
-- Induction On Documents
------------------------------------------------------------

namespace PolicyCheck

namespace Json

/-
  What holds of a document if it holds of its items, or of
  the values of its members, holds of all documents.
-/
@[elab_as_elim]
theorem induction
    {P : Json → Prop}
    (null : P .null)
    (bool : ∀ b, P (.bool b))
    (num : ∀ n, P (.num n))
    (str : ∀ s, P (.str s))
    (arr : ∀ items, (∀ j ∈ items, P j) → P (.arr items))
    (obj :
      ∀ members, (∀ member ∈ members, P member.2) →
        P (.obj members)) :
    ∀ j, P j
  | .null => null
  | .bool b => bool b
  | .num n => num n
  | .str s => str s
  | .arr items =>
      arr items fun j _ => induction null bool num str arr obj j
  | .obj members =>
      obj members fun ⟨_, j⟩ _ =>
        induction null bool num str arr obj j
termination_by j => sizeOf j
decreasing_by
  · rename_i hMem
    have hLt := List.sizeOf_lt_of_mem hMem
    simp only [Json.arr.sizeOf_spec]
    omega
  · rename_i key hMem
    have hLt := List.sizeOf_lt_of_mem hMem
    simp only [Prod.mk.sizeOf_spec] at hLt
    simp only [Json.obj.sizeOf_spec]
    omega

/- The items of an array, or the values of an object. -/
def parts : Json → List Json
  | .arr items => items
  | .obj members => Assoc.values members
  | _ => []

/- The value of a member is a part. -/
theorem mem_parts_of_member
    {members : List (String × Json)}
    {key : String}
    {value : Json}
    (hMember : (key, value) ∈ members) :
    value ∈ (Json.obj members).parts :=
  List.mem_map.mpr ⟨(key, value), hMember, rfl⟩

/- What holds of a document if it holds of its parts holds. -/
@[elab_as_elim]
theorem parts_induction
    {P : Json → Prop}
    (j : Json)
    (step : ∀ j, (∀ part ∈ j.parts, P part) → P j) :
    P j := by
  induction j using Json.induction with
  | null => exact step .null (by simp [parts])
  | bool b => exact step (.bool b) (by simp [parts])
  | num n => exact step (.num n) (by simp [parts])
  | str s => exact step (.str s) (by simp [parts])
  | arr items ih => exact step (.arr items) ih
  | obj members ih =>
      apply step (.obj members)
      intro part hPart
      rcases List.mem_map.mp hPart with ⟨member, hMember, rfl⟩
      exact ih member hMember

------------------------------------------------------------
-- Distinct Keys
------------------------------------------------------------

/- No object of a document, at whatever depth, repeats a key. -/
inductive NoRepeats : Json → Prop where
  | null : NoRepeats .null
  | bool (b : Bool) : NoRepeats (.bool b)
  | num (n : Number) : NoRepeats (.num n)
  | str (s : String) : NoRepeats (.str s)
  | arr
      {items : List Json}
      (hItems : ∀ j ∈ items, NoRepeats j) :
      NoRepeats (.arr items)
  | obj
      {members : List (String × Json)}
      (hKeys : (Assoc.keys members).Nodup)
      (hValues : ∀ member ∈ members, NoRepeats member.2) :
      NoRepeats (.obj members)

attribute [simp] NoRepeats.null NoRepeats.bool NoRepeats.num
  NoRepeats.str

/- An array has no repeats if its items have none. -/
@[simp] theorem noRepeats_arr_iff
    {items : List Json} :
    (Json.arr items).NoRepeats ↔ ∀ j ∈ items, j.NoRepeats := by
  constructor
  · intro hArr
    cases hArr with
    | arr hItems => exact hItems
  · exact NoRepeats.arr

/- An object has no repeats if neither it nor a value has any. -/
@[simp] theorem noRepeats_obj_iff
    {members : List (String × Json)} :
    (Json.obj members).NoRepeats ↔
      (Assoc.keys members).Nodup ∧
        ∀ member ∈ members, member.2.NoRepeats := by
  constructor
  · intro hObj
    cases hObj with
    | obj hKeys hValues => exact ⟨hKeys, hValues⟩
  · exact fun ⟨hKeys, hValues⟩ => .obj hKeys hValues

/- No part of a document without repeats has any. -/
theorem NoRepeats.of_mem_parts
    {j part : Json}
    (hKeys : j.NoRepeats)
    (hPart : part ∈ j.parts) :
    part.NoRepeats := by
  cases hKeys with
  | arr hItems => exact hItems part hPart
  | obj _ hValues =>
      rcases List.mem_map.mp hPart with ⟨member, hMember, rfl⟩
      exact hValues member hMember
  | _ => simp [parts] at hPart

------------------------------------------------------------
-- Setting Members
------------------------------------------------------------

/- A member with a new key is the last one. -/
theorem setMember_of_new
    {key : String}
    {members : List (String × Json)}
    (hNew : key ∉ Assoc.keys members)
    (value : Json) :
    setMember key value members = members ++ [(key, value)] := by
  induction members with
  | nil => rfl
  | cons member rest ih =>
      rcases member with ⟨k, v⟩
      have hParts : key ≠ k ∧ key ∉ Assoc.keys rest := by
        simpa [Assoc.keys] using hNew
      rw [setMember, if_neg (Ne.symm hParts.1), ih hParts.2]
      rfl

/- A member was set now or before. -/
theorem mem_setMember
    {key : String}
    {value : Json}
    {members : List (String × Json)}
    {member : String × Json}
    (hMem : member ∈ setMember key value members) :
    member = (key, value) ∨ member ∈ members := by
  induction members with
  | nil => exact Or.inl (List.mem_singleton.mp hMem)
  | cons first rest ih =>
      rcases first with ⟨k, v⟩
      rw [setMember] at hMem
      split at hMem
      · rcases List.mem_cons.mp hMem with hHere | hThere
        · exact Or.inl hHere
        · exact Or.inr (List.mem_cons_of_mem _ hThere)
      · rcases List.mem_cons.mp hMem with hHere | hThere
        · exact Or.inr (hHere ▸ List.mem_cons_self)
        · rcases ih hThere with hNow | hBefore
          · exact Or.inl hNow
          · exact Or.inr (List.mem_cons_of_mem _ hBefore)

/- Setting a member repeats no key. -/
theorem nodup_keys_setMember
    {members : List (String × Json)}
    (hKeys : (Assoc.keys members).Nodup)
    (key : String)
    (value : Json) :
    (Assoc.keys (setMember key value members)).Nodup := by
  induction members with
  | nil => simp [setMember, Assoc.keys]
  | cons member rest ih =>
      rcases member with ⟨k, v⟩
      have hParts : k ∉ Assoc.keys rest ∧ (Assoc.keys rest).Nodup :=
        List.nodup_cons.mp hKeys
      rw [setMember]
      split
      · rename_i hSame
        rw [← hSame]
        exact hKeys
      · rename_i hOther
        refine List.nodup_cons.mpr ⟨?_, ih hParts.2⟩
        intro hMem
        rcases List.mem_map.mp hMem with
          ⟨⟨other, found⟩, hFound, rfl⟩
        rcases mem_setMember hFound with hNow | hBefore
        · exact hOther (Prod.mk.inj hNow).1
        · exact hParts.1 (Assoc.mem_keys_of_mem hBefore)

------------------------------------------------------------
-- Collapsing
------------------------------------------------------------

/- The items of an array are collapsed one by one. -/
theorem collapseItems_eq_map
    (items : List Json) :
    collapseItems items = items.map collapse := by
  induction items with
  | nil => rfl
  | cons j rest ih => rw [collapseItems, ih, List.map_cons]

/-
  Collapsed members have different keys, and values without
  repeats, provided that those before them have.
-/
theorem noRepeats_collapseMembers
    {members : List (String × Json)}
    (hMembers :
      ∀ member ∈ members, member.2.collapse.NoRepeats)
    {done : List (String × Json)}
    (hDone : (Json.obj done).NoRepeats) :
    (Json.obj (collapseMembers done members)).NoRepeats := by
  induction members generalizing done with
  | nil =>
      rw [collapseMembers]
      exact hDone
  | cons member rest ih =>
      rcases member with ⟨k, v⟩
      rw [collapseMembers]
      apply ih
      · intro other hMem
        exact hMembers other (List.mem_cons_of_mem _ hMem)
      · rw [noRepeats_obj_iff] at hDone ⊢
        refine ⟨nodup_keys_setMember hDone.1 k _, ?_⟩
        intro other hMem
        rcases mem_setMember hMem with rfl | hBefore
        · exact hMembers (k, v) List.mem_cons_self
        · exact hDone.2 other hBefore

/- A collapsed document has no repeats. -/
theorem noRepeats_collapse
    (j : Json) :
    j.collapse.NoRepeats := by
  induction j using Json.induction with
  | null => exact .null
  | bool b => exact .bool b
  | num n => exact .num n
  | str s => exact .str s
  | arr items ih =>
      rw [collapse, collapseItems_eq_map, noRepeats_arr_iff]
      intro j hMem
      rcases List.mem_map.mp hMem with ⟨item, hItem, rfl⟩
      exact ih item hItem
  | obj members ih =>
      rw [collapse]
      apply noRepeats_collapseMembers ih
      simp [Assoc.keys]

/-
  Members with new and different keys, whose values collapse
  to themselves, are put after those before them.
-/
theorem collapseMembers_eq_append
    {done members : List (String × Json)}
    (hKeys : (Assoc.keys (done ++ members)).Nodup)
    (hValues :
      ∀ member ∈ members, member.2.collapse = member.2) :
    collapseMembers done members = done ++ members := by
  induction members generalizing done with
  | nil => rw [collapseMembers, List.append_nil]
  | cons member rest ih =>
      rcases member with ⟨k, v⟩
      have hSplit :
          done ++ (k, v) :: rest = (done ++ [(k, v)]) ++ rest := by
        simp
      have hNew : k ∉ Assoc.keys done := by
        simp only [Assoc.keys, List.map_append, List.map_cons]
          at hKeys
        intro hMem
        exact
          (List.nodup_append.mp hKeys).2.2 k hMem k
            List.mem_cons_self rfl
      rw [collapseMembers, hValues (k, v) List.mem_cons_self,
        setMember_of_new hNew, hSplit]
      apply ih
      · rw [← hSplit]
        exact hKeys
      · intro other hMem
        exact hValues other (List.mem_cons_of_mem _ hMem)

/- A document without repeats is left as it is. -/
theorem collapse_eq_self
    {j : Json}
    (hKeys : j.NoRepeats) :
    j.collapse = j := by
  induction hKeys with
  | null => rfl
  | bool b => rfl
  | num n => rfl
  | str s => rfl
  | @arr items _ ih =>
      rw [collapse, collapseItems_eq_map, List.map_congr_left ih,
        List.map_id']
  | @obj members hKeys _ ih =>
      rw [collapse]
      exact congrArg Json.obj (collapseMembers_eq_append hKeys ih)

end Json

end PolicyCheck
