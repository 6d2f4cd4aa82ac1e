import PolicyCheck.Proofs.Decoding

/-
  Data that is written and read again. Lists and tables
  come back when what they hold does. A structure comes
  back when each of its fields does, provided that a field
  which is not written has its default.

  Main declarations:
    * `Json.Denotes`
    * `Json.Denotes.list`
    * `Json.Denotes.uniqueMap`
    * `Json.Writes`
    * `Json.Writes.denotes`
-/

namespace PolicyCheck

namespace Json

variable {α : Type} {decode : Json → Decoded α}

------------------------------------------------------------
-- Written Data
------------------------------------------------------------

/- A document without repeats that is read as some data. -/
structure Denotes
    (decode : Json → Decoded α)
    (j : Json)
    (a : α) : Prop where
  noRepeats : j.NoRepeats
  reread : decode j = .ok a

/- Data comes back when it is written and read again. -/
abbrev ComesBack
    (decode : Json → Decoded α)
    (toJson : α → Json)
    (a : α) : Prop :=
  Denotes decode (toJson a) a

/- A string is read as it is. -/
theorem denotes_str
    (s : String) :
    Denotes asString (.str s) s :=
  ⟨.str s, rfl⟩

/- A truth value is read as it is. -/
theorem denotes_bool
    (b : Bool) :
    Denotes asBool (.bool b) b :=
  ⟨.bool b, rfl⟩

namespace Denotes

/- Data that is not written as `null` is present. -/
theorem option
    {j : Json}
    {a : α}
    (hPresent : j ≠ .null)
    (hDenotes : Denotes decode j a) :
    Denotes (asOption decode) j (some a) := by
  refine ⟨hDenotes.noRepeats, ?_⟩
  have hReread := hDenotes.reread
  cases j with
  | null => exact absurd rfl hPresent
  | _ => simp [asOption, hReread, Except.map]

variable {toJson : α → Json}

/- A list comes back if its elements do. -/
theorem list
    {as : List α}
    (hElements : ∀ a ∈ as, ComesBack decode toJson a) :
    Denotes (asList decode) (.arr (as.map toJson)) as := by
  constructor
  · rw [noRepeats_arr_iff]
    intro j hMem
    rcases List.mem_map.mp hMem with ⟨a, hA, rfl⟩
    exact (hElements a hA).noRepeats
  · show (as.map toJson).mapM decode = .ok as
    induction as with
    | nil => rfl
    | cons a rest ih =>
        have hRest : (rest.map toJson).mapM decode = .ok rest :=
          ih fun b hB => hElements b (List.mem_cons_of_mem _ hB)
        have hFirst : decode (toJson a) = .ok a :=
          (hElements a List.mem_cons_self).reread
        rw [List.map_cons, List.mapM_cons, hFirst, hRest]
        rfl

/-
  Members in ascending order are bound one after the other,
  behind those that were bound before.
-/
theorem bindUniqueMembers_mapValues
    (done : Assoc String α)
    {table : Assoc String α}
    (hAscending : (Assoc.keys (done ++ table)).Pairwise (· < ·))
    (hValues :
      ∀ binding ∈ table,
        decode (toJson binding.2) = .ok binding.2) :
    bindUniqueMembers decode done (table.mapValues toJson) =
      .ok (done ++ table) := by
  induction table generalizing done with
  | nil => simp [Assoc.mapValues, bindUniqueMembers]
  | cons binding rest ih =>
      rcases binding with ⟨key, a⟩
      have hSplit :
          done ++ (key, a) :: rest = (done ++ [(key, a)]) ++ rest := by
        simp
      have hGreatest : ∀ other ∈ Assoc.keys done, other < key := by
        intro other hOther
        simp only [Assoc.keys, List.map_append, List.map_cons]
          at hAscending
        exact
          (List.pairwise_append.mp hAscending).2.2 other hOther key
            List.mem_cons_self
      have hNew : Assoc.contains done key = false := by
        rw [Assoc.contains, Option.isSome_eq_false_iff,
          Option.isNone_iff_eq_none, Assoc.find?_eq_none_iff]
        intro hMem
        exact Std.Irrefl.irrefl key (hGreatest key hMem)
      have hRead : decode (toJson a) = .ok a :=
        hValues (key, a) List.mem_cons_self
      show
        (do
          let b ← decode (toJson a)
          if Assoc.contains done key then .error (.repeatedKey key)
          else
            bindUniqueMembers decode (Assoc.insert key b done)
              (Assoc.mapValues toJson rest)) =
          _
      rw [hRead, hSplit]
      show
        (if Assoc.contains done key then _ else _) = _
      rw [if_neg (by simp [hNew]), Assoc.insert_of_greatest hGreatest]
      apply ih
      · rw [← hSplit]
        exact hAscending
      · intro other hOther
        exact hValues other (List.mem_cons_of_mem _ hOther)

/- A table comes back if its values do. -/
theorem uniqueMap
    {table : Assoc String α}
    (hTable : TableOf (ComesBack decode toJson) table) :
    Denotes (asUniqueMap decode) (.obj (table.mapValues toJson))
      table := by
  constructor
  · rw [noRepeats_obj_iff, Assoc.keys_mapValues]
    refine ⟨hTable.ascending.nodup, ?_⟩
    intro member hMember
    rcases List.mem_map.mp hMember with ⟨binding, hBinding, rfl⟩
    exact (hTable.values binding hBinding).noRepeats
  · apply bindUniqueMembers_mapValues []
    · exact hTable.ascending
    · intro binding hBinding
      exact (hTable.values binding hBinding).reread

/- It does so too where a key might be bound twice. -/
theorem map
    {table : Assoc String α}
    (hTable : TableOf (ComesBack decode toJson) table) :
    Denotes (asMap decode) (.obj (table.mapValues toJson)) table :=
  ⟨(uniqueMap hTable).noRepeats,
    asMap_of_asUniqueMap (uniqueMap hTable).reread⟩

end Denotes

------------------------------------------------------------
-- Written Structures
------------------------------------------------------------

/-
  Members that are written for some fields of a structure:
  they come in the order of the fields, and reading them
  makes one structure of another.
-/
structure Writes
    (set : String → Json → α → Decoded α)
    (names : List String)
    (members : List (String × Json))
    (a b : α) : Prop where
  keys : (Assoc.keys members).Sublist names
  values : ∀ member ∈ members, member.2.NoRepeats
  reads :
    members.foldlM (fun c member => set member.1 member.2 c) a =
      .ok b

namespace Writes

variable {set : String → Json → α → Decoded α}

/- A field that is not written stays as it is. -/
theorem skip
    (set : String → Json → α → Decoded α)
    (name : String)
    (a : α) :
    Writes set [name] [] a a :=
  ⟨List.nil_sublist _, by simp, rfl⟩

/- A field that is written is read as its value. -/
theorem field
    {β : Type}
    {read : Json → Decoded β}
    {j : Json}
    {value : β}
    {a : α}
    (set : String → Json → α → Decoded α)
    (name : String)
    (put : β → α)
    (hValue : Denotes read j value)
    (hSet :
      set name j a = (do
        let found ← read j
        .ok (put found))) :
    Writes set [name] [(name, j)] a (put value) := by
  refine ⟨List.Sublist.refl _, ?_, ?_⟩
  · intro member hMember
    rw [List.mem_singleton.mp hMember]
    exact hValue.noRepeats
  · rw [List.foldlM_cons, hSet, hValue.reread]
    rfl

/- What is written for more fields is read after the rest. -/
theorem append
    {first second : List String}
    {before after : List (String × Json)}
    {a b c : α}
    (hBefore : Writes set first before a b)
    (hAfter : Writes set second after b c) :
    Writes set (first ++ second) (before ++ after) a c := by
  refine ⟨?_, ?_, ?_⟩
  · rw [Assoc.keys, List.map_append]
    exact hBefore.keys.append hAfter.keys
  · intro member hMember
    rcases List.mem_append.mp hMember with hFirst | hSecond
    · exact hBefore.values member hFirst
    · exact hAfter.values member hSecond
  · rw [List.foldlM_append, hBefore.reads]
    exact hAfter.reads

/- A field that may be absent is written when it is present. -/
theorem optional
    {β : Type}
    {read : Json → Decoded (Option β)}
    {toJson : β → Json}
    {value : Option β}
    (set : String → Json → α → Decoded α)
    (name : String)
    (put : Option β → α)
    (hValue :
      ∀ b, value = some b → Denotes read (toJson b) (some b))
    (hSet :
      ∀ j, set name j (put none) = (do
        let found ← read j
        .ok (put found))) :
    Writes set [name] (optionalMember name toJson value) (put none)
      (put value) := by
  cases value with
  | none => exact skip set name (put none)
  | some b =>
      exact field set name put (hValue b rfl) (hSet (toJson b))

/- A field that holds a list is written unless it is empty. -/
theorem unlessEmpty
    {β : Type}
    {read : Json → Decoded (List β)}
    {j : Json}
    {items : List β}
    (set : String → Json → α → Decoded α)
    (name : String)
    (put : List β → α)
    (hValue : Denotes read j items)
    (hSet :
      set name j (put []) = (do
        let found ← read j
        .ok (put found))) :
    Writes set [name] (if items.isEmpty then [] else [(name, j)])
      (put []) (put items) := by
  cases items with
  | nil => exact skip set name (put [])
  | cons first rest => exact field set name put hValue hSet

/- Members with new names of fields are all read. -/
theorem assembleMembers_eq
    {layout : Layout}
    {members : List (String × Json)}
    {given : List String}
    {a b : α}
    (hFields : ∀ key ∈ Assoc.keys members, key ∈ layout.fields)
    (hNew : (Assoc.keys members ++ given).Nodup)
    (hRequired :
      ∀ name ∈ layout.required,
        name ∈ Assoc.keys members ++ given)
    (hReads :
      members.foldlM (fun c member => set member.1 member.2 c) a =
        .ok b) :
    layout.assembleMembers given a
        (members.map fun member => (member.1, set member.1 member.2)) =
      .ok b := by
  induction members generalizing given a with
  | nil =>
      have hNone : layout.missing? given = none := by
        rw [Layout.missing?, List.find?_eq_none]
        intro name hName
        simpa [Assoc.keys] using hRequired name hName
      rw [List.map_nil, Layout.assembleMembers, hNone]
      exact hReads
  | cons member rest ih =>
      rcases member with ⟨key, j⟩
      rw [List.foldlM_cons] at hReads
      rcases exists_ok_of_bind hReads with ⟨next, hNext, hRest⟩
      have hField : layout.fields.contains key = true := by
        rw [List.contains_iff_mem]
        exact hFields key List.mem_cons_self
      have hParts :
          key ∉ Assoc.keys rest ++ given ∧
            (Assoc.keys rest ++ given).Nodup :=
        List.nodup_cons.mp hNew
      have hGiven : ¬ given.contains key = true := by
        rw [List.contains_iff_mem]
        intro hMem
        exact hParts.1 (List.mem_append_right _ hMem)
      have hPerm :
          (Assoc.keys rest ++ key :: given).Perm
            (Assoc.keys ((key, j) :: rest) ++ given) :=
        List.perm_middle
      rw [List.map_cons, Layout.assembleMembers, if_pos hField,
        if_neg hGiven, hNext]
      apply ih
      · intro other hOther
        exact hFields other (List.mem_cons_of_mem _ hOther)
      · exact hPerm.nodup_iff.mpr hNew
      · intro name hName
        exact hPerm.mem_iff.mpr (hRequired name hName)
      · exact hRest

/- A structure comes back if its fields make it of its defaults. -/
theorem denotes
    {layout : Layout}
    {members : List (String × Json)}
    {default a : α}
    (hWrites : Writes set layout.fields members default a)
    (hFields : layout.fields.Nodup)
    (hRequired :
      ∀ name ∈ layout.required, name ∈ Assoc.keys members) :
    Denotes (layout.decode set default) (.obj members) a := by
  have hKeys : (Assoc.keys members).Nodup :=
    hWrites.keys.nodup hFields
  refine ⟨noRepeats_obj_iff.mpr ⟨hKeys, hWrites.values⟩, ?_⟩
  apply assembleMembers_eq
  · exact fun key hKey => hWrites.keys.subset hKey
  · simpa using hKeys
  · simpa using hRequired
  · exact hWrites.reads

end Writes

end Json

end PolicyCheck
