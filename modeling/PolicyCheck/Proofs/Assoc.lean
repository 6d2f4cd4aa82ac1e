import PolicyCheck.Data.Assoc

/-
  Looking up and binding keys in association lists. While
  no key is bound twice, a binding is found exactly when it
  is in the list, and binding a new key only adds to it. A
  list in ascending order is determined by its bindings.

  Main declarations:
    * `Assoc.mem_of_find?`
    * `Assoc.find?_of_mem`
    * `Assoc.find?_eq_none_iff`
    * `Assoc.eq_of_mem_of_mem`
    * `Assoc.find?_mapValues`
    * `Assoc.insert_perm`
    * `Assoc.ascending_insert`
    * `Assoc.eq_of_perm`
    * `Assoc.ext_find?`
    * `Assoc.exists_ascending_perm`
-/

------------------------------------------------------------
-- Look Up
------------------------------------------------------------

namespace PolicyCheck

namespace Assoc

variable {κ α β : Type} [DecidableEq κ]

/- Nothing is found where nothing is bound. -/
@[simp] theorem find?_nil
    (key : κ) :
    find? ([] : Assoc κ α) key = none := rfl

/- The first binding decides about its own key only. -/
theorem find?_cons
    (k key : κ)
    (value : α)
    (rest : Assoc κ α) :
    find? ((k, value) :: rest) key =
      if key = k then some value else rest.find? key := by
  unfold find?
  rw [List.lookup_cons]
  by_cases hKey : key = k
  · simp [hKey]
  · have hBeq : (key == k) = false := by simpa using hKey
    simp [hBeq, hKey]

/- What is found is bound. -/
theorem mem_of_find?
    {bindings : Assoc κ α}
    {key : κ}
    {value : α}
    (hFound : bindings.find? key = some value) :
    (key, value) ∈ bindings := by
  unfold find? at hFound
  rcases List.lookup_eq_some_iff.mp hFound with
    ⟨before, after, hSplit, _⟩
  rw [hSplit]
  simp

/- Nothing is found exactly for keys that are not bound. -/
theorem find?_eq_none_iff
    {bindings : Assoc κ α}
    {key : κ} :
    bindings.find? key = none ↔ key ∉ bindings.keys := by
  induction bindings with
  | nil => simp [keys]
  | cons binding rest ih =>
      rcases binding with ⟨k, value⟩
      rw [find?_cons]
      by_cases hKey : key = k
      · simp [hKey, keys]
      · simp only [hKey, if_false, ih]
        simp [keys, hKey]

/- Something is found exactly for keys that are bound. -/
theorem isSome_find?_iff
    {bindings : Assoc κ α}
    {key : κ} :
    (bindings.find? key).isSome ↔ key ∈ bindings.keys := by
  rw [← Option.ne_none_iff_isSome, Ne, find?_eq_none_iff,
    Decidable.not_not]

/- A key that is bound is found. -/
theorem exists_find?_of_mem_keys
    {bindings : Assoc κ α}
    {key : κ}
    (hKey : key ∈ bindings.keys) :
    ∃ value, bindings.find? key = some value :=
  Option.isSome_iff_exists.mp (isSome_find?_iff.mpr hKey)

/- The key of a binding is bound. -/
omit [DecidableEq κ] in
theorem mem_keys_of_mem
    {bindings : Assoc κ α}
    {key : κ}
    {value : α}
    (hMem : (key, value) ∈ bindings) :
    key ∈ bindings.keys :=
  List.mem_map.mpr ⟨(key, value), hMem, rfl⟩

/- Where no key is bound twice, each binding is found. -/
theorem find?_of_mem
    {bindings : Assoc κ α}
    {key : κ}
    {value : α}
    (hNodup : bindings.keys.Nodup)
    (hMem : (key, value) ∈ bindings) :
    bindings.find? key = some value := by
  induction bindings with
  | nil => simp at hMem
  | cons binding rest ih =>
      rcases binding with ⟨k, v⟩
      have hParts : k ∉ keys rest ∧ (keys rest).Nodup :=
        List.nodup_cons.mp hNodup
      rw [find?_cons]
      rcases List.mem_cons.mp hMem with hHere | hRest
      · rcases Prod.mk.inj hHere with ⟨rfl, rfl⟩
        simp
      · have hKey : key ≠ k := by
          rintro rfl
          exact hParts.1 (mem_keys_of_mem hRest)
        rw [if_neg hKey]
        exact ih hParts.2 hRest

/- Where no key is bound twice, it is bound to one value. -/
theorem eq_of_mem_of_mem
    {bindings : Assoc κ α}
    {key : κ}
    {first second : α}
    (hNodup : bindings.keys.Nodup)
    (hFirst : (key, first) ∈ bindings)
    (hSecond : (key, second) ∈ bindings) :
    first = second := by
  have hFound := find?_of_mem hNodup hFirst
  rw [find?_of_mem hNodup hSecond] at hFound
  exact (Option.some.inj hFound).symm

/- Mapping the values maps what is found. -/
theorem find?_mapValues
    (f : α → β)
    (bindings : Assoc κ α)
    (key : κ) :
    (bindings.mapValues f).find? key =
      (bindings.find? key).map f := by
  induction bindings with
  | nil => rfl
  | cons binding rest ih =>
      rcases binding with ⟨k, value⟩
      have hStep :
          mapValues f ((k, value) :: rest) =
            (k, f value) :: mapValues f rest :=
        rfl
      rw [hStep, find?_cons, find?_cons, ih]
      by_cases hKey : key = k
      · simp [hKey]
      · simp [hKey]

/- Mapping the values keeps the keys. -/
omit [DecidableEq κ] in
theorem keys_mapValues
    (f : α → β)
    (bindings : Assoc κ α) :
    (bindings.mapValues f).keys = bindings.keys := by
  simp [keys, mapValues]

------------------------------------------------------------
-- Binding
------------------------------------------------------------

variable [LT κ] [DecidableLT κ]

/- Binding a new key adds one binding to the others. -/
theorem insert_perm
    {bindings : Assoc κ α}
    {key : κ}
    (hNew : key ∉ bindings.keys)
    (value : α) :
    (bindings.insert key value).Perm ((key, value) :: bindings) := by
  induction bindings with
  | nil => exact List.Perm.refl _
  | cons binding rest ih =>
      rcases binding with ⟨k, v⟩
      have hParts : key ≠ k ∧ key ∉ keys rest := by
        simpa [keys] using hNew
      unfold insert
      split
      · exact List.Perm.refl _
      · rw [if_neg hParts.1]
        exact
          ((ih hParts.2).cons (k, v)).trans
            (List.Perm.swap (key, value) (k, v) rest)

/- A binding of the result was made now or before. -/
theorem mem_insert
    {bindings : Assoc κ α}
    {key : κ}
    {value : α}
    {binding : κ × α}
    (hMem : binding ∈ bindings.insert key value) :
    binding = (key, value) ∨ binding ∈ bindings := by
  induction bindings with
  | nil => exact Or.inl (List.mem_singleton.mp hMem)
  | cons first rest ih =>
      rcases first with ⟨k, v⟩
      unfold insert at hMem
      split at hMem
      · exact List.mem_cons.mp hMem
      · split at hMem
        · rcases List.mem_cons.mp hMem with hHere | hRest
          · exact Or.inl hHere
          · exact Or.inr (List.mem_cons_of_mem _ hRest)
        · rcases List.mem_cons.mp hMem with hHere | hRest
          · exact Or.inr (hHere ▸ List.mem_cons_self)
          · rcases ih hRest with hNow | hBefore
            · exact Or.inl hNow
            · exact Or.inr (List.mem_cons_of_mem _ hBefore)

/- Binding a key adds no other. -/
theorem mem_keys_insert
    {bindings : Assoc κ α}
    {key other : κ}
    {value : α}
    (hOther : other ∈ (bindings.insert key value).keys) :
    other = key ∨ other ∈ bindings.keys := by
  rcases List.mem_map.mp hOther with ⟨binding, hBinding, rfl⟩
  rcases mem_insert hBinding with rfl | hOld
  · exact Or.inl rfl
  · exact Or.inr (mem_keys_of_mem hOld)

/- Without bindings there is nothing to order. -/
omit [DecidableEq κ] [DecidableLT κ] in
theorem ascending_nil :
    Ascending ([] : Assoc κ α) :=
  List.Pairwise.nil

/- Ascending keys are not repeated. -/
omit [DecidableEq κ] [DecidableLT κ] in
theorem Ascending.nodup
    [Std.Irrefl (α := κ) (· < ·)]
    {bindings : Assoc κ α}
    (hAscending : bindings.Ascending) :
    bindings.keys.Nodup := by
  apply List.Pairwise.imp _ hAscending
  intro a b hLt hEq
  subst hEq
  exact Std.Irrefl.irrefl a hLt

/- Binding keeps the keys in ascending order. -/
theorem ascending_insert
    [Trans (α := κ) (· < ·) (· < ·) (· < ·)]
    [Std.Trichotomous (α := κ) (· < ·)]
    {bindings : Assoc κ α}
    (hAscending : bindings.Ascending)
    (key : κ)
    (value : α) :
    (bindings.insert key value).Ascending := by
  induction bindings with
  | nil => simp [insert, Ascending, keys]
  | cons binding rest ih =>
      rcases binding with ⟨k, v⟩
      have hParts :
          (∀ other ∈ keys rest, k < other) ∧ Ascending rest :=
        List.pairwise_cons.mp hAscending
      unfold insert
      split
      · rename_i hBefore
        refine List.pairwise_cons.mpr ⟨?_, hAscending⟩
        intro other hOther
        rcases List.mem_cons.mp hOther with rfl | hRest
        · exact hBefore
        · exact Trans.trans hBefore (hParts.1 other hRest)
      · split
        · rename_i hSame
          subst hSame
          exact hAscending
        · rename_i hNotBefore hNe
          refine List.pairwise_cons.mpr ⟨?_, ih hParts.2⟩
          intro other hOther
          rcases List.mem_map.mp hOther with
            ⟨found, hFound, rfl⟩
          rcases mem_insert hFound with rfl | hRest
          · rcases Std.Trichotomous.rel_or_eq_or_rel_swap
                (r := (· < · : κ → κ → Prop))
                (a := key) (b := k) with
              hLt | hEq | hGt
            · exact absurd hLt hNotBefore
            · exact absurd hEq hNe
            · exact hGt
          · exact hParts.1 found.1 (mem_keys_of_mem hRest)

/- A key above all others is bound at the end. -/
theorem insert_of_greatest
    [Std.Asymm (α := κ) (· < ·)]
    {bindings : Assoc κ α}
    {key : κ}
    (hGreatest : ∀ other ∈ bindings.keys, other < key)
    (value : α) :
    bindings.insert key value = bindings ++ [(key, value)] := by
  induction bindings with
  | nil => rfl
  | cons binding rest ih =>
      rcases binding with ⟨k, v⟩
      have hLt : k < key := hGreatest k List.mem_cons_self
      have hNot : ¬ key < k := Std.Asymm.asymm k key hLt
      have hNe : key ≠ k := by
        rintro rfl
        exact hNot hLt
      rw [insert, if_neg hNot, if_neg hNe, ih]
      · rfl
      · intro other hOther
        exact hGreatest other (List.mem_cons_of_mem _ hOther)

------------------------------------------------------------
-- Ascending Lists
------------------------------------------------------------

/- Ascending lists with the same bindings are equal. -/
omit [DecidableEq κ] [DecidableLT κ] in
theorem eq_of_perm
    [Std.Asymm (α := κ) (· < ·)]
    {first second : Assoc κ α}
    (hFirst : first.Ascending)
    (hSecond : second.Ascending)
    (hPerm : first.Perm second) :
    first = second := by
  have hFirst : first.Pairwise fun a b => a.1 < b.1 :=
    List.pairwise_map.mp hFirst
  have hSecond : second.Pairwise fun a b => a.1 < b.1 :=
    List.pairwise_map.mp hSecond
  apply List.Perm.eq_of_pairwise _ hFirst hSecond hPerm
  intro a b _ _ hLt hGt
  exact absurd hGt (Std.Asymm.asymm a.1 b.1 hLt)

/- Where no key is bound twice, no binding is there twice. -/
omit [DecidableEq κ] [LT κ] [DecidableLT κ] in
theorem nodup_of_keys
    {bindings : Assoc κ α}
    (hKeys : bindings.keys.Nodup) :
    bindings.Nodup := by
  apply List.Pairwise.imp _ (List.pairwise_map.mp hKeys)
  intro a b hNe hEq
  exact hNe (congrArg Prod.fst hEq)

/- Ascending lists that bind all keys alike are equal. -/
omit [DecidableLT κ] in
theorem ext_find?
    [Std.Asymm (α := κ) (· < ·)]
    [Std.Irrefl (α := κ) (· < ·)]
    {first second : Assoc κ α}
    (hFirst : first.Ascending)
    (hSecond : second.Ascending)
    (hFind : ∀ key, first.find? key = second.find? key) :
    first = second := by
  apply eq_of_perm hFirst hSecond
  apply
    (List.perm_ext_iff_of_nodup (nodup_of_keys hFirst.nodup)
      (nodup_of_keys hSecond.nodup)).mpr
  rintro ⟨key, value⟩
  constructor
  · intro hMem
    have hFound := find?_of_mem hFirst.nodup hMem
    rw [hFind] at hFound
    exact mem_of_find? hFound
  · intro hMem
    have hFound := find?_of_mem hSecond.nodup hMem
    rw [← hFind] at hFound
    exact mem_of_find? hFound

/- Bindings of different keys can be put in ascending order. -/
theorem exists_ascending_perm
    [Trans (α := κ) (· < ·) (· < ·) (· < ·)]
    [Std.Trichotomous (α := κ) (· < ·)]
    {bindings : Assoc κ α}
    (hKeys : bindings.keys.Nodup) :
    ∃ table : Assoc κ α,
      table.Ascending ∧ table.Perm bindings := by
  induction bindings with
  | nil => exact ⟨[], ascending_nil, List.Perm.refl _⟩
  | cons binding rest ih =>
      rcases binding with ⟨key, value⟩
      have hParts : key ∉ keys rest ∧ (keys rest).Nodup :=
        List.nodup_cons.mp hKeys
      rcases ih hParts.2 with ⟨table, hAscending, hPerm⟩
      have hNew : key ∉ keys table := fun hMem =>
        hParts.1 ((hPerm.map Prod.fst).mem_iff.mp hMem)
      exact
        ⟨table.insert key value,
          ascending_insert hAscending key value,
          (insert_perm hNew value).trans (hPerm.cons _)⟩

end Assoc

end PolicyCheck
