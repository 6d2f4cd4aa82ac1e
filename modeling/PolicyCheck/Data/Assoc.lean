/-
  This file defines association lists kept in ascending key
  order, the form of every table of this library. Two such
  lists with the same bindings are equal, and a list of
  bindings can stand inside a recursive type.

  Key definitions include:
    * `Assoc`
    * `Assoc.find?`
    * `Assoc.insert`
    * `Assoc.ofList`
    * `Assoc.Ascending`

  A look up after a binding is settled by:
    * `Assoc.find?_insert_self`
    * `Assoc.find?_insert_of_ne`
-/

namespace PolicyCheck

------------------------------------------------------------
-- Association Lists
------------------------------------------------------------

/- A list of bindings from keys to values. -/
abbrev Assoc (κ α : Type) :=
  List (κ × α)

namespace Assoc

variable {κ α β : Type}

/- The keys, in the order of the bindings. -/
def keys
    (bindings : Assoc κ α) : List κ :=
  bindings.map Prod.fst

/- The values, in the order of the bindings. -/
def values
    (bindings : Assoc κ α) : List α :=
  bindings.map Prod.snd

/- The value of the first binding of a key. -/
def find?
    [BEq κ]
    (bindings : Assoc κ α)
    (key : κ) : Option α :=
  bindings.lookup key

/- A key is bound. -/
def contains
    [BEq κ]
    (bindings : Assoc κ α)
    (key : κ) : Bool :=
  (bindings.find? key).isSome

/-
  Bind a key at its place in ascending order. A binding of
  the same key is replaced.
-/
def insert
    [DecidableEq κ] [LT κ] [DecidableLT κ]
    (key : κ)
    (value : α) : Assoc κ α → Assoc κ α
  | [] => [(key, value)]
  | (k, v) :: rest =>
      if key < k then (key, value) :: (k, v) :: rest
      else if key = k then (key, value) :: rest
      else (k, v) :: insert key value rest

/- Bind the pairs one after the other, so that the last one wins. -/
def ofList
    [DecidableEq κ] [LT κ] [DecidableLT κ]
    (pairs : List (κ × α)) : Assoc κ α :=
  pairs.foldl (fun bindings (k, v) => bindings.insert k v) []

/- The same keys with every value mapped. -/
def mapValues
    (f : α → β)
    (bindings : Assoc κ α) : Assoc κ β :=
  bindings.map fun (k, v) => (k, f v)

/- The keys are strictly ascending, so none is bound twice. -/
def Ascending
    [LT κ]
    (bindings : Assoc κ α) : Prop :=
  bindings.keys.Pairwise (· < ·)

instance
    [LT κ] [DecidableLT κ]
    (bindings : Assoc κ α) :
    Decidable bindings.Ascending := by
  unfold Ascending
  infer_instance

------------------------------------------------------------
-- Look Up After Binding
------------------------------------------------------------

/- A key that was bound is found with its value. -/
theorem find?_insert_self
    [DecidableEq κ] [LT κ] [DecidableLT κ]
    (key : κ)
    (value : α)
    (bindings : Assoc κ α) :
    (bindings.insert key value).find? key = some value := by
  induction bindings with
  | nil => simp [insert, find?]
  | cons binding rest ih =>
      obtain ⟨k, v⟩ := binding
      unfold insert
      split
      · simp [find?]
      · split
        · simp [find?]
        · rename_i hNe
          have hBeq : (key == k) = false := by simpa using hNe
          simpa [find?, List.lookup_cons, hBeq] using ih

/- Binding one key does not change what another one is bound to. -/
theorem find?_insert_of_ne
    [DecidableEq κ] [LT κ] [DecidableLT κ]
    {key other : κ}
    (hOther : other ≠ key)
    (value : α)
    (bindings : Assoc κ α) :
    (bindings.insert key value).find? other = bindings.find? other := by
  have hBeq : (other == key) = false := by simpa using hOther
  induction bindings with
  | nil => simp [insert, find?, List.lookup_cons, hBeq]
  | cons binding rest ih =>
      obtain ⟨k, v⟩ := binding
      unfold insert
      split
      · simp [find?, List.lookup_cons, hBeq]
      · split
        · rename_i hEq
          subst hEq
          simp [find?, List.lookup_cons, hBeq]
        · simp only [find?, List.lookup_cons] at ih ⊢
          rw [ih]

end Assoc

end PolicyCheck
