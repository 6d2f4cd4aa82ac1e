/-
  This file defines the two ways in which repeats are
  removed from a list: keeping the first occurrence of each
  element, and sorting the elements.

  Key definitions include:
    * `distinct`
    * `distinctBy`
    * `insertAscending`
    * `ascending`

  Both keep exactly the elements of the list:
    * `mem_distinct`
    * `mem_ascending`

  Some questions about a list depend on its elements only:
    * `isEmpty_eq_of_mem_iff`
    * `any_eq_of_mem_iff`
    * `all_eq_of_mem_iff`
    * `distinct_perm`
-/

namespace PolicyCheck

------------------------------------------------------------
-- First Occurrences
------------------------------------------------------------

/- The elements of a list in the order of their first occurrence. -/
def distinct
    {α : Type} [DecidableEq α] : List α → List α
  | [] => []
  | x :: xs => x :: (distinct xs).filter (fun y => y ≠ x)

/- Removing repeats loses no element and adds none. -/
theorem mem_distinct
    {α : Type} [DecidableEq α]
    {x : α}
    {xs : List α} :
    x ∈ distinct xs ↔ x ∈ xs := by
  induction xs with
  | nil => simp [distinct]
  | cons y ys ih =>
      by_cases hEq : x = y
      · simp [distinct, hEq]
      · simp [distinct, ih, hEq]

/- No element is left twice. -/
theorem nodup_distinct
    {α : Type} [DecidableEq α]
    (xs : List α) :
    (distinct xs).Nodup := by
  induction xs with
  | nil => simp [distinct]
  | cons y ys ih =>
      rw [distinct, List.nodup_cons]
      constructor
      · simp
      · exact ih.filter _

/-
  The elements of a list, of those with the same key only
  the first.
-/
def distinctBy
    {α β : Type} [DecidableEq β]
    (key : α → β) : List α → List α
  | [] => []
  | x :: xs =>
      x :: (distinctBy key xs).filter (fun y => key y ≠ key x)

------------------------------------------------------------
-- Ascending Order
------------------------------------------------------------

/- Put an element at its place in an ascending list without it. -/
def insertAscending
    {α : Type} [DecidableEq α] [LT α] [DecidableLT α]
    (x : α) : List α → List α
  | [] => [x]
  | y :: ys =>
      if x < y then x :: y :: ys
      else if x = y then y :: ys
      else y :: insertAscending x ys

/- The distinct elements of a list in ascending order. -/
def ascending
    {α : Type} [DecidableEq α] [LT α] [DecidableLT α]
    (xs : List α) : List α :=
  xs.foldr insertAscending []

/- Putting an element into a list adds that element only. -/
theorem mem_insertAscending
    {α : Type} [DecidableEq α] [LT α] [DecidableLT α]
    {x y : α}
    {xs : List α} :
    y ∈ insertAscending x xs ↔ y = x ∨ y ∈ xs := by
  induction xs with
  | nil => simp [insertAscending]
  | cons z zs ih =>
      unfold insertAscending
      split
      · simp
      · split
        · rename_i hEq
          subst hEq
          simp
        · simp only [List.mem_cons, ih]
          constructor
          · rintro (h | h | h) <;> simp [h]
          · rintro (h | h | h) <;> simp [h]

/- Sorting loses no element and adds none. -/
theorem mem_ascending
    {α : Type} [DecidableEq α] [LT α] [DecidableLT α]
    {x : α}
    {xs : List α} :
    x ∈ ascending xs ↔ x ∈ xs := by
  induction xs with
  | nil => simp [ascending]
  | cons y ys ih =>
      have hStep :
          ascending (y :: ys) = insertAscending y (ascending ys) :=
        rfl
      rw [hStep, mem_insertAscending, ih, List.mem_cons]

------------------------------------------------------------
-- Lists With The Same Elements
------------------------------------------------------------

section SameElements

variable {α : Type} {xs ys : List α}

/- They are empty alike. -/
theorem isEmpty_eq_of_mem_iff
    (hSame : ∀ x, x ∈ xs ↔ x ∈ ys) :
    xs.isEmpty = ys.isEmpty := by
  rw [Bool.eq_iff_iff, List.isEmpty_iff, List.isEmpty_iff,
    List.eq_nil_iff_forall_not_mem, List.eq_nil_iff_forall_not_mem]
  simp only [hSame]

/- A test succeeds somewhere in both, or in neither. -/
theorem any_eq_of_mem_iff
    (hSame : ∀ x, x ∈ xs ↔ x ∈ ys)
    (p : α → Bool) :
    xs.any p = ys.any p := by
  rw [Bool.eq_iff_iff, List.any_eq_true, List.any_eq_true]
  simp only [hSame]

/- A test succeeds throughout both, or through neither. -/
theorem all_eq_of_mem_iff
    (hSame : ∀ x, x ∈ xs ↔ x ∈ ys)
    (p : α → Bool) :
    xs.all p = ys.all p := by
  rw [Bool.eq_iff_iff, List.all_eq_true, List.all_eq_true]
  simp only [hSame]

/- They are the same without repeats, up to order. -/
theorem distinct_perm
    [DecidableEq α]
    (hSame : ∀ x, x ∈ xs ↔ x ∈ ys) :
    (distinct xs).Perm (distinct ys) := by
  rw [List.perm_ext_iff_of_nodup (nodup_distinct xs)
    (nodup_distinct ys)]
  intro x
  rw [mem_distinct, mem_distinct, hSame]

end SameElements

end PolicyCheck
