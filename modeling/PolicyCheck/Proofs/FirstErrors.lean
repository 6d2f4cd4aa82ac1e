import PolicyCheck.Proofs.ValuePositions

/-
  Computations that report the first error. Where the errors
  that could be reported are given by their places, a fair
  result is a success if there are none, and the first of
  them otherwise. Lists and tables are treated fairly if
  their items are.

  Main declarations:
    * `IsFirst`
    * `Reports`
    * `reports_items`
    * `reports_members`
-/

namespace PolicyCheck

open Json (PathStep Earlier)

------------------------------------------------------------
-- First Errors
------------------------------------------------------------

section Errors

variable {ε ι α β : Type}

/- An error is the only one at its place, and all others are later. -/
structure IsFirst
    (errors : List PathStep → ε → Prop)
    (path : List PathStep)
    (e : ε) : Prop where
  stands : errors path e
  first :
    ∀ other f, errors other f →
      (other = path ∧ f = e) ∨ Earlier path other

/- There is one first error at most. -/
theorem IsFirst.unique
    {errors : List PathStep → ε → Prop}
    {path other : List PathStep}
    {e f : ε}
    (hFirst : IsFirst errors path e)
    (hOther : IsFirst errors other f) :
    f = e := by
  rcases hFirst.first other f hOther.stands with
    ⟨_, hSame⟩ | hEarlier
  · exact hSame
  · rcases hOther.first path e hFirst.stands with
      ⟨_, hSame⟩ | hLater
    · exact hSame.symm
    · exact absurd hLater hEarlier.asymm

/-
  `Reports errors result` means that a result is fair to the
  errors there are: it is a success if there are none, and
  the first of them otherwise.
-/
def Reports
    (errors : List PathStep → ε → Prop) : Except ε α → Prop
  | .ok _ => ∀ path e, ¬ errors path e
  | .error e => ∃ path, IsFirst errors path e

namespace Reports

variable
  {errors : List PathStep → ε → Prop}
  {result : Except ε α}

/- What is made of a success does not matter. -/
theorem map
    (hReports : Reports errors result)
    (f : α → β) :
    Reports errors (result.map f) := by
  cases result with
  | ok a => exact hReports
  | error e => exact hReports

/- Only the errors matter. -/
theorem congr
    {others : List PathStep → ε → Prop}
    (hReports : Reports errors result)
    (hSame : ∀ path e, others path e ↔ errors path e) :
    Reports others result := by
  have hEq : others = errors := by
    funext path e
    exact propext (hSame path e)
  rw [hEq]
  exact hReports

/- A success leaves no errors. -/
theorem not_of_ok
    (hReports : Reports errors result)
    {a : α}
    (hOk : result = .ok a)
    (path : List PathStep)
    (e : ε) :
    ¬ errors path e := by
  rw [hOk] at hReports
  exact hReports path e

/- An error is the first one. -/
theorem exists_isFirst_of_error
    (hReports : Reports errors result)
    {e : ε}
    (hError : result = .error e) :
    ∃ path, IsFirst errors path e := by
  rw [hError] at hReports
  exact hReports

/- There is a success exactly if there are no errors. -/
theorem exists_ok_iff
    (hReports : Reports errors result) :
    (∃ a, result = .ok a) ↔ ∀ path e, ¬ errors path e := by
  constructor
  · intro ⟨a, hOk⟩
    exact hReports.not_of_ok hOk
  · intro hNone
    cases hResult : result with
    | ok a => exact ⟨a, rfl⟩
    | error e =>
        rcases hReports.exists_isFirst_of_error hResult with
          ⟨path, hFirst⟩
        exact absurd hFirst.stands (hNone path e)

/- An error is given exactly if it is the first one. -/
theorem eq_error_iff
    (hReports : Reports errors result)
    {e : ε} :
    result = .error e ↔ ∃ path, IsFirst errors path e := by
  constructor
  · exact hReports.exists_isFirst_of_error
  · intro ⟨path, hFirst⟩
    cases hResult : result with
    | ok a =>
        exact
          absurd hFirst.stands (hReports.not_of_ok hResult path e)
    | error f =>
        rcases hReports.exists_isFirst_of_error hResult with
          ⟨other, hOther⟩
        rw [hFirst.unique hOther]

end Reports

------------------------------------------------------------
-- Lists And Tables
------------------------------------------------------------

variable {read : ι → Except ε α}

/- A list is given up at the first item that cannot be read. -/
theorem exists_of_mapM_eq_error
    {items : List ι}
    {e : ε}
    (hError : items.mapM read = .error e) :
    ∃ (index : Nat) (item : ι), items[index]? = some item ∧
      read item = .error e ∧
      ∀ sooner < index, ∀ other, items[sooner]? = some other →
        ∃ a, read other = .ok a := by
  induction items with
  | nil => cases hError
  | cons item rest ih =>
      rw [List.mapM_cons] at hError
      cases hItem : read item with
      | error f =>
          rw [hItem] at hError
          rw [Except.error.inj hError] at hItem
          exact ⟨0, item, rfl, hItem, by simp⟩
      | ok a =>
          have hRest : rest.mapM read = .error e := by
            cases hMore : rest.mapM read with
            | error f =>
                rw [hItem, hMore] at hError
                exact hError
            | ok others =>
                rw [hItem, hMore] at hError
                cases hError
          rcases ih hRest with ⟨index, found, hFound, hRead, hBefore⟩
          refine ⟨index + 1, found, hFound, hRead, ?_⟩
          intro sooner hSooner other hOther
          cases sooner with
          | zero =>
              rw [← Option.some.inj hOther]
              exact ⟨a, hItem⟩
          | succ sooner =>
              exact
                hBefore sooner (Nat.lt_of_succ_lt_succ hSooner) other
                  hOther

/-
  If every item is treated fairly, so is a list in which the
  steps to the items lead to later and later parts.
-/
theorem reports_mapM
    {errors : List PathStep → ε → Prop}
    {errorsIn : ι → List PathStep → ε → Prop}
    {items : List ι}
    (step : Nat → ι → PathStep)
    (hErrors :
      ∀ path e, errors path e ↔
        ∃ index item rest, items[index]? = some item ∧
          path = step index item :: rest ∧ errorsIn item rest e)
    (hSteps :
      ∀ i j, i < j → ∀ a b, items[i]? = some a →
        items[j]? = some b → (step i a).Before (step j b))
    (hEach : ∀ item ∈ items, Reports (errorsIn item) (read item)) :
    Reports errors (items.mapM read) := by
  cases hResult : items.mapM read with
  | ok as =>
      intro path e hIn
      rcases (hErrors path e).mp hIn with
        ⟨index, item, rest, hItem, _, hBelow⟩
      have hAll := forall₂_of_mapM hResult
      rcases exists_getElem?_of_forall₂ hAll hItem with ⟨a, _, hOk⟩
      exact
        (hEach item (List.mem_of_getElem? hItem)).not_of_ok hOk rest e
          hBelow
  | error e =>
      rcases exists_of_mapM_eq_error hResult with
        ⟨index, item, hItem, hError, hBefore⟩
      rcases
        (hEach item
          (List.mem_of_getElem? hItem)).exists_isFirst_of_error
          hError with
        ⟨path, hFirst⟩
      refine ⟨step index item :: path, ?_, ?_⟩
      · exact
          (hErrors _ e).mpr
            ⟨index, item, path, hItem, rfl, hFirst.stands⟩
      · intro _ f hIn
        rcases (hErrors _ f).mp hIn with
          ⟨place, other, rest, hOther, rfl, hBelow⟩
        -- Items after this one are later by their steps. Those
        -- before it could be read, so they have no errors.
        rcases Nat.lt_trichotomy index place with
          hLater | rfl | hSooner
        · exact
            Or.inr
              (.rel (hSteps index place hLater item other hItem hOther))
        · rw [hItem] at hOther
          rw [← Option.some.inj hOther] at hBelow ⊢
          rcases hFirst.first rest f hBelow with
            ⟨rfl, rfl⟩ | hEarlier
          · exact Or.inl ⟨rfl, rfl⟩
          · exact Or.inr (.cons hEarlier)
        · rcases hBefore place hSooner other hOther with ⟨a, hOk⟩
          have hNone :=
            (hEach other (List.mem_of_getElem? hOther)).not_of_ok hOk
          exact absurd hBelow (hNone rest f)

/- The items of a list are visited as they are listed. -/
theorem reports_items
    {errorsIn : ι → List PathStep → ε → Prop}
    {items : List ι}
    (hEach : ∀ item ∈ items, Reports (errorsIn item) (read item)) :
    Reports (InItems errorsIn items) (items.mapM read) := by
  refine reports_mapM (fun index _ => .item index) ?_ ?_ hEach
  · intro path e
    constructor
    · intro hIn
      cases hIn with
      | intro hItem hBelow => exact ⟨_, _, _, hItem, rfl, hBelow⟩
    · intro ⟨index, item, rest, hItem, hPath, hBelow⟩
      rw [hPath]
      exact .intro hItem hBelow
  · intro i j hLt a b _ _
    exact hLt

/- The values of a table are visited in the order of their names. -/
theorem reports_members
    {table : Assoc String α}
    {read : String × α → Except ε β}
    {errorsIn : String → α → List PathStep → ε → Prop}
    (hTable : table.Ascending)
    (hEach :
      ∀ binding ∈ table,
        Reports (errorsIn binding.1 binding.2) (read binding)) :
    Reports (InMembers errorsIn table) (table.mapM read) := by
  refine
    reports_mapM (fun _ binding => .member binding.1) ?_ ?_ hEach
  · intro path e
    constructor
    · intro hIn
      cases hIn with
      | intro hMember hBelow =>
          rcases List.mem_iff_getElem?.mp hMember with ⟨index, hItem⟩
          exact ⟨index, _, _, hItem, rfl, hBelow⟩
    · intro ⟨index, binding, rest, hItem, hPath, hBelow⟩
      rw [hPath]
      exact .intro (List.mem_of_getElem? hItem) hBelow
  · intro i j hLt a b hFirst hSecond
    rcases List.getElem?_eq_some_iff.mp hFirst with ⟨hI, rfl⟩
    rcases List.getElem?_eq_some_iff.mp hSecond with ⟨hJ, rfl⟩
    have hNames := List.pairwise_map.mp hTable
    exact List.pairwise_iff_getElem.mp hNames i j hI hJ hLt

end Errors

end PolicyCheck
