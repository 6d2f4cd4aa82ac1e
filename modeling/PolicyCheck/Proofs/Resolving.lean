import PolicyCheck.Schema.Resolve

/-
  How computations end that can fail, and that remember the
  common types they resolve. What is shown of the steps of
  such a computation is put together along its structure.

  Main declarations:
    * `exists_ok_of_bind`
    * `Resolving.Ends`
    * `Resolving.Ends.bind`
    * `Resolving.Ends.exists_ok`
-/

namespace PolicyCheck

------------------------------------------------------------
-- Computations That Can Fail
------------------------------------------------------------

/- A computation succeeds only if each of its steps does. -/
theorem exists_ok_of_bind
    {ε α β : Type}
    {first : Except ε α}
    {next : α → Except ε β}
    {result : β}
    (hOk : (first >>= next) = .ok result) :
    ∃ value, first = .ok value ∧ next value = .ok result := by
  cases first with
  | error e => cases hOk
  | ok value => exact ⟨value, rfl, hOk⟩

/- A mapped computation succeeds only if the computation does. -/
theorem exists_ok_of_map
    {ε α β : Type}
    {first : Except ε α}
    {f : α → β}
    {result : β}
    (hOk : first.map f = .ok result) :
    ∃ value, first = .ok value ∧ f value = result := by
  cases first with
  | error e => cases hOk
  | ok value => exact ⟨value, rfl, Except.ok.inj hOk⟩

------------------------------------------------------------
-- Computations That Remember
------------------------------------------------------------

namespace Resolving

variable {α β : Type}

/- The memo in the end may be left out. -/
theorem run'_eq_map
    (action : Resolving α)
    (memo : Memo) :
    action.run' memo = (action.run memo).map Prod.fst := by
  rw [StateT.run'_eq]
  rfl

/- A computation succeeds with some memo in the end. -/
theorem run'_eq_ok_iff
    {action : Resolving α}
    {memo : Memo}
    {a : α} :
    action.run' memo = .ok a ↔
      ∃ after, action.run memo = .ok (a, after) := by
  rw [run'_eq_map]
  cases action.run memo with
  | error e => simp [Except.map]
  | ok result =>
      rcases result with ⟨b, after⟩
      simp [Except.map]

/- A failure stays one when the memo is left out. -/
theorem run'_eq_error_iff
    {action : Resolving α}
    {memo : Memo}
    {e : SchemaError} :
    action.run' memo = .error e ↔
      action.run memo = .error e := by
  rw [run'_eq_map]
  cases action.run memo with
  | error other => simp [Except.map]
  | ok result => simp [Except.map]

/-
  Started with a memo, a computation either succeeds and its
  result and the memo after it are good, or it fails and its
  error is to be expected.
-/
structure Ends
    (action : Resolving α)
    (memo : Memo)
    (good : α → Memo → Prop)
    (bad : SchemaError → Prop) : Prop where
  ok :
    ∀ a after, action.run memo = .ok (a, after) → good a after
  error : ∀ e, action.run memo = .error e → bad e

namespace Ends

variable {memo : Memo}
variable {good : α → Memo → Prop}
variable {bad : SchemaError → Prop}

/- A result on its own leaves the memo as it is. -/
theorem pure
    {a : α}
    (hGood : good a memo) :
    Ends (Pure.pure a) memo good bad := by
  constructor
  · intro b after hRun
    rcases Prod.mk.inj (Except.ok.inj hRun) with ⟨rfl, rfl⟩
    exact hGood
  · intro e hRun
    cases hRun

/- A failure ends with its own error. -/
theorem throw
    {e : SchemaError}
    (hBad : bad e) :
    Ends (MonadExcept.throw e) memo good bad := by
  constructor
  · intro b after hRun
    cases hRun
  · intro other hRun
    rcases Except.error.inj hRun with rfl
    exact hBad

/- The memo itself is asked for. -/
theorem get
    {good : Memo → Memo → Prop}
    (hGood : good memo memo) :
    Ends MonadState.get memo good bad := by
  constructor
  · intro types after hRun
    rcases Prod.mk.inj (Except.ok.inj hRun) with ⟨rfl, rfl⟩
    exact hGood
  · intro e hRun
    cases hRun

/- What is good after one step is where the next one starts. -/
theorem bind
    {first : Resolving β}
    {next : β → Resolving α}
    {between : β → Memo → Prop}
    (hFirst : Ends first memo between bad)
    (hNext :
      ∀ b after, between b after → Ends (next b) after good bad) :
    Ends (first >>= next) memo good bad := by
  cases hRun : first.run memo with
  | error e =>
      have hFails : (first >>= next).run memo = .error e := by
        rw [StateT.run_bind, hRun]
        rfl
      constructor
      · intro a after hOk
        rw [hFails] at hOk
        cases hOk
      · intro other hError
        rw [hFails] at hError
        rcases Except.error.inj hError with rfl
        exact hFirst.error e hRun
  | ok result =>
      rcases result with ⟨b, after⟩
      have hGoesOn :
          (first >>= next).run memo = (next b).run after := by
        rw [StateT.run_bind, hRun]
        rfl
      have hRest := hNext b after (hFirst.ok b after hRun)
      constructor
      · intro a last hOk
        rw [hGoesOn] at hOk
        exact hRest.ok a last hOk
      · intro e hError
        rw [hGoesOn] at hError
        exact hRest.error e hError

/- The memo is read. -/
theorem get_bind
    {next : Memo → Resolving α}
    (hNext : Ends (next memo) memo good bad) :
    Ends (MonadState.get >>= next) memo good bad :=
  ⟨fun a after hRun => hNext.ok a after hRun,
    fun e hRun => hNext.error e hRun⟩

/- The memo is changed. -/
theorem modify_bind
    {f : Memo → Memo}
    {next : PUnit → Resolving α}
    (hNext : Ends (next ⟨⟩) (f memo) good bad) :
    Ends (modify f >>= next) memo good bad :=
  ⟨fun a after hRun => hNext.ok a after hRun,
    fun e hRun => hNext.error e hRun⟩

/- What is good may be weakened. -/
theorem imp
    {action : Resolving α}
    {better : α → Memo → Prop}
    (hEnds : Ends action memo better bad)
    (hImp : ∀ a after, better a after → good a after) :
    Ends action memo good bad :=
  ⟨fun a after hRun => hImp a after (hEnds.ok a after hRun),
    hEnds.error⟩

/- What is to be expected may be weakened. -/
theorem imp_error
    {action : Resolving α}
    {worse : SchemaError → Prop}
    (hEnds : Ends action memo good worse)
    (hImp : ∀ e, worse e → bad e) :
    Ends action memo good bad :=
  ⟨hEnds.ok, fun e hRun => hImp e (hEnds.error e hRun)⟩

/- Where no error is to be expected, there is a good result. -/
theorem exists_ok
    {action : Resolving α}
    (hEnds : Ends action memo good bad)
    (hNever : ∀ e, ¬ bad e) :
    ∃ a after,
      action.run memo = .ok (a, after) ∧ good a after := by
  cases hRun : action.run memo with
  | error e => exact absurd (hEnds.error e hRun) (hNever e)
  | ok result =>
      exact ⟨result.1, result.2, rfl, hEnds.ok _ _ hRun⟩

end Ends

end Resolving

end PolicyCheck
