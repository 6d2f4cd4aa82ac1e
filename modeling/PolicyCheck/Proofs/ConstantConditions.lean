import PolicyCheck.Constant
import PolicyCheck.Typing.Check

/-
  What a constant found in a condition says about requests.
  Nothing is assumed of the parts that are neither truth
  values nor connectives: each may turn out true or false,
  or fail. The connectives go from left to right and leave
  out what is decided already.

  A constant that is found is the outcome of the expression,
  unless it fails, and conditions without other parts always
  have one. So a policy with an impossible condition is not
  satisfied, whatever becomes of the other parts.

  Main declarations:
    * `Outcome`
    * `Expr.outcome`
    * `Outcome.Agrees`
    * `Expr.outcome_agrees_of_constant?`
    * `Expr.IsConstant`
    * `Expr.exists_constant?_of_isConstant`
    * `Policy.Satisfied`
    * `constants_are_outcomes`
    * `guarded_never_satisfied`
-/

namespace PolicyCheck

------------------------------------------------------------
-- Outcomes
------------------------------------------------------------

/-
  What becomes of an expression: a truth value, or something
  else, which is a failure or a value of another kind.
-/
inductive Outcome where
  | truth (value : Bool)
  | other
deriving DecidableEq, Repr

namespace Outcome

/- The outcome of a negation. -/
def negate : Outcome → Outcome
  | .truth value => .truth (!value)
  | .other => .other

/- A conjunction asks for its right side if the left one is true. -/
def conj : Outcome → Outcome → Outcome
  | .truth true, right => right
  | left, _ => left

/- A disjunction asks for its right side if the left one is false. -/
def disj : Outcome → Outcome → Outcome
  | .truth false, right => right
  | left, _ => left

/- A choice asks for its test, and then for one side only. -/
def choose : Outcome → Outcome → Outcome → Outcome
  | .truth true, yes, _ => yes
  | .truth false, _, no => no
  | .other, _, _ => .other

end Outcome

/-
  The outcomes of all parts that are neither truth values nor
  connectives. Equal parts at different positions need not
  have the same.
-/
abbrev Outcomes :=
  Position → Expr → Outcome

/- The outcome of an expression at a position. -/
def Expr.outcome
    (outcomes : Outcomes)
    (position : Position) : Expr → Outcome
  | .lit (.bool value) => .truth value
  | .unary .not arg => (arg.outcome outcomes (0 :: position)).negate
  | .and left right =>
      (left.outcome outcomes (0 :: position)).conj
        (right.outcome outcomes (1 :: position))
  | .or left right =>
      (left.outcome outcomes (0 :: position)).disj
        (right.outcome outcomes (1 :: position))
  | .ite test yes no =>
      (test.outcome outcomes (0 :: position)).choose
        (yes.outcome outcomes (1 :: position))
        (no.outcome outcomes (2 :: position))
  | e => outcomes position e

------------------------------------------------------------
-- Agreement
------------------------------------------------------------

namespace Outcome

/- An outcome is a truth value, unless it is something else. -/
def Agrees
    (outcome : Outcome)
    (value : Bool) : Prop :=
  outcome = .truth value ∨ outcome = .other

namespace Agrees

variable {left right test yes no : Outcome} {value : Bool}

/- What agrees with one truth value is not the other one. -/
theorem ne_truth
    (hAgrees : left.Agrees value) :
    left ≠ .truth (!value) := by
  rcases hAgrees with rfl | rfl
  · simp
  · simp

theorem negate
    (hAgrees : left.Agrees value) :
    left.negate.Agrees (!value) := by
  rcases hAgrees with rfl | rfl
  · exact Or.inl rfl
  · exact Or.inr rfl

/- A false left side decides a conjunction. -/
theorem conj_false
    (hLeft : left.Agrees false)
    (right : Outcome) :
    (left.conj right).Agrees false := by
  rcases hLeft with rfl | rfl
  · exact Or.inl rfl
  · exact Or.inr rfl

/- After a true left side a conjunction is its right side. -/
theorem conj_true
    (hLeft : left.Agrees true)
    (hRight : right.Agrees value) :
    (left.conj right).Agrees value := by
  rcases hLeft with rfl | rfl
  · exact hRight
  · exact Or.inr rfl

/- A true left side decides a disjunction. -/
theorem disj_true
    (hLeft : left.Agrees true)
    (right : Outcome) :
    (left.disj right).Agrees true := by
  rcases hLeft with rfl | rfl
  · exact Or.inl rfl
  · exact Or.inr rfl

/- After a false left side a disjunction is its right side. -/
theorem disj_false
    (hLeft : left.Agrees false)
    (hRight : right.Agrees value) :
    (left.disj right).Agrees value := by
  rcases hLeft with rfl | rfl
  · exact hRight
  · exact Or.inr rfl

theorem choose_true
    (hTest : test.Agrees true)
    (hYes : yes.Agrees value)
    (no : Outcome) :
    (test.choose yes no).Agrees value := by
  rcases hTest with rfl | rfl
  · exact hYes
  · exact Or.inr rfl

theorem choose_false
    (hTest : test.Agrees false)
    (yes : Outcome)
    (hNo : no.Agrees value) :
    (test.choose yes no).Agrees value := by
  rcases hTest with rfl | rfl
  · exact hNo
  · exact Or.inr rfl

/- Where both choices agree the test does not matter. -/
theorem choose_same
    (test : Outcome)
    (hYes : yes.Agrees value)
    (hNo : no.Agrees value) :
    (test.choose yes no).Agrees value := by
  rcases test with (_ | _) | _
  · exact hNo
  · exact hYes
  · exact Or.inr rfl

end Agrees

end Outcome

------------------------------------------------------------
-- Constants
------------------------------------------------------------

namespace Expr

/-
  A constant agrees with every outcome. The induction is on
  the search for the constant, one case for each way in
  which a connective gets one from its parts.
-/
theorem outcome_agrees_of_constant?
    {e : Expr}
    {value : Bool}
    (hConstant : e.constant? = some value)
    (outcomes : Outcomes)
    (position : Position) :
    (e.outcome outcomes position).Agrees value := by
  fun_induction Expr.constant? e generalizing value position with
  | case1 literal =>
      rw [← Option.some.inj hConstant]
      exact Or.inl rfl
  | case2 arg ih =>
      obtain ⟨inner, hInner, rfl⟩ :=
        Option.map_eq_some_iff.mp hConstant
      exact (ih hInner _).negate
  | case3 left right hLeft ih =>
      rw [← Option.some.inj hConstant]
      exact (ih hLeft _).conj_false _
  | case4 left right hLeft ihLeft ihRight =>
      exact (ihLeft hLeft _).conj_true (ihRight hConstant _)
  | case6 left right hLeft ih =>
      rw [← Option.some.inj hConstant]
      exact (ih hLeft _).disj_true _
  | case7 left right hLeft ihLeft ihRight =>
      exact (ihLeft hLeft _).disj_false (ihRight hConstant _)
  | case9 test yes no hTest ihTest ihYes =>
      exact (ihTest hTest _).choose_true (ihYes hConstant _) _
  | case10 test yes no hTest ihTest ihNo =>
      exact (ihTest hTest _).choose_false _ (ihNo hConstant _)
  | case11 test yes no _ both hNo hYes _ ihYes ihNo =>
      rw [← Option.some.inj hConstant]
      exact .choose_same _ (ihYes hYes _) (ihNo hNo _)
  | case5 | case8 | case12 | case13 | case14 => cases hConstant

/- An expression has no parts but truth values and connectives. -/
inductive IsConstant : Expr → Prop where
  | truth (value : Bool) : IsConstant (.lit (.bool value))
  | not {arg : Expr} :
      IsConstant arg → IsConstant (.unary .not arg)
  | and {left right : Expr} :
      IsConstant left → IsConstant right →
        IsConstant (.and left right)
  | or {left right : Expr} :
      IsConstant left → IsConstant right →
        IsConstant (.or left right)
  | ite {test yes no : Expr} :
      IsConstant test → IsConstant yes → IsConstant no →
        IsConstant (.ite test yes no)

/- The constant of such an expression is found, and is its outcome. -/
theorem exists_constant?_of_isConstant
    {e : Expr}
    (hConstant : e.IsConstant) :
    ∃ value,
      e.constant? = some value ∧
        ∀ outcomes position,
          e.outcome outcomes position = .truth value := by
  induction hConstant with
  | truth value => exact ⟨value, rfl, fun _ _ => rfl⟩
  | not _ ih =>
      obtain ⟨value, hFound, hOutcome⟩ := ih
      refine ⟨!value, ?_, ?_⟩
      · simp [constant?, hFound]
      · simp [outcome, hOutcome, Outcome.negate]
  | and _ _ ihLeft ihRight =>
      obtain ⟨a, hLeft, hLeftOutcome⟩ := ihLeft
      obtain ⟨b, hRight, hRightOutcome⟩ := ihRight
      refine ⟨a && b, ?_, ?_⟩
      · cases a <;> simp [constant?, hLeft, hRight]
      · cases a <;>
          simp [outcome, hLeftOutcome, hRightOutcome, Outcome.conj]
  | or _ _ ihLeft ihRight =>
      obtain ⟨a, hLeft, hLeftOutcome⟩ := ihLeft
      obtain ⟨b, hRight, hRightOutcome⟩ := ihRight
      refine ⟨a || b, ?_, ?_⟩
      · cases a <;> simp [constant?, hLeft, hRight]
      · cases a <;>
          simp [outcome, hLeftOutcome, hRightOutcome, Outcome.disj]
  | ite _ _ _ ihTest ihYes ihNo =>
      obtain ⟨a, hTest, hTestOutcome⟩ := ihTest
      obtain ⟨b, hYes, hYesOutcome⟩ := ihYes
      obtain ⟨c, hNo, hNoOutcome⟩ := ihNo
      refine ⟨if a then b else c, ?_, ?_⟩
      · cases a <;> simp [constant?, hTest, hYes, hNo]
      · cases a <;>
          simp [outcome, hTestOutcome, hYesOutcome, hNoOutcome,
            Outcome.choose]

end Expr

------------------------------------------------------------
-- Conditions
------------------------------------------------------------

/- The truth value that satisfies a kind of clause. -/
def ClauseKind.wanted : ClauseKind → Bool
  | .when => true
  | .unless => false

/-
  All conditions of a policy are satisfied: what comes after
  `when` is true, and what comes after `unless` is false.
-/
def Policy.Satisfied
    (outcomes : Outcomes)
    (policy : Policy) : Prop :=
  ∀ (index : Nat) (clause : Clause),
    policy.conditions[index]? = some clause →
      clause.body.outcome outcomes [index] =
        .truth clause.kind.wanted

/- An impossible clause has the constant that it does not want. -/
theorem Clause.constant?_of_impossibility?
    {clause : Clause}
    {reason : Impossibility}
    (hReason : clause.impossibility? = some reason) :
    clause.body.constant? = some (!clause.kind.wanted) := by
  unfold impossibility? at hReason
  split at hReason
  · rename_i hKind hConstant
    rw [hKind, hConstant]
    rfl
  · rename_i hKind hConstant
    rw [hKind, hConstant]
    rfl
  · cases hReason

/- A policy with an impossible condition is never satisfied. -/
theorem Policy.not_satisfied_of_impossible
    {policy : Policy}
    (hImpossible : policy.impossibleConditions ≠ [])
    (outcomes : Outcomes) :
    ¬ policy.Satisfied outcomes := by
  intro hSatisfied
  obtain ⟨reason, hReason⟩ := List.exists_mem_of_ne_nil _ hImpossible
  obtain ⟨clause, hClause, hFound⟩ := List.mem_filterMap.mp hReason
  obtain ⟨index, hIndex⟩ := List.mem_iff_getElem?.mp hClause
  have hAgrees :=
    Expr.outcome_agrees_of_constant?
      (Clause.constant?_of_impossibility? hFound) outcomes [index]
  apply hAgrees.ne_truth
  rw [Bool.not_not]
  exact hSatisfied index clause hIndex

/-
  A constant that is found is the outcome of the expression,
  unless that is no truth value. It is found where there are
  only truth values and connectives. So no outcomes of the
  other parts satisfy a policy with an impossible condition.
-/
theorem constants_are_outcomes :
    (∀ (e : Expr) (value : Bool), e.constant? = some value →
      ∀ outcomes position,
        e.outcome outcomes position = .truth value ∨
          e.outcome outcomes position = .other) ∧
      (∀ e : Expr, e.IsConstant →
        ∃ value,
          e.constant? = some value ∧
            ∀ outcomes position,
              e.outcome outcomes position = .truth value) ∧
      ∀ policy : Policy, policy.impossibleConditions ≠ [] →
        ∀ outcomes, ¬ policy.Satisfied outcomes := by
  refine ⟨?_, ?_, ?_⟩
  · intro e value hConstant outcomes position
    exact Expr.outcome_agrees_of_constant? hConstant outcomes position
  · intro e hConstant
    exact Expr.exists_constant?_of_isConstant hConstant
  · intro policy hImpossible outcomes
    exact Policy.not_satisfied_of_impossible hImpossible outcomes

/-
  A policy for principals with a flag, unless having one or
  not comes to the same.
-/
def guardedPolicy : Policy :=
  ⟨⟨"guarded"⟩, .permit, .any, .any, .any,
    [⟨.when, .hasAttr (.var .principal) "flag"⟩,
      ⟨.unless,
        .ite (.hasAttr (.var .principal) "flag")
          (.or (.lit (.bool true)) (.var .context))
          (.unary .not (.lit (.bool false)))⟩]⟩

/-
  The test is not known, and the context is not even a truth
  value. Yet both choices are true, so the policy is never
  satisfied.
-/
theorem guarded_never_satisfied :
    guardedPolicy.impossibleConditions = [.unlessAlwaysTrue] ∧
      ∀ outcomes, ¬ guardedPolicy.Satisfied outcomes :=
  ⟨rfl, constants_are_outcomes.2.2 guardedPolicy (by decide)⟩

end PolicyCheck
