import PolicyCheck.Proofs.Agreement
import PolicyCheck.Proofs.NestedAccesses
import PolicyCheck.Proofs.ScopeBlame

/-
  What a guard of nesting can change. Where it trips, the
  type of an expression is unknown and the issues in it are
  not found, which can silence or raise issues around it.
  Every trip leaves a mark, of which one is reported, so a
  report without a mark is the one without a guard.

  Main declarations:
    * `Policy.TripsAt`
    * `Checker.unguarded`
    * `Checker.limit_mem_checkConditions_iff`
    * `Checker.checkConditions_unguarded`
    * `Validator.preliminary`
    * `nesting_limit_never_silent`
-/

namespace PolicyCheck

/- There is an expression at a position, but no room for it. -/
def Policy.TripsAt
    (policy : Policy)
    (guard : Guard)
    (position : Position) : Prop :=
  guard position = true ∧ ∃ e, policy.exprAt? position = some e

namespace Checker

variable {checker : Checker} {policy : Policy}

------------------------------------------------------------
-- Marks In Expressions
------------------------------------------------------------

/- No issue with an expression itself is a mark. -/
theorem finds_not_limit
    (checker : Checker) :
    checker.Finds fun issue => issue ≠ .recursionLimit := by
  apply finds_of_plain
  intro issue hPlain hLimit
  rw [hLimit] at hPlain
  cases hPlain

/- The marks in an expression with room are those in its parts. -/
theorem limit_mem_assemble_iff
    {level : Nat}
    {e : Expr}
    {parts : List Checked} :
    .recursionLimit ∈ (checker.assemble level e parts).2 ↔
      ∃ part ∈ parts, .recursionLimit ∈ part.2 := by
  have hLevel : .recursionLimit ∉ checker.accessIssues level e := by
    unfold accessIssues levelIssues
    split
    · split <;> simp
    · simp
  rcases checker.finds_not_limit.verdict e (parts.map Prod.fst) with
    ⟨hFirst, hLast⟩
  rw [assemble, List.mem_append, or_iff_right hLevel,
    Verdict.mem_around_iff (fun hMem => hFirst _ hMem rfl)
      (fun hMem => hLast _ hMem rfl),
    ← List.flatMap_def, List.mem_flatMap]

/-
  Parts are marked if the guard trips below the position of
  the whole, as soon as this holds of each of them.
-/
theorem limit_mem_checkParts_iff
    {position : Position}
    {level : Nat}
    (hEach :
      ∀ place e, (policy.partsAt position)[place]? = some e →
        (.recursionLimit ∈
            (checker.check (place :: position) level e).2 ↔
          ∃ other, (place :: position) <:+ other ∧
            policy.TripsAt checker.guard other)) :
    (∃ part ∈
        checker.checkParts position level 0 (policy.partsAt position),
        .recursionLimit ∈ part.2) ↔
      ∃ place other, (place :: position) <:+ other ∧
        policy.TripsAt checker.guard other := by
  constructor
  · intro hMarked
    rcases hMarked with ⟨part, hPart, hMark⟩
    rcases mem_checkParts_iff.mp hPart with ⟨place, e, hFound, rfl⟩
    rw [Nat.zero_add] at hMark
    exact ⟨place, (hEach place e hFound).mp hMark⟩
  · intro hTrips
    rcases hTrips with ⟨place, other, hBelow, hTrip⟩
    rcases hTrip.2 with ⟨inner, hInner⟩
    have hPlace := Policy.lt_length_partsAt hBelow hInner
    have hFound := List.getElem?_eq_getElem hPlace
    refine
      ⟨_, mem_checkParts_iff.mpr ⟨place, _, hFound, rfl⟩, ?_⟩
    rw [Nat.zero_add]
    exact (hEach place _ hFound).mpr ⟨other, hBelow, hTrip⟩

/-
  An expression is marked if the guard trips at it or in it.
  A trip further in is not noticed below another one, but
  that one is.
-/
theorem limit_mem_check_iff
    (e : Expr)
    {position : Position}
    (hFound : policy.exprAt? position = some e)
    (level : Nat) :
    .recursionLimit ∈ (checker.check position level e).2 ↔
      ∃ other, position <:+ other ∧
        policy.TripsAt checker.guard other := by
  induction e using Expr.parts_induction
    generalizing position level with
  | hStep e ih =>
      have hParts := Policy.partsAt_of_exprAt? hFound
      cases hGuard : checker.guard position with
      | true =>
          rw [check_of_guard hGuard]
          apply iff_of_true (List.mem_singleton_self _)
          exact
            ⟨position, List.suffix_refl position, hGuard, e, hFound⟩
      | false =>
          rw [check_eq hGuard, limit_mem_assemble_iff, ← hParts,
            limit_mem_checkParts_iff]
          · constructor
            · intro hBelow
              rcases hBelow with ⟨place, other, hBelow, hTrip⟩
              exact
                ⟨other, (List.suffix_cons place position).trans hBelow,
                  hTrip⟩
            · intro hWithin
              rcases hWithin with ⟨other, hWithin, hTrip⟩
              rcases suffix_iff_eq_or_below.mp hWithin with
                rfl | ⟨place, hBelow⟩
              · rw [hTrip.1] at hGuard
                cases hGuard
              · exact ⟨place, other, hBelow, hTrip⟩
          · intro place part hPart
            rw [hParts] at hPart
            exact
              ih part (List.mem_of_getElem? hPart)
                (Policy.exprAt?_cons hFound hPart) _

------------------------------------------------------------
-- Checking Without A Guard
------------------------------------------------------------

/- A checker with room at every position. -/
def unguarded
    (checker : Checker) : Checker :=
  ⟨checker.schema, checker.env, checker.maxLevel, Guard.never⟩

/- Only the parts of an expression depend on the guard. -/
theorem assemble_unguarded
    (level : Nat)
    (e : Expr)
    (parts : List Checked) :
    checker.unguarded.assemble level e parts =
      checker.assemble level e parts := by
  cases e <;> rfl

/- Where the guard does not trip it changes nothing. -/
theorem check_unguarded
    (e : Expr)
    {position : Position}
    (hFound : policy.exprAt? position = some e)
    (hRoom :
      ∀ other, position <:+ other →
        ¬ policy.TripsAt checker.guard other)
    (level : Nat) :
    checker.unguarded.check position level e =
      checker.check position level e := by
  induction e using Expr.parts_induction
    generalizing position level with
  | hStep e ih =>
      cases hGuard : checker.guard position with
      | true =>
          exact
            absurd ⟨hGuard, e, hFound⟩
              (hRoom position (List.suffix_refl position))
      | false =>
          have hOpen : checker.unguarded.guard position = false := rfl
          rw [check_eq hGuard, check_eq hOpen, assemble_unguarded]
          congr 1
          apply checkParts_congr
          intro place part hPart
          rw [Nat.zero_add]
          apply
            ih part (List.mem_of_getElem? hPart)
              (Policy.exprAt?_cons hFound hPart)
          intro other hBelow
          exact
            hRoom other
              ((List.suffix_cons place position).trans hBelow)

------------------------------------------------------------
-- Conditions
------------------------------------------------------------

/- Reporting a mark only once loses no issue. -/
theorem mem_limitOnce_iff
    {issues : List Issue}
    {issue : Issue} :
    issue ∈ limitOnce issues ↔ issue ∈ issues := by
  refine ⟨mem_of_mem_limitOnce, ?_⟩
  induction issues with
  | nil => exact id
  | cons first rest ih =>
      intro hMem
      unfold limitOnce
      rcases List.mem_cons.mp hMem with rfl | hRest
      · split <;> exact List.mem_cons_self
      · split
        · rename_i hFirst
          by_cases hSame : issue = .recursionLimit
          · rw [hSame, hFirst]
            exact List.mem_cons_self
          · apply List.mem_cons_of_mem
            exact List.mem_filter.mpr ⟨hRest, decide_eq_true hSame⟩
        · exact List.mem_cons_of_mem _ (ih hRest)

/- A mark is reported at most once. -/
theorem count_limitOnce_le_one
    (issues : List Issue) :
    (limitOnce issues).count .recursionLimit ≤ 1 := by
  induction issues with
  | nil => exact Nat.zero_le 1
  | cons first rest ih =>
      unfold limitOnce
      split
      · rename_i hFirst
        have hNone :
            .recursionLimit ∉
              rest.filter fun issue => issue ≠ .recursionLimit := by
          simp
        have hZero := List.count_eq_zero_of_not_mem hNone
        rw [hFirst, List.count_cons_self]
        omega
      · rename_i hFirst
        rw [List.count_cons_of_ne hFirst]
        exact ih

/- Conditions are marked if the guard trips in one of them. -/
theorem limit_mem_checkConditions_iff :
    .recursionLimit ∈ checker.checkConditions policy.conditions ↔
      ∃ position, policy.TripsAt checker.guard position := by
  have hTy : ∀ ty, .recursionLimit ∉ conditionIssues ty := by
    intro ty hMem
    exact checker.finds_not_limit.conditionIssues ty _ hMem rfl
  have hParts :
      .recursionLimit ∈ checker.checkClauses 0 policy.conditions ↔
        ∃ part ∈ checker.checkParts [] 0 0 (policy.partsAt []),
          .recursionLimit ∈ part.2 := by
    simp only [checkClauses_eq, List.mem_flatMap, List.mem_append,
      hTy, or_false]
    rfl
  rw [checkConditions_eq_limitOnce, mem_limitOnce_iff, hParts,
    limit_mem_checkParts_iff]
  · constructor
    · intro hTrips
      rcases hTrips with ⟨_, position, _, hTrip⟩
      exact ⟨position, hTrip⟩
    · intro hTrips
      rcases hTrips with ⟨position, hTrip⟩
      have hInside : [] <:+ position := List.nil_suffix
      rcases suffix_iff_eq_or_below.mp hInside with
        rfl | ⟨place, hBelow⟩
      · rcases hTrip.2 with ⟨e, hNone⟩
        cases hNone
      · exact ⟨place, position, hBelow, hTrip⟩
  · intro place e hPart
    have hFound : policy.exprAt? [place] = some e := hPart
    exact limit_mem_check_iff e hFound 0

/- Where the guard trips nowhere it changes nothing. -/
theorem checkConditions_unguarded
    (hRoom : ∀ position, ¬ policy.TripsAt checker.guard position) :
    checker.unguarded.checkConditions policy.conditions =
      checker.checkConditions policy.conditions := by
  unfold checkConditions
  rw [checkClauses_eq, checkClauses_eq]
  congr 2
  apply checkParts_congr
  intro place e hPart
  have hFound : policy.exprAt? [place] = some e := hPart
  rw [Nat.zero_add]
  exact check_unguarded e hFound (fun other _ => hRoom other) 0

end Checker

------------------------------------------------------------
-- Policies
------------------------------------------------------------

namespace Validator

variable (validator : Validator)

/-
  The issues with the scope of a policy and with conditions
  that are never satisfied.
-/
def preliminary
    (policy : Policy) : List Issue :=
  if validator.schema.hasApplicableAction then
    validator.schema.scopeIssues policy ++
      policy.impossibleConditions.map .impossible
  else
    [.impossible .noApplicableActions]

/- The issues with the types of the conditions of a policy. -/
def conditionIssues
    (guard : Guard)
    (policy : Policy) : List Issue :=
  if validator.schema.hasApplicableAction then
    (validator.checker guard policy).checkConditions policy.conditions
  else
    []

/- The issues that do not depend on the guard come first. -/
theorem policyIssues_eq
    (guard : Guard)
    (policy : Policy) :
    validator.policyIssues guard policy =
      validator.preliminary policy ++
        validator.conditionIssues guard policy := by
  unfold policyIssues preliminary conditionIssues
  split
  · rfl
  · rfl

/- Scopes and conditions that never hold are not marked. -/
theorem limit_notMem_preliminary
    (policy : Policy) :
    .recursionLimit ∉ validator.preliminary policy := by
  intro hMem
  unfold preliminary at hMem
  split at hMem
  · have hOther :
        ∀ issue ∈ validator.schema.scopeIssues policy ++
            policy.impossibleConditions.map Issue.impossible,
          issue ≠ .recursionLimit := by
      refine validator.schema.forall_preliminary policy ?_ ?_ ?_
      · intro type hSame
        cases hSame
      · intro uid hSame
        cases hSame
      · intro reason hSame
        cases hSame
    exact hOther _ hMem rfl
  · simp at hMem

/- A policy is marked at most once. -/
theorem count_limit_le_one
    (guard : Guard)
    (policy : Policy) :
    (validator.policyIssues guard policy).count .recursionLimit ≤
      1 := by
  rw [policyIssues_eq, List.count_append,
    List.count_eq_zero_of_not_mem
      (validator.limit_notMem_preliminary policy), Nat.zero_add]
  unfold conditionIssues
  split
  · rw [Checker.checkConditions_eq_limitOnce]
    exact Checker.count_limitOnce_le_one _
  · exact Nat.zero_le 1

/- A policy that is looked into is marked if the guard trips. -/
theorem limit_mem_policyIssues_iff
    {guard : Guard}
    {policy : Policy} :
    .recursionLimit ∈ validator.policyIssues guard policy ↔
      validator.schema.hasApplicableAction = true ∧
        ∃ position, policy.TripsAt guard position := by
  rw [policyIssues_eq, List.mem_append,
    or_iff_right (validator.limit_notMem_preliminary policy),
    conditionIssues]
  by_cases hApplies : validator.schema.hasApplicableAction = true
  · rw [if_pos hApplies, Checker.limit_mem_checkConditions_iff]
    exact (and_iff_right hApplies).symm
  · rw [if_neg hApplies]
    simp [hApplies]

/- Without a mark the guard has changed nothing. -/
theorem policyIssues_eq_of_not_limit
    {guard : Guard}
    {policy : Policy}
    (hNone :
      .recursionLimit ∉ validator.policyIssues guard policy) :
    validator.policyIssues guard policy =
      validator.policyIssues Guard.never policy := by
  rw [policyIssues_eq, policyIssues_eq, conditionIssues,
    conditionIssues]
  by_cases hApplies : validator.schema.hasApplicableAction = true
  · have hRoom : ∀ position, ¬ policy.TripsAt guard position := by
      intro position hTrip
      apply hNone
      rw [limit_mem_policyIssues_iff]
      exact ⟨hApplies, position, hTrip⟩
    have hSame :
        (validator.checker guard policy).unguarded.checkConditions
            policy.conditions =
          (validator.checker guard policy).checkConditions
            policy.conditions :=
      Checker.checkConditions_unguarded hRoom
    rw [if_pos hApplies, if_pos hApplies, ← hSame]
    rfl
  · rw [if_neg hApplies, if_neg hApplies]

end Validator

/-
  A policy has at most one report that it is nested too deep,
  and it has one if the guard trips anywhere in a policy that
  is looked into. Issues with the scope and with conditions
  that are never satisfied do not depend on the guard, and no
  issue does unless there is such a report.
-/
theorem nesting_limit_never_silent
    (validator : Validator)
    (guard : Guard)
    (policy : Policy) :
    (validator.validatePolicies guard [policy]).countP
        (fun diagnostic => diagnostic.issue = .recursionLimit) ≤ 1 ∧
      (∀ other : Guard,
        validator.validatePolicies other [policy] =
          (validator.preliminary policy ++
            validator.conditionIssues other policy).map
            (Diagnostic.mk policy.id)) ∧
      (⟨policy.id, .recursionLimit⟩ ∈
          validator.validatePolicies guard [policy] ↔
        validator.schema.hasApplicableAction = true ∧
          ∃ position, policy.TripsAt guard position) ∧
      (⟨policy.id, .recursionLimit⟩ ∉
          validator.validatePolicies guard [policy] →
        validator.validatePolicies guard [policy] =
          validator.validatePolicies Guard.never [policy]) := by
  have hMem :
      ⟨policy.id, .recursionLimit⟩ ∈
          validator.validatePolicies guard [policy] ↔
        .recursionLimit ∈ validator.policyIssues guard policy := by
    simp [Validator.validatePolicies_singleton]
  refine ⟨?_, ?_, ?_, ?_⟩
  · rw [Validator.validatePolicies_singleton, List.countP_map]
    exact validator.count_limit_le_one guard policy
  · intro other
    rw [Validator.validatePolicies_singleton,
      Validator.policyIssues_eq]
  · rw [hMem, Validator.limit_mem_policyIssues_iff]
  · intro hNone
    rw [hMem] at hNone
    rw [Validator.validatePolicies_singleton,
      Validator.validatePolicies_singleton,
      validator.policyIssues_eq_of_not_limit hNone]

/- A library where readers borrow books. -/
def librarySchema : Schema :=
  ⟨[(⟨"Book"⟩, ⟨⟨"Book"⟩, .anything, []⟩),
      (⟨"Reader"⟩, ⟨⟨"Reader"⟩, .anything, []⟩)],
    [(⟨⟨"Action"⟩, "borrow"⟩,
        ⟨⟨⟨"Action"⟩, "borrow"⟩, [⟨"Reader"⟩], [⟨"Book"⟩],
          .anything, []⟩)],
    []⟩

/-
  Readers can borrow books under a condition in which a
  number or a text is used as a truth value. As it may be
  either, its type is not known.
-/
def libraryPolicy : Policy :=
  ⟨⟨"library"⟩, .permit, .is ⟨"Reader"⟩,
    .eq ⟨⟨"Action"⟩, "borrow"⟩, .is ⟨"Book"⟩,
    [⟨.when,
      .and
        (.ite (.lit (.bool true)) (.lit (.long 1))
          (.lit (.string "one")))
        (.lit (.bool true))⟩]⟩

/-
  A guard that trips at the text leaves a number, which is
  then reported, together with the mark. A guard that trips
  where the policy has no expression changes nothing.
-/
theorem library_trips_are_marked :
    (Validator.mk librarySchema default).validatePolicies
        (fun position => position = [2, 0, 0]) [libraryPolicy] =
        [⟨⟨"library"⟩, .recursionLimit⟩,
          ⟨⟨"library"⟩, .invalidOperand .boolean .long⟩] ∧
      (⟨⟨"library"⟩, .recursionLimit⟩ : Diagnostic) ∉
        (Validator.mk librarySchema default).validatePolicies
          (fun position => position = [2, 0]) [libraryPolicy] ∧
      (Validator.mk librarySchema default).validatePolicies
          (fun position => position = [2, 0]) [libraryPolicy] =
        (Validator.mk librarySchema default).validatePolicies
          Guard.never [libraryPolicy] := by
  have hNone :
      (⟨⟨"library"⟩, .recursionLimit⟩ : Diagnostic) ∉
        (Validator.mk librarySchema default).validatePolicies
          (fun position => position = [2, 0]) [libraryPolicy] := by
    decide +kernel
  refine ⟨by decide +kernel, hNone, ?_⟩
  exact
    (nesting_limit_never_silent (Validator.mk librarySchema default)
      (fun position => position = [2, 0]) libraryPolicy).2.2.2 hNone

end PolicyCheck
