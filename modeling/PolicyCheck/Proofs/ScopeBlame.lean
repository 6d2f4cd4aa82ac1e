import PolicyCheck.Proofs.Narrowing

/-
  Which part of a scope is to blame when a policy is called
  impossible. There is never more than one such report. It
  names a side of the scope only if that side is in the way
  on its own, so that nothing is gained by dropping the
  other one, and it calls the combination unsupported exactly
  if dropping either side helps.

  Main declarations:
    * `Impossibility.side?`
    * `Schema.ActionReport`
    * `Schema.exists_actionReport`
    * `Schema.CallsImpossible`
    * `Schema.countP_scopeIssues_le_one`
    * `Schema.Fails`
    * `Schema.cases_of_applicationIssue?`
    * `blame_follows_replacements`
    * `gallery_combination_to_blame`
-/

------------------------------------------------------------
-- Sides
------------------------------------------------------------

namespace PolicyCheck

/- The side of the scope that an impossibility blames. -/
def Impossibility.side? : Impossibility → Option ScopeSide
  | .scopeTypeNotAllowed side => some side
  | .inTargetUnreachable side _ => some side
  | _ => none

/- A combination of two sides is not a side. -/
theorem Impossibility.ne_unsupportedCombination_of_side?
    {reason : Impossibility}
    {side : ScopeSide}
    (hSide : reason.side? = some side) :
    reason ≠ .unsupportedCombination := by
  rintro rfl
  cases hSide

namespace ScopeConstraint

/- The failure of one side blames that side. -/
theorem side?_sideFailure
    (side : ScopeSide)
    (constraint : ScopeConstraint) :
    (constraint.sideFailure side).side? = some side := by
  cases constraint <;> rfl

/- The failure of both sides blames one of them, or both. -/
theorem exists_side?_bothFailure
    (principal resource : ScopeConstraint) :
    ∃ side, (principal.bothFailure resource).side? = some side := by
  cases principal <;> cases resource <;> exact ⟨_, rfl⟩

end ScopeConstraint

------------------------------------------------------------
-- Actions
------------------------------------------------------------

namespace Schema

variable {schema : Schema} {policy : Policy}

/-
  The issues with the actions of a scope are unknown actions
  and at most one impossibility. That one blames neither the
  sides nor their combination, and there is none if some
  action applies.
-/
structure ActionReport
    (schema : Schema)
    (constraint : ActionConstraint)
    (unknown : List EntityUid)
    (reason? : Option Impossibility) : Prop where
  issues :
    schema.actionIssues constraint =
      unknown.map schema.unrecognizedAction ++
        reason?.toList.map .impossible
  unapplied :
    reason? ≠ none → schema.applicable constraint = []
  blameless :
    ∀ reason ∈ reason?,
      reason.side? = none ∧ reason ≠ .unsupportedCombination

/- What is reported about actions that are named as groups. -/
theorem exists_actionReport_of_groups
    {constraint : ActionConstraint}
    (hGroups :
      schema.actionIssues constraint = schema.groupIssues constraint)
    (hUnlisted :
      constraint.uids = [] → schema.applicable constraint = []) :
    ∃ unknown reason?,
      schema.ActionReport constraint unknown reason? := by
  by_cases hNone : constraint.uids = []
  · refine
      ⟨[], some .emptyActionSet, ?_, fun _ => hUnlisted hNone, ?_⟩
    · simp [hGroups, groupIssues, hNone]
    · rintro reason ⟨⟩
      simp [Impossibility.side?]
  · let unknown :=
      constraint.uids.filter fun uid => !schema.knowsAction uid
    by_cases hApplied : schema.applicable constraint = []
    · refine
        ⟨unknown, some .noListedActionApplies, ?_,
          fun _ => hApplied, ?_⟩
      · simp [unknown, hGroups, groupIssues, hNone, hApplied]
      · rintro reason ⟨⟩
        simp [Impossibility.side?]
    · refine ⟨unknown, none, ?_, by simp, by simp⟩
      simp [unknown, hGroups, groupIssues, hNone, hApplied]

/- What is reported about the actions of a scope. -/
theorem exists_actionReport
    (constraint : ActionConstraint) :
    ∃ unknown reason?,
      schema.ActionReport constraint unknown reason? := by
  cases constraint with
  | any => exact ⟨[], none, rfl, by simp, by simp⟩
  | eq uid =>
      cases hFound : schema.action? uid with
      | none =>
          refine ⟨[uid], none, ?_, by simp, by simp⟩
          simp [actionIssues, hFound]
      | some action =>
          by_cases hValid : schema.hasValidAppliesTo action = true
          · refine ⟨[], none, ?_, by simp, by simp⟩
            simp [actionIssues, hFound, hValid]
          · refine ⟨[], some (.actionWithoutAppliesTo uid), ?_, ?_, ?_⟩
            · simp [actionIssues, hFound, hValid]
            · intro _
              simp [applicable, candidates, hFound, hValid]
            · rintro reason ⟨⟩
              simp [Impossibility.side?]
  | mem uid =>
      apply exists_actionReport_of_groups rfl
      intro hNone
      cases hNone
  | memSet uids =>
      apply exists_actionReport_of_groups rfl
      rintro (rfl : uids = [])
      rfl

------------------------------------------------------------
-- Reports
------------------------------------------------------------

/-
  What is reported before types are looked at: a type or an
  action is unknown, or the policy is impossible.
-/
theorem forall_preliminary
    (schema : Schema)
    (policy : Policy)
    {P : Issue → Prop}
    (hType : ∀ type, P (schema.unrecognizedType type))
    (hAction : ∀ uid, P (schema.unrecognizedAction uid))
    (hImpossible : ∀ reason, P (.impossible reason)) :
    ∀ issue ∈ schema.scopeIssues policy ++
        policy.impossibleConditions.map Issue.impossible,
      P issue := by
  intro issue hIssue
  rcases schema.exists_actionReport policy.action with
    ⟨unknown, reason?, hReport⟩
  simp only [scopeIssues, hReport.issues, List.mem_append] at hIssue
  rcases hIssue with
    ((hUntyped | hUnknown | hReason) | hApplication) | hConstant
  · rcases List.mem_map.mp hUntyped with ⟨type, _, rfl⟩
    exact hType type
  · rcases List.mem_map.mp hUnknown with ⟨uid, _, rfl⟩
    exact hAction uid
  · rcases List.mem_map.mp hReason with ⟨reason, _, rfl⟩
    exact hImpossible reason
  · rcases List.mem_map.mp hApplication with ⟨reason, _, rfl⟩
    exact hImpossible reason
  · rcases List.mem_map.mp hConstant with ⟨reason, _, rfl⟩
    exact hImpossible reason

/- The check of the scope calls a policy impossible. -/
def CallsImpossible
    (schema : Schema)
    (policy : Policy) : Prop :=
  ∃ reason, Issue.impossible reason ∈ schema.scopeIssues policy

/- Types are unrecognized, but never impossible. -/
theorem impossible_notMem_typeIssues
    (policy : Policy)
    (reason : Impossibility) :
    Issue.impossible reason ∉ schema.typeIssues policy := by
  intro hMem
  obtain ⟨type, _, hType⟩ := List.mem_map.mp hMem
  cases hType

/- The reports come from the actions or from the two sides. -/
theorem impossible_mem_scopeIssues_iff
    {reason : Impossibility} :
    Issue.impossible reason ∈ schema.scopeIssues policy ↔
      Issue.impossible reason ∈ schema.actionIssues policy.action ∨
        schema.applicationIssue? policy = some reason := by
  unfold scopeIssues
  rw [List.mem_append, List.mem_append]
  simp [impossible_notMem_typeIssues]

/- The actions have an issue that is reported whatever the sides are. -/
theorem callsImpossible_of_action
    {reason : Impossibility}
    (hReason :
      Issue.impossible reason ∈ schema.actionIssues policy.action) :
    schema.CallsImpossible policy :=
  ⟨reason, impossible_mem_scopeIssues_iff.mpr (Or.inl hReason)⟩

/- What is impossible about actions leaves none that applies. -/
theorem ActionReport.eq_some
    {constraint : ActionConstraint}
    {unknown : List EntityUid}
    {reason? : Option Impossibility}
    (hReport : schema.ActionReport constraint unknown reason?)
    {reason : Impossibility}
    (hReason :
      Issue.impossible reason ∈ schema.actionIssues constraint) :
    reason? = some reason := by
  rw [hReport.issues, List.mem_append] at hReason
  rcases hReason with hUnknown | hImpossible
  · obtain ⟨uid, _, hUid⟩ := List.mem_map.mp hUnknown
    cases hUid
  · simpa using hImpossible

/- With an action that applies only the two sides matter. -/
theorem callsImpossible_iff_of_applicable
    (policy : Policy)
    (hSome : schema.applicable policy.action ≠ []) :
    schema.CallsImpossible policy ↔
      ∀ info ∈ schema.applicable policy.action,
        schema.scopeAllows policy.principal info.principals = true →
          schema.scopeAllows policy.resource info.resources =
            false := by
  obtain ⟨unknown, reason?, hReport⟩ :=
    schema.exists_actionReport policy.action
  have hSides :
      schema.CallsImpossible policy ↔
        schema.applicationIssue? policy ≠ none := by
    rw [Option.ne_none_iff_exists']
    apply exists_congr
    intro reason
    rw [impossible_mem_scopeIssues_iff]
    apply or_iff_right
    intro hAction
    apply hSome
    apply hReport.unapplied
    rw [hReport.eq_some hAction]
    exact Option.some_ne_none reason
  rw [hSides, applicationIssue?_ne_none_iff]
  exact and_iff_right hSome

/- An impossibility is never reported twice. -/
theorem countP_scopeIssues_le_one
    (policy : Policy) :
    (schema.scopeIssues policy).countP Issue.isImpossible ≤ 1 := by
  have hTypes :
      (schema.typeIssues policy).countP Issue.isImpossible = 0 := by
    rw [List.countP_eq_zero]
    intro issue hIssue
    obtain ⟨type, _, rfl⟩ := List.mem_map.mp hIssue
    exact Bool.false_ne_true
  obtain ⟨unknown, reason?, hReport⟩ :=
    schema.exists_actionReport policy.action
  have hUnknown :
      (unknown.map schema.unrecognizedAction).countP
          Issue.isImpossible = 0 := by
    rw [List.countP_eq_zero]
    intro issue hIssue
    obtain ⟨uid, _, rfl⟩ := List.mem_map.mp hIssue
    exact Bool.false_ne_true
  have hReasons :
      ∀ reasons : Option Impossibility,
        (reasons.toList.map Issue.impossible).countP
          Issue.isImpossible = reasons.toList.length := by
    intro reasons
    cases reasons <;> rfl
  unfold scopeIssues
  rw [hReport.issues]
  simp only [List.countP_append, hTypes, hUnknown, hReasons]
  cases hAction : reason? with
  | none =>
      cases schema.applicationIssue? policy <;> simp
  | some reason =>
      have hUnapplied : schema.applicable policy.action = [] :=
        hReport.unapplied (by simp [hAction])
      have hNone : schema.applicationIssue? policy = none := by
        simp [applicationIssue?, hUnapplied]
      simp [hNone]

------------------------------------------------------------
-- Blame
------------------------------------------------------------

/-
  A constraint on one side of the scope is not satisfied
  under any of the actions that apply.
-/
def Fails
    (schema : Schema)
    (action : ActionConstraint)
    (types : ActionInfo → List EntityType)
    (constraint : ScopeConstraint) : Prop :=
  ∀ info ∈ schema.applicable action,
    schema.scopeAllows constraint (types info) = false

/- The test over all actions that apply decides failure. -/
theorem any_scopeAllows_eq_false_iff
    {action : ActionConstraint}
    {types : ActionInfo → List EntityType}
    {constraint : ScopeConstraint} :
    ((schema.applicable action).any fun info =>
        schema.scopeAllows constraint (types info)) = false ↔
      schema.Fails action types constraint := by
  simp [Fails, List.any_eq_false]

/- Without the resource only the principal can be in the way. -/
theorem callsImpossible_any_resource_iff
    (hSome : schema.applicable policy.action ≠ []) :
    schema.CallsImpossible { policy with resource := .any } ↔
      schema.Fails policy.action ActionInfo.principals
        policy.principal := by
  rw [callsImpossible_iff_of_applicable
    { policy with resource := .any } hSome]
  simp [Fails, scopeAllows]

/- Without the principal only the resource can be in the way. -/
theorem callsImpossible_any_principal_iff
    (hSome : schema.applicable policy.action ≠ []) :
    schema.CallsImpossible { policy with principal := .any } ↔
      schema.Fails policy.action ActionInfo.resources
        policy.resource := by
  rw [callsImpossible_iff_of_applicable
    { policy with principal := .any } hSome]
  simp [Fails, scopeAllows]

/-
  What can be wrong with the two sides: their combination, if
  neither fails alone, or else a side that fails.
-/
theorem cases_of_applicationIssue?
    {reason : Impossibility}
    (hReason : schema.applicationIssue? policy = some reason) :
    schema.applicable policy.action ≠ [] ∧
      (reason = .unsupportedCombination ∧
          ¬ schema.Fails policy.action ActionInfo.principals
            policy.principal ∧
          ¬ schema.Fails policy.action ActionInfo.resources
            policy.resource ∨
        reason.side? = some .principal ∧
          schema.Fails policy.action ActionInfo.principals
            policy.principal ∧
          ¬ schema.Fails policy.action ActionInfo.resources
            policy.resource ∨
        reason.side? = some .resource ∧
          ¬ schema.Fails policy.action ActionInfo.principals
            policy.principal ∧
          schema.Fails policy.action ActionInfo.resources
            policy.resource ∨
        (∃ side, reason.side? = some side) ∧
          schema.Fails policy.action ActionInfo.principals
            policy.principal ∧
          schema.Fails policy.action ActionInfo.resources
            policy.resource) := by
  refine ⟨(applicationIssue?_ne_none_iff.mp (by simp [hReason])).1, ?_⟩
  simp only [← any_scopeAllows_eq_false_iff]
  unfold applicationIssue? at hReason
  simp only at hReason
  split at hReason
  · cases hReason
  · split at hReason
    · cases hReason
    · split at hReason
      all_goals
        rename_i hPrincipal hResource
        rw [hPrincipal, hResource, ← Option.some.inj hReason]
      · simp
      · simp [ScopeConstraint.side?_sideFailure]
      · simp [ScopeConstraint.side?_sideFailure]
      · simp [ScopeConstraint.exists_side?_bothFailure]

end Schema

/-
  A policy is called impossible at most once. If the reason
  is the combination of the two sides, dropping either side
  helps, and this is the reason whenever it does. If the
  reason is a side, dropping the other one does not help, and
  a side that alone is in the way is the one that is blamed.
-/
theorem blame_follows_replacements
    (schema : Schema)
    (policy : Policy) :
    (schema.scopeIssues policy).countP Issue.isImpossible ≤ 1 ∧
      ∀ reason,
        Issue.impossible reason ∈ schema.scopeIssues policy →
          (reason = .unsupportedCombination ↔
            ¬ schema.CallsImpossible
                { policy with principal := .any } ∧
              ¬ schema.CallsImpossible
                { policy with resource := .any }) ∧
          (∀ side, reason.side? = some side →
            (side = .principal ∨ side = .both →
              schema.CallsImpossible
                { policy with resource := .any }) ∧
            (side = .resource ∨ side = .both →
              schema.CallsImpossible
                { policy with principal := .any })) ∧
          (schema.CallsImpossible { policy with resource := .any } →
            ¬ schema.CallsImpossible
                { policy with principal := .any } →
              reason.side? = some .principal) ∧
          (schema.CallsImpossible { policy with principal := .any } →
            ¬ schema.CallsImpossible
                { policy with resource := .any } →
              reason.side? = some .resource) := by
  refine ⟨Schema.countP_scopeIssues_le_one policy, ?_⟩
  intro reason hReason
  rcases Schema.impossible_mem_scopeIssues_iff.mp hReason with
    hAction | hSides
  · -- The actions are to blame, which no replacement changes.
    have hPrincipal :
        schema.CallsImpossible { policy with principal := .any } :=
      Schema.callsImpossible_of_action hAction
    have hResource :
        schema.CallsImpossible { policy with resource := .any } :=
      Schema.callsImpossible_of_action hAction
    obtain ⟨unknown, reason?, hReport⟩ :=
      schema.exists_actionReport policy.action
    obtain ⟨hSide, hCombination⟩ :=
      hReport.blameless reason (hReport.eq_some hAction)
    simp [hPrincipal, hResource, hSide, hCombination]
  · obtain ⟨hSome, hCases⟩ :=
      Schema.cases_of_applicationIssue? hSides
    rw [Schema.callsImpossible_any_resource_iff hSome,
      Schema.callsImpossible_any_principal_iff hSome]
    rcases hCases with
      ⟨rfl, hPrincipal, hResource⟩ | ⟨hSide, hPrincipal, hResource⟩ |
        ⟨hSide, hPrincipal, hResource⟩ |
        ⟨⟨side, hSide⟩, hPrincipal, hResource⟩
    · simp [hPrincipal, hResource, Impossibility.side?]
    all_goals
      have hCombination :=
        Impossibility.ne_unsupportedCombination_of_side? hSide
      simp [hPrincipal, hResource, hSide, hCombination]

/-
  A gallery in which members view paintings and guards move
  boxes.
-/
def gallerySchema : Schema :=
  ⟨[(⟨"Box"⟩, ⟨⟨"Box"⟩, .anything, []⟩),
      (⟨"Guard"⟩, ⟨⟨"Guard"⟩, .anything, []⟩),
      (⟨"Member"⟩, ⟨⟨"Member"⟩, .anything, []⟩),
      (⟨"Painting"⟩, ⟨⟨"Painting"⟩, .anything, []⟩)],
    [(⟨⟨"Action"⟩, "move"⟩,
        ⟨⟨⟨"Action"⟩, "move"⟩, [⟨"Guard"⟩], [⟨"Box"⟩],
          .anything, []⟩),
      (⟨⟨"Action"⟩, "view"⟩,
        ⟨⟨⟨"Action"⟩, "view"⟩, [⟨"Member"⟩], [⟨"Painting"⟩],
          .anything, []⟩)],
    []⟩

/- A policy of the gallery on all actions. -/
def galleryPolicy
    (principal resource : ScopeConstraint) : Policy :=
  ⟨⟨"gallery"⟩, .permit, principal, .any, resource, []⟩

/-
  Guards have no business with paintings, though with other
  things, and others have it with paintings.
-/
theorem gallery_combination_to_blame :
    gallerySchema.scopeIssues
        (galleryPolicy (.is ⟨"Guard"⟩) (.is ⟨"Painting"⟩)) =
      [.impossible .unsupportedCombination] ∧
    ¬ gallerySchema.CallsImpossible
        (galleryPolicy .any (.is ⟨"Painting"⟩)) ∧
      ¬ gallerySchema.CallsImpossible
        (galleryPolicy (.is ⟨"Guard"⟩) .any) := by
  have hIssues :
      gallerySchema.scopeIssues
          (galleryPolicy (.is ⟨"Guard"⟩) (.is ⟨"Painting"⟩)) =
        [.impossible .unsupportedCombination] := by
    rfl
  obtain ⟨_, hBlame⟩ :=
    blame_follows_replacements gallerySchema
      (galleryPolicy (.is ⟨"Guard"⟩) (.is ⟨"Painting"⟩))
  refine ⟨hIssues, ?_⟩
  exact
    (hBlame .unsupportedCombination (by simp [hIssues])).1.mp rfl

end PolicyCheck
