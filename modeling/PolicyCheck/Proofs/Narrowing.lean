import PolicyCheck.Proofs.Extending
import PolicyCheck.Proofs.ScopeMeaning

/-
  When a policy is called impossible because of its scope,
  and what becomes of that when the scope is narrowed. The
  check looks at types only, and at one of the two parts of
  `is ... in` only. So it is kept by every narrowing but two
  kinds: from being in an entity to being that entity, if it
  is an action, and from being in an entity to being of a
  type whose entities cannot be in it. A narrowing of these
  kinds hides the impossibility of some policy, as soon as
  the schema has an action for it.

  Main declarations:
    * `Schema.applicationIssue?_ne_none_iff`
    * `Validator.CallsScopeImpossible`
    * `Validator.callsScopeImpossible_iff`
    * `ScopeConstraint.Wider`
    * `Schema.loosens`
    * `Schema.scopeAllows_of_wider`
    * `Schema.exists_type_of_wider`
    * `scope_impossible_of_narrowed`
    * `office_narrowing_hides_impossibility`
-/

------------------------------------------------------------
-- Impossible Applications
------------------------------------------------------------

namespace PolicyCheck

namespace Schema

variable {schema : Schema} {policy : Policy}

/-
  An application is impossible if some action applies at
  all, but none of those is allowed by both sides.
-/
theorem applicationIssue?_ne_none_iff :
    schema.applicationIssue? policy ≠ none ↔
      schema.applicable policy.action ≠ [] ∧
        ∀ info ∈ schema.applicable policy.action,
          schema.scopeAllows policy.principal info.principals =
              true →
            schema.scopeAllows policy.resource info.resources =
              false := by
  unfold applicationIssue?
  by_cases hNone : schema.applicable policy.action = []
  · simp [hNone]
  · simp only [List.isEmpty_iff, hNone, if_false, ne_eq,
      not_false_eq_true, true_and]
    split
    · rename_i hAny
      rcases List.any_eq_true.mp hAny with ⟨info, hInfo, hBoth⟩
      rcases Bool.and_eq_true_iff.mp hBoth with
        ⟨hPrincipal, hResource⟩
      refine iff_of_false (fun hSome => hSome rfl) ?_
      intro hAll
      rw [hAll info hInfo hPrincipal] at hResource
      exact Bool.false_ne_true hResource
    · rename_i hAny
      refine iff_of_true ?_ ?_
      · split <;> exact Option.some_ne_none _
      · intro info hInfo hPrincipal
        apply Bool.eq_false_iff.mpr
        intro hResource
        apply hAny
        rw [List.any_eq_true]
        exact ⟨info, hInfo, Bool.and_eq_true_iff.mpr
          ⟨hPrincipal, hResource⟩⟩

/- An action that applies is one of the schema. -/
theorem hasApplicableAction_of_applicable
    (hTabled : schema.Tabled)
    {constraint : ActionConstraint}
    {info : ActionInfo}
    (hInfo : info ∈ schema.applicable constraint) :
    schema.hasApplicableAction = true := by
  rcases List.mem_filter.mp hInfo with ⟨hCandidate, hValid⟩
  have hDeclared := ((mem_candidates_iff hTabled).mp hCandidate).1
  exact hasApplicableAction_of_valid hDeclared hValid

/- Why an application is impossible is a matter of scope. -/
theorem isOfScope_of_applicationIssue?
    {reason : Impossibility}
    (hReason : schema.applicationIssue? policy = some reason) :
    reason.isOfScope = true := by
  have hSide :
      ∀ side (constraint : ScopeConstraint),
        (constraint.sideFailure side).isOfScope = true := by
    intro side constraint
    cases constraint <;> rfl
  have hBoth :
      ∀ principal resource : ScopeConstraint,
        (principal.bothFailure resource).isOfScope = true := by
    intro principal resource
    cases principal <;> cases resource <;> rfl
  unfold applicationIssue? at hReason
  simp only at hReason
  split at hReason
  · cases hReason
  · split at hReason
    · cases hReason
    · split at hReason
      all_goals rw [← Option.some.inj hReason]
      · rfl
      · exact hSide _ _
      · exact hSide _ _
      · exact hBoth _ _

end Schema

namespace Validator

variable {validator : Validator} {guard : Guard} {policy : Policy}

/-
  A policy on its own is called impossible because of its
  scope.
-/
def CallsScopeImpossible
    (validator : Validator)
    (guard : Guard)
    (policy : Policy) : Prop :=
  ∃ diagnostic ∈ validator.validatePolicies guard [policy],
    diagnostic.issue.isImpossibleScope = true

/-
  A scope is impossible if no action of the schema applies,
  because of the actions it names, or because no action is
  allowed by both of its sides. Conditions have no part in
  it, so neither has the guard.
-/
theorem callsScopeImpossible_iff :
    validator.CallsScopeImpossible guard policy ↔
      validator.schema.hasApplicableAction = false ∨
        (∃ issue ∈ validator.schema.actionIssues policy.action,
          issue.isImpossibleScope = true) ∨
        validator.schema.applicationIssue? policy ≠ none := by
  have hIssues :
      validator.CallsScopeImpossible guard policy ↔
        ∃ issue ∈ validator.policyIssues guard policy,
          issue.isImpossibleScope = true := by
    unfold CallsScopeImpossible validatePolicies
    rw [List.flatMap_singleton]
    constructor
    · rintro ⟨diagnostic, hDiagnostic, hScope⟩
      rcases List.mem_map.mp hDiagnostic with ⟨issue, hIssue, rfl⟩
      exact ⟨issue, hIssue, hScope⟩
    · rintro ⟨issue, hIssue, hScope⟩
      exact ⟨_, List.mem_map.mpr ⟨issue, hIssue, rfl⟩, hScope⟩
  rw [hIssues]
  unfold policyIssues
  cases hAction : validator.schema.hasApplicableAction with
  | false =>
      exact iff_of_true
        ⟨_, List.mem_singleton_self _, rfl⟩ (Or.inl rfl)
  | true =>
      simp only [if_true, Bool.true_eq_false, false_or]
      constructor
      · rintro ⟨issue, hIssue, hScope⟩
        simp only [Schema.scopeIssues, List.mem_append]
          at hIssue
        rcases hIssue with
          (((hTypes | hActions) | hApplied) | hConstant) | hTyping
        · rw [Schema.typeIssues_possible policy issue hTypes]
            at hScope
          cases hScope
        · exact Or.inl ⟨issue, hActions, hScope⟩
        · right
          intro hNone
          simp [hNone] at hApplied
        · rcases List.mem_map.mp hConstant with
            ⟨reason, hReason, rfl⟩
          have hOther :=
            policy.impossibleConditions_not_ofScope reason hReason
          rw [Issue.isImpossibleScope, hOther] at hScope
          cases hScope
        · rw [Issue.isImpossibleScope_eq_false
            (Checker.checkConditions_possible _ _ issue hTyping)]
            at hScope
          cases hScope
      · intro hIssue
        simp only [Schema.scopeIssues, List.mem_append]
        rcases hIssue with ⟨issue, hActions, hScope⟩ | hSome
        · exact ⟨issue, by simp [hActions], hScope⟩
        · rcases Option.ne_none_iff_exists'.mp hSome with
            ⟨reason, hReason⟩
          refine ⟨.impossible reason, by simp [hReason], ?_⟩
          exact Schema.isOfScope_of_applicationIssue? hReason

/-
  With an action that applies at all, only the two sides of
  the scope can make it impossible.
-/
theorem callsScopeImpossible_iff_of_applicable
    (hTabled : validator.schema.Tabled)
    (hSome : validator.schema.applicable policy.action ≠ []) :
    validator.CallsScopeImpossible guard policy ↔
      ∀ info ∈ validator.schema.applicable policy.action,
        validator.schema.scopeAllows policy.principal
            info.principals = true →
          validator.schema.scopeAllows policy.resource
            info.resources = false := by
  rcases List.exists_mem_of_ne_nil _ hSome with ⟨info, hInfo⟩
  have hAction :=
    Schema.hasApplicableAction_of_applicable hTabled hInfo
  rw [callsScopeImpossible_iff, Schema.applicationIssue?_ne_none_iff]
  constructor
  · rintro (hNone | ⟨issue, hIssue, hScope⟩ | hApplied)
    · rw [hAction] at hNone
      cases hNone
    · rw [Schema.actionIssues_possible hTabled hInfo issue hIssue]
        at hScope
      cases hScope
    · exact hApplied.2
  · exact fun hAll => Or.inr (Or.inr ⟨hSome, hAll⟩)

/- With one action that applies, its types decide. -/
theorem callsScopeImpossible_iff_of_single
    {schema : Schema}
    (hTabled : schema.Tabled)
    {action : ActionConstraint}
    {name : EntityUid}
    {principals resources : List EntityType}
    {context : RecordType}
    {groups : List EntityUid}
    (hOnly :
      schema.applicable action =
        [⟨name, principals, resources, context, groups⟩])
    (hAction : policy.action = action)
    (options : Options) :
    (Validator.mk schema options).CallsScopeImpossible guard policy ↔
      (schema.scopeAllows policy.principal principals = true →
        schema.scopeAllows policy.resource resources = false) := by
  have hSome : schema.applicable policy.action ≠ [] := by
    rw [hAction, hOnly]
    exact List.cons_ne_nil _ _
  have hAll :
      (Validator.mk schema options).CallsScopeImpossible guard
          policy ↔
        ∀ info ∈ schema.applicable policy.action,
          schema.scopeAllows policy.principal info.principals = true →
            schema.scopeAllows policy.resource info.resources =
              false :=
    callsScopeImpossible_iff_of_applicable hTabled hSome
  rw [hAll, hAction, hOnly]
  exact List.forall_mem_singleton

end Validator

------------------------------------------------------------
-- Narrower Scopes
------------------------------------------------------------

/-
  A constraint demands less than another one, or the same.
  To be an entity and to be of a type and in an entity both
  demand more than to be in it.
-/
inductive ScopeConstraint.Wider :
    ScopeConstraint → ScopeConstraint → Prop where
  | same (constraint : ScopeConstraint) :
      Wider constraint constraint
  | any (constraint : ScopeConstraint) :
      Wider .any constraint
  | memEq (uid : EntityUid) :
      Wider (.mem uid) (.eq uid)
  | memIsIn (type : EntityType) (uid : EntityUid) :
      Wider (.mem uid) (.isIn type uid)
  | isIsIn (type : EntityType) (uid : EntityUid) :
      Wider (.is type) (.isIn type uid)

namespace Schema

variable {schema : Schema}

/-
  The check of the second constraint is looser than that of
  the first. An action may be any principal and resource, but
  nothing is in it by its type alone; and whether entities of
  a type can be in an entity is not looked at if the type is
  given.
-/
def loosens
    (schema : Schema) :
    ScopeConstraint → ScopeConstraint → Bool
  | .mem uid, .eq _ => uid.type.isAction
  | .mem uid, .isIn type _ =>
      type ≠ uid.type && !schema.canBeDescendant type uid.type
  | _, _ => false

/- What is allowed stays allowed in a wider scope. -/
theorem scopeAllows_of_wider
    {wide narrow : ScopeConstraint}
    (hWider : wide.Wider narrow)
    (hStrict : schema.loosens wide narrow = false)
    {allowed : List EntityType}
    (hAllows : schema.scopeAllows narrow allowed = true) :
    schema.scopeAllows wide allowed = true := by
  cases hWider with
  | same => exact hAllows
  | any => rfl
  | memEq uid =>
      have hAction : uid.type.isAction = false := hStrict
      simp only [scopeAllows, hAction, Bool.false_or] at hAllows
      simp [scopeAllows, List.contains_iff_mem.mp hAllows]
  | memIsIn type uid =>
      have hMem : type ∈ allowed := List.contains_iff_mem.mp hAllows
      by_cases hSame : type = uid.type
      · subst hSame
        simp [scopeAllows, hMem]
      · have hReaches :
            schema.canBeDescendant type uid.type = true := by
          simpa [loosens, hSame] using hStrict
        unfold scopeAllows
        rw [Bool.or_eq_true, List.any_eq_true]
        exact Or.inr ⟨type, hMem, hReaches⟩
  | isIsIn type uid => exact hAllows

/- Every constraint allows some type. -/
theorem exists_type_of_constraint
    (schema : Schema)
    (constraint : ScopeConstraint) :
    ∃ type, schema.scopeAllows constraint [type] = true := by
  cases constraint with
  | any => exact ⟨.action, rfl⟩
  | eq uid => exact ⟨uid.type, by simp [scopeAllows]⟩
  | mem uid => exact ⟨uid.type, by simp [scopeAllows]⟩
  | is type => exact ⟨type, by simp [scopeAllows]⟩
  | isIn type uid => exact ⟨type, by simp [scopeAllows]⟩

/-
  The narrower constraint allows some type, and if its check
  is looser, one that the wider constraint does not allow.
-/
theorem exists_type_of_wider
    (schema : Schema)
    {wide narrow : ScopeConstraint}
    (hWider : wide.Wider narrow) :
    ∃ type,
      schema.scopeAllows narrow [type] = true ∧
        (schema.loosens wide narrow = true →
          schema.scopeAllows wide [type] = false) := by
  cases hWider with
  | same =>
      rcases exists_type_of_constraint schema wide with ⟨type, hAllows⟩
      refine ⟨type, hAllows, fun hLoosens => ?_⟩
      cases wide <;> cases hLoosens
  | any =>
      rcases exists_type_of_constraint schema narrow with
        ⟨type, hAllows⟩
      exact ⟨type, hAllows, nofun⟩
  | isIsIn type uid => exact ⟨type, by simp [scopeAllows], nofun⟩
  | memEq uid =>
      cases hAction : uid.type.isAction with
      | false =>
          refine ⟨uid.type, by simp [scopeAllows], ?_⟩
          simp [loosens, hAction]
      | true =>
          -- A type that nothing is said about is not in it.
          rcases exists_type_apart schema uid.type with
            ⟨type, hOther, hApart⟩
          refine ⟨type, by simp [scopeAllows, hAction], fun _ => ?_⟩
          simp [scopeAllows, hApart, Ne.symm hOther]
  | memIsIn type uid =>
      refine ⟨type, by simp [scopeAllows], fun hLoosens => ?_⟩
      have hApart :
          type ≠ uid.type ∧
            schema.canBeDescendant type uid.type = false := by
        simpa [loosens] using hLoosens
      simp [scopeAllows, hApart.2, Ne.symm hApart.1]

/- What a constraint allows depends on the hierarchy only. -/
theorem SameHierarchy.scopeAllows_eq
    {other : Schema}
    (hSame : schema.SameHierarchy other)
    (constraint : ScopeConstraint)
    (allowed : List EntityType) :
    other.scopeAllows constraint allowed =
      schema.scopeAllows constraint allowed := by
  have hDescendants :
      other.canBeDescendant = schema.canBeDescendant := by
    funext source target
    exact hSame source target
  cases constraint <;> simp only [scopeAllows, hDescendants]

end Schema

/- A narrower scope is impossible where none of its checks is looser. -/
theorem Validator.callsScopeImpossible_of_narrowed
    {validator : Validator}
    {guard narrowGuard : Guard}
    {policy : Policy}
    {principal resource : ScopeConstraint}
    (hPrincipal : policy.principal.Wider principal)
    (hResource : policy.resource.Wider resource)
    (hPrincipalStrict :
      validator.schema.loosens policy.principal principal = false)
    (hResourceStrict :
      validator.schema.loosens policy.resource resource = false)
    (hImpossible : validator.CallsScopeImpossible guard policy) :
    validator.CallsScopeImpossible narrowGuard
      { policy with
        principal := principal
        resource := resource } := by
  rw [Validator.callsScopeImpossible_iff] at hImpossible ⊢
  rcases hImpossible with hNoAction | hActions | hApplied
  · exact Or.inl hNoAction
  · exact Or.inr (Or.inl hActions)
  · right
    right
    rw [Schema.applicationIssue?_ne_none_iff] at hApplied ⊢
    refine ⟨hApplied.1, ?_⟩
    intro info hInfo hAllows
    have hWide :=
      hApplied.2 info hInfo
        (Schema.scopeAllows_of_wider hPrincipal hPrincipalStrict
          hAllows)
    apply Bool.eq_false_iff.mpr
    intro hNarrow
    rw [Schema.scopeAllows_of_wider hResource hResourceStrict hNarrow]
      at hWide
    cases hWide

/-
  Narrowing the scope of a policy never hides that it is
  impossible, unless the check of a narrower constraint is
  looser than that of the wider one. And wherever it is, the
  schema can be extended by an action, without any change in
  which entities can be in which, so that the narrowing hides
  the impossibility of the policy on this action.
-/
theorem scope_impossible_of_narrowed
    (validator : Validator)
    (guard narrowGuard : Guard)
    (policy : Policy)
    (principal resource : ScopeConstraint)
    (hPrincipal : policy.principal.Wider principal)
    (hResource : policy.resource.Wider resource) :
    (validator.schema.loosens policy.principal principal = false →
      validator.schema.loosens policy.resource resource = false →
      validator.CallsScopeImpossible guard policy →
      validator.CallsScopeImpossible narrowGuard
        { policy with
          principal := principal
          resource := resource }) ∧
    ∀ allowUnknown fragments,
      Schema.build allowUnknown fragments = .ok validator.schema →
      (validator.schema.loosens policy.principal principal = true ∨
        validator.schema.loosens policy.resource resource = true) →
      ∃ more grown uid,
        Schema.build allowUnknown (more ++ fragments) = .ok grown ∧
          validator.schema.SameHierarchy grown ∧
          (Validator.mk grown validator.options).CallsScopeImpossible
            guard
            { policy with action := .eq uid } ∧
          ¬ (Validator.mk grown
              validator.options).CallsScopeImpossible
            narrowGuard
            { policy with
              principal := principal
              action := .eq uid
              resource := resource } := by
  refine
    ⟨Validator.callsScopeImpossible_of_narrowed hPrincipal hResource, ?_⟩
  intro allowUnknown fragments hBuilt hLoosens
  rcases validator.schema.exists_type_of_wider hPrincipal with
    ⟨person, hPerson, hPersonOnly⟩
  rcases validator.schema.exists_type_of_wider hResource with
    ⟨thing, hThing, hThingOnly⟩
  rcases Schema.exists_applying hBuilt person thing with
    ⟨more, grown, uid, hGrown, hSame, hApplicable⟩
  have hTabled := Schema.tabled_of_build hGrown
  have hWide :
      (Validator.mk grown validator.options).CallsScopeImpossible guard
          { policy with action := .eq uid } ↔
        (grown.scopeAllows policy.principal [person] = true →
          grown.scopeAllows policy.resource [thing] = false) :=
    Validator.callsScopeImpossible_iff_of_single hTabled hApplicable
      rfl validator.options
  have hNarrow :
      (Validator.mk grown validator.options).CallsScopeImpossible
          narrowGuard
          { policy with
            principal := principal
            action := .eq uid
            resource := resource } ↔
        (grown.scopeAllows principal [person] = true →
          grown.scopeAllows resource [thing] = false) :=
    Validator.callsScopeImpossible_iff_of_single hTabled hApplicable
      rfl validator.options
  simp only [hSame.scopeAllows_eq] at hWide hNarrow
  refine
    ⟨more, grown, uid, hGrown, hSame, hWide.mpr ?_, fun hCalled => ?_⟩
  · intro hAllows
    rcases hLoosens with hLooser | hLooser
    · rw [hPersonOnly hLooser] at hAllows
      cases hAllows
    · exact hThingOnly hLooser
  · have hRefused := hNarrow.mp hCalled hPerson
    rw [hThing] at hRefused
    cases hRefused

/- A policy on who may view which documents of the office. -/
def officeViewing
    (principal resource : ScopeConstraint) : Policy :=
  ⟨⟨"viewing"⟩, .permit, principal, .eq ⟨⟨"Action"⟩, "view"⟩,
    resource, []⟩

/- Only users view, and only documents are viewed. -/
theorem officeViewing_impossible_iff
    (principal resource : ScopeConstraint) :
    (Validator.mk officeSchema default).CallsScopeImpossible
        Guard.never (officeViewing principal resource) ↔
      (officeSchema.scopeAllows principal [⟨"User"⟩] = true →
        officeSchema.scopeAllows resource [⟨"Doc"⟩] = false) := by
  have hBuilt :
      Schema.build false [officeFragment] = .ok officeSchema := by
    rfl
  have hApplicable :
      officeSchema.applicable (.eq ⟨⟨"Action"⟩, "view"⟩) =
        [⟨⟨⟨"Action"⟩, "view"⟩, [⟨"User"⟩], [⟨"Doc"⟩], .anything,
          [⟨⟨"Action"⟩, "read"⟩]⟩] := by
    rfl
  exact
    Validator.callsScopeImpossible_iff_of_single
      (Schema.tabled_of_build hBuilt) hApplicable rfl default

/- No user can be in an entity of a type that is no group. -/
theorem office_scopeAllows_mem
    {type : EntityType}
    (hUser : type ≠ ⟨"User"⟩)
    (hGroup : type ≠ ⟨"Group"⟩)
    (hOrg : type ≠ ⟨"Org"⟩)
    (id : String) :
    officeSchema.scopeAllows (.mem ⟨type, id⟩) [⟨"User"⟩] =
      false := by
  simp [Schema.scopeAllows, Schema.canBeDescendant, Graph.reaches,
    Graph.visit, Graph.visitAny, Graph.Visit.later, officeSchema,
    Graph.successors, Schema.typeGraph, Assoc.keys, Assoc.mapValues,
    Assoc.find?_cons, hUser, Ne.symm hGroup, Ne.symm hOrg]

/-
  Nobody who can view a document can be in one, so nobody
  who views it is one.
-/
theorem office_still_impossible :
    (Validator.mk officeSchema default).CallsScopeImpossible
        Guard.never
        (officeViewing (.mem ⟨⟨"Doc"⟩, "plan"⟩) .any) ∧
      (Validator.mk officeSchema default).CallsScopeImpossible
        Guard.never
        (officeViewing (.eq ⟨⟨"Doc"⟩, "plan"⟩) (.is ⟨"Doc"⟩)) := by
  have hImpossible :
      (Validator.mk officeSchema default).CallsScopeImpossible
        Guard.never
        (officeViewing (.mem ⟨⟨"Doc"⟩, "plan"⟩) .any) := by
    rw [officeViewing_impossible_iff, office_scopeAllows_mem]
    all_goals decide
  refine ⟨hImpossible, ?_⟩
  exact
    (scope_impossible_of_narrowed ⟨officeSchema, default⟩
      Guard.never Guard.never
      (officeViewing (.mem ⟨⟨"Doc"⟩, "plan"⟩) .any)
      (.eq ⟨⟨"Doc"⟩, "plan"⟩) (.is ⟨"Doc"⟩) (.memEq _)
      (.any _)).1 (by decide) rfl hImpossible

/-
  Nobody who can view a document can be in one, or in an
  action. Yet users who are in a document are let through,
  and so is an action in the place of the principal.
-/
theorem office_narrowing_hides_impossibility :
    ((ScopeConstraint.mem ⟨⟨"Doc"⟩, "plan"⟩).Wider
        (.isIn ⟨"User"⟩ ⟨⟨"Doc"⟩, "plan"⟩) ∧
      (Validator.mk officeSchema default).CallsScopeImpossible
        Guard.never
        (officeViewing (.mem ⟨⟨"Doc"⟩, "plan"⟩) .any) ∧
      ¬ (Validator.mk officeSchema default).CallsScopeImpossible
        Guard.never
        (officeViewing (.isIn ⟨"User"⟩ ⟨⟨"Doc"⟩, "plan"⟩)
          .any)) ∧
    (ScopeConstraint.mem ⟨⟨"Action"⟩, "view"⟩).Wider
        (.eq ⟨⟨"Action"⟩, "view"⟩) ∧
      (Validator.mk officeSchema default).CallsScopeImpossible
        Guard.never
        (officeViewing (.mem ⟨⟨"Action"⟩, "view"⟩) .any) ∧
      ¬ (Validator.mk officeSchema default).CallsScopeImpossible
        Guard.never
        (officeViewing (.eq ⟨⟨"Action"⟩, "view"⟩) .any) := by
  simp only [officeViewing_impossible_iff]
  refine ⟨⟨.memIsIn _ _, ?_, by decide⟩, .memEq _, ?_, by decide⟩
  · rw [office_scopeAllows_mem]
    all_goals decide
  · rw [office_scopeAllows_mem]
    all_goals decide

end PolicyCheck
