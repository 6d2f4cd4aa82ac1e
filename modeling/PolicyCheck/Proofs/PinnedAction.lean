import PolicyCheck.Proofs.Agreement
import PolicyCheck.Proofs.ScopeMeaning

/-
  A policy whose scope names one action is judged by the
  declaration of that action and by the entity types. What
  else a schema says about actions has no part in it, apart
  from which of the actions in conditions are declared.

  Main declarations:
    * `Schema.Pins`
    * `Env.ofPolicy_of_pins`
    * `Schema.scopeIssues_of_pins`
    * `pinned_policy_judged_alike`
-/

namespace PolicyCheck

------------------------------------------------------------
-- Pinned Scopes
------------------------------------------------------------

namespace Schema

/-
  A schema declares an action in a certain way, and the
  action applies to principals and resources.
-/
structure Pins
    (schema : Schema)
    (action : EntityUid)
    (info : ActionInfo) : Prop where
  declared : schema.action? action = some info
  applies : schema.hasValidAppliesTo info = true

variable {schema : Schema} {action : EntityUid} {info : ActionInfo}

/- The action that is named is the only one that applies. -/
theorem Pins.applicable
    (hPins : schema.Pins action info) :
    schema.applicable (.eq action) = [info] := by
  simp [Schema.applicable, candidates, hPins.declared,
    hPins.applies]

/- The action that is named is no issue. -/
theorem Pins.actionIssues
    (hPins : schema.Pins action info) :
    schema.actionIssues (.eq action) = [] := by
  simp [Schema.actionIssues, hPins.declared, hPins.applies]

/- The schema has an action that applies. -/
theorem Pins.hasApplicableAction
    (hPins : schema.Pins action info) :
    schema.hasApplicableAction = true := by
  have hMem : info ∈ schema.actionInfos :=
    List.mem_map.mpr
      ⟨_, Assoc.mem_of_find? hPins.declared, rfl⟩
  exact hasApplicableAction_of_valid hMem hPins.applies

end Schema

------------------------------------------------------------
-- Two Schemas
------------------------------------------------------------

section TwoSchemas

variable
  {first second : Schema}
  {policy : Policy}
  {action : EntityUid}
  {info : ActionInfo}

/- Schemas with the same types pin the same actions. -/
theorem Schema.Pins.of_sameTypes
    (hTypes : first.SameTypes second)
    (hPins : first.Pins action info)
    (hDeclared : second.action? action = some info) :
    second.Pins action info := by
  refine ⟨hDeclared, ?_⟩
  rw [← hTypes.congr (fun schema => schema.hasValidAppliesTo info)
    fun _ => rfl]
  exact hPins.applies

/- What conditions can rely on comes from the named action. -/
theorem Env.ofPolicy_of_pins
    (hAction : policy.action = .eq action)
    (hFirst : first.Pins action info)
    (hSecond : second.Pins action info) :
    Env.ofPolicy first policy = Env.ofPolicy second policy := by
  simp only [Env.ofPolicy, hAction, hFirst.applicable,
    hSecond.applicable, Schema.candidates, hFirst.declared,
    hSecond.declared]

/- The scope has the same issues. -/
theorem Schema.scopeIssues_of_pins
    (hTypes : first.SameTypes second)
    (hAction : policy.action = .eq action)
    (hFirst : first.Pins action info)
    (hSecond : second.Pins action info) :
    first.scopeIssues policy = second.scopeIssues policy := by
  have hNames : first.typeIssues policy = second.typeIssues policy :=
    hTypes.congr (fun schema => schema.typeIssues policy)
      fun _ => rfl
  have hApplication :
      first.applicationIssue? policy =
        second.applicationIssue? policy := by
    apply Schema.applicationIssue?_congr _ rfl rfl
    · intro other
      rw [hAction, hFirst.applicable, hSecond.applicable]
    · exact hTypes.congr Schema.scopeAllows fun _ => rfl
  unfold Schema.scopeIssues
  rw [hNames, hApplication, hAction, hFirst.actionIssues,
    hSecond.actionIssues]

/- A literal that is declared in both schemas is no issue. -/
theorem Checker.checkLiteral_of_declared
    {left right : Checker}
    (value : Literal)
    (hDeclared :
      ∀ uid, value = .entity uid → uid.type.isAction = true →
        left.schema.knowsAction uid = true ∧
          right.schema.knowsAction uid = true) :
    left.checkLiteral value = right.checkLiteral value := by
  cases value with
  | entity uid =>
      by_cases hKind : uid.type.isAction = true
      · obtain ⟨hLeft, hRight⟩ := hDeclared uid rfl hKind
        simp [Checker.checkLiteral, hLeft, hRight]
      · simp [Checker.checkLiteral, hKind]
  | _ => rfl

end TwoSchemas

/-
  Two schemas with the same entity types that declare an
  action alike, as one that applies, report the same about
  every policy whose scope names it, if the actions that
  stand in its conditions are declared in both. Their other
  actions and groups may be what they like.
-/
theorem pinned_policy_judged_alike
    (first second : Schema)
    (hTypes : first.entityTypes = second.entityTypes)
    (action : EntityUid)
    (info : ActionInfo)
    (hFirst : first.action? action = some info)
    (hSecond : second.action? action = some info)
    (hApplies : first.hasValidAppliesTo info = true)
    (options : Options)
    (guard : Guard)
    (policy : Policy)
    (hAction : policy.action = .eq action)
    (hLiterals :
      ∀ clause ∈ policy.conditions, ∀ uid : EntityUid,
        (Expr.lit (.entity uid)).Occurs clause.body →
          uid.type.isAction = true →
            first.knowsAction uid = true ∧
              second.knowsAction uid = true) :
    (Validator.mk first options).validatePolicies guard [policy] =
      (Validator.mk second options).validatePolicies guard
        [policy] := by
  have hSame : first.SameTypes second := hTypes
  have hPins : first.Pins action info := ⟨hFirst, hApplies⟩
  have hPinsToo := hPins.of_sameTypes hSame hSecond
  have hEnv := Env.ofPolicy_of_pins hAction hPins hPinsToo
  have hConditions :
      ((Validator.mk first options).checker guard
          policy).checkConditions policy.conditions =
        ((Validator.mk second options).checker guard
          policy).checkConditions policy.conditions := by
    apply Checker.Agree.checkConditions
    · exact ⟨hSame, congrArg Env.actionUid hEnv, rfl, rfl⟩
    · intro clause hClause part hOccurs
      cases part with
      | lit value =>
          apply Checker.checkLiteral_of_declared
          rintro uid rfl
          exact hLiterals clause hClause uid hOccurs
      | var name =>
          simp only [Checker.AgreeOn, Checker.varTy,
            Validator.checker, hEnv]
      | _ => trivial
  have hIssues :
      (Validator.mk first options).policyIssues guard policy =
        (Validator.mk second options).policyIssues guard policy := by
    simp only [Validator.policyIssues, hPins.hasApplicableAction,
      hPinsToo.hasApplicableAction, if_true, hConditions,
      Schema.scopeIssues_of_pins hSame hAction hPins hPinsToo]
  rw [Validator.validatePolicies_singleton,
    Validator.validatePolicies_singleton, hIssues]

/-
  The office, with a new group above the one that views are
  in, and with an action that shreds documents.
-/
def growingOffice : Schema :=
  { officeSchema with
    actions := [
      (⟨⟨"Action"⟩, "all"⟩,
        ⟨⟨⟨"Action"⟩, "all"⟩, [], [], .anything, []⟩),
      (⟨⟨"Action"⟩, "read"⟩,
        ⟨⟨⟨"Action"⟩, "read"⟩, [], [], .anything,
          [⟨⟨"Action"⟩, "all"⟩]⟩),
      (⟨⟨"Action"⟩, "shred"⟩,
        ⟨⟨⟨"Action"⟩, "shred"⟩, [⟨"Org"⟩], [⟨"Doc"⟩],
          ⟨[("reason", ⟨.string, true⟩)], .closedAttributes⟩,
          [⟨⟨"Action"⟩, "all"⟩]⟩),
      (⟨⟨"Action"⟩, "view"⟩,
        ⟨⟨⟨"Action"⟩, "view"⟩, [⟨"User"⟩], [⟨"Doc"⟩],
          .anything, [⟨⟨"Action"⟩, "read"⟩]⟩)] }

/- A policy on views that names their group in its condition. -/
def viewingPolicy : Policy :=
  ⟨⟨"viewing"⟩, .permit, .any, .eq ⟨⟨"Action"⟩, "view"⟩,
    .is ⟨"Docs"⟩,
    [⟨.when, .binary .mem (.var .action)
      (.lit (.entity ⟨⟨"Action"⟩, "read"⟩))⟩]⟩

/- Nothing of the office that is new concerns the views. -/
theorem growingOffice_judges_alike :
    (Validator.mk officeSchema default).validatePolicies Guard.never
        [viewingPolicy] =
      (Validator.mk growingOffice default).validatePolicies
        Guard.never [viewingPolicy] := by
  apply pinned_policy_judged_alike officeSchema growingOffice rfl
    ⟨⟨"Action"⟩, "view"⟩ _ rfl rfl rfl default Guard.never
    viewingPolicy rfl
  intro clause hClause uid hOccurs _
  rw [List.mem_singleton.mp hClause] at hOccurs
  have hRead : uid = ⟨⟨"Action"⟩, "read"⟩ := by
    simpa [Expr.subexpressions, Expr.visit, Expr.children] using
      hOccurs.mem_subexpressions
  rw [hRead]
  exact ⟨rfl, rfl⟩

end PolicyCheck
